import ApiShapes.Proofs.Lookup
import ApiShapes.Storage.Memory

/-!
# What happens to a memory

A storage in memory changes through calls that add directories, drop everything below a place or put
a file somewhere.  `Contents` is what there is to see of a memory, without the log of its calls and
without the order in which it keeps things.  `Ensures` says what a program leaves there, be it that
the program succeeds or that one of its calls is refused.  Main statements: a program ensures what
its parts ensure one after the other, and a call either changes nothing or does what it is for.
-/

namespace ApiShapes

/-- What a memory holds: which places are directories, and the contents of the files. -/
@[ext]
structure Contents where
  dirs : Location → Prop
  files : Location → Option ByteArray

namespace Contents

/-- A place and all around it become directories. -/
def addDirs (contents : Contents) (place : Location) : Contents where
  dirs dir := contents.dirs dir ∨ (dir ≠ [] ∧ dir <+: place)
  files := contents.files

/-- Everything at a place or below it is gone. -/
def dropBelow (contents : Contents) (root : Location) : Contents where
  dirs dir := contents.dirs dir ∧ ¬ root <+: dir
  files place := if root <+: place then none else contents.files place

/-- A file is put at a place, whatever was there. -/
def putFile (contents : Contents) (target : Location) (content : ByteArray) : Contents where
  dirs := contents.dirs
  files place := if place = target then some content else contents.files place

/-- The files below a place are gone with it, the others are still there. -/
theorem files_dropBelow (contents : Contents) (root place : Location) :
    (contents.dropBelow root).files place =
      if root <+: place then none else contents.files place := rfl

theorem files_putFile (contents : Contents) (target place : Location) (content : ByteArray) :
    (contents.putFile target content).files place =
      if place = target then some content else contents.files place := rfl

end Contents

namespace Memory

/-- What there is to see of a memory. -/
def contents (memory : Memory) : Contents where
  dirs place := place ∈ memory.dirs
  files := memory.file?

@[simp]
theorem contents_record (memory : Memory) (entry : Call) :
    (memory.record entry).contents = memory.contents := rfl

@[simp]
theorem contents_refusal (memory : Memory) (refusal : Option Refusal) :
    { memory with refusal := refusal }.contents = memory.contents := rfl

/-- Inserting a directory adds it and nothing else. -/
theorem mem_insertDir {place dir : Location} {dirs : List Location} :
    dir ∈ insertDir place dirs ↔ dir ∈ dirs ∨ dir = place := by
  rw [insertDir]
  split
  · rename_i known
    constructor
    · exact .inl
    · rintro (isOld | rfl)
      · exact isOld
      · exact known
  · rw [List.mem_append, List.mem_singleton]

theorem mem_foldl_insertDir {dir : Location} (added dirs : List Location) :
    dir ∈ added.foldl (fun dirs dir => insertDir dir dirs) dirs ↔ dir ∈ dirs ∨ dir ∈ added := by
  induction added generalizing dirs with
  | nil => simp
  | cons first others ih =>
      rw [List.foldl_cons, ih, mem_insertDir, List.mem_cons, or_assoc]

/-- The ancestors of a place are its beginnings, except for the empty one. -/
theorem mem_ancestors {place dir : Location} :
    dir ∈ ancestors place ↔ dir ≠ [] ∧ dir <+: place := by
  rw [ancestors, List.mem_map]
  constructor
  · rintro ⟨count, inRange, rfl⟩
    have bound := List.mem_range.mp inRange
    refine ⟨?_, List.take_prefix _ _⟩
    intro isEmpty
    have noLength := congrArg List.length isEmpty
    rw [List.length_take, List.length_nil] at noLength
    omega
  · rintro ⟨nonempty, isAbove⟩
    have positive := List.length_pos_iff.mpr nonempty
    have bound := isAbove.length_le
    refine ⟨dir.length - 1, List.mem_range.mpr (by omega), ?_⟩
    rw [Nat.sub_add_cancel positive]
    exact (List.prefix_iff_eq_take.mp isAbove).symm

/-- A file that is put at a place replaces the one that was there. -/
theorem lookup_insertFile
    (place target : Location) (content : ByteArray) (files : List (Location × ByteArray)) :
    (insertFile target content files).lookup place =
      if place = target then some content else files.lookup place := by
  induction files with
  | nil => exact lookup_cons_eq_ite place target content []
  | cons file files ih =>
      rw [insertFile]
      split
      · rename_i isTarget
        rw [lookup_cons_eq_ite, lookup_cons_eq_ite, isTarget]
        split <;> rfl
      · rename_i notTarget
        rw [lookup_cons_eq_ite, lookup_cons_eq_ite, ih]
        by_cases isFile : place = file.1
        · rw [if_pos isFile, if_pos isFile, if_neg (isFile ▸ notTarget)]
        · rw [if_neg isFile, if_neg isFile]

/-- Among the files that are left, those at other places are found as before. -/
theorem lookup_dropBelow
    (root place : Location) (files : List (Location × ByteArray)) :
    (files.filter fun file => !root.isPrefixOf file.1).lookup place =
      if root <+: place then none else files.lookup place := by
  induction files with
  | nil => simp
  | cons file files ih =>
      rw [List.filter_cons, lookup_cons_eq_ite]
      split
      · rename_i isKept
        have notBelow : ¬ root <+: file.1 := by
          simpa [← List.isPrefixOf_iff_prefix] using isKept
        rw [lookup_cons_eq_ite, ih]
        by_cases isFile : place = file.1
        · rw [if_pos isFile, if_pos isFile, if_neg (isFile ▸ notBelow)]
        · rw [if_neg isFile, if_neg isFile]
      · rename_i isDropped
        have below : root <+: file.1 := by
          simpa [← List.isPrefixOf_iff_prefix] using isDropped
        rw [ih]
        by_cases isFile : place = file.1
        · rw [if_pos (isFile ▸ below), if_pos (isFile ▸ below)]
        · rw [if_neg isFile]

/-- To look at, a memory gets the directories on the way to a place. -/
@[simp]
theorem contents_addDirs (memory : Memory) (place : Location) :
    (memory.addDirs place).contents = memory.contents.addDirs place := by
  ext dir : 2
  · simp only [contents, addDirs, Contents.addDirs, mem_foldl_insertDir, mem_ancestors]
  · rfl

/-- To look at, a memory gets the one file. -/
@[simp]
theorem contents_putFile (memory : Memory) (target : Location) (content : ByteArray) :
    (memory.putFile target content).contents = memory.contents.putFile target content := by
  ext place : 2
  · rfl
  · exact lookup_insertFile place target content memory.files

/-- To look at, a memory loses what lies at a place or below it. -/
@[simp]
theorem contents_dropBelow (memory : Memory) (root : Location) :
    (memory.dropBelow root).contents = memory.contents.dropBelow root := by
  ext place : 2
  · simp [contents, Contents.dropBelow, dropBelow, ← List.isPrefixOf_iff_prefix]
  · exact lookup_dropBelow root place memory.files

theorem read_of_file
    {memory : Memory} {path : Path} {content : ByteArray}
    (isFile : memory.contents.files path.components = some content) :
    (Workspace.read path : StateM Memory (Except StorageFault ByteArray)) memory =
      (.ok content, memory) := by
  have isFound : memory.file? path.components = some content := isFile
  simp only [Workspace.read, isFound]

/-- Where there is no file, reading is refused and changes nothing. -/
theorem read_of_no_file
    {memory : Memory} {path : Path} (noFile : memory.contents.files path.components = none) :
    ∃ fault, (Workspace.read path : StateM Memory (Except StorageFault ByteArray)) memory =
      (.error fault, memory) := by
  have isMissing : memory.file? path.components = none := noFile
  simp only [Workspace.read, isMissing]
  exact ⟨_, rfl⟩

/-- The result of a program, and the memory that it leaves behind. -/
def run {α : Type} (memory : Memory) (program : ExceptT Error (StateM Memory) α) :
    Except Error α × Memory :=
  program.run memory

section Run

variable {α β : Type} (memory : Memory)

theorem run_pure (result : α) : memory.run (pure result) = (.ok result, memory) := rfl

/-- A program goes on with the memory that the part before has left, unless that part failed. -/
theorem run_bind
    (program : ExceptT Error (StateM Memory) α) (next : α → ExceptT Error (StateM Memory) β) :
    memory.run (program >>= next) =
      match memory.run program with
      | (.ok result, now) => now.run (next result)
      | (.error error, now) => (.error error, now) := by
  have sequence : memory.run (program >>= next) =
      (fun (result, now) => ExceptT.bindCont next result now) (memory.run program) := rfl
  rw [sequence]
  rcases memory.run program with ⟨_ | result, now⟩ <;> rfl

theorem run_except (result : Except Error α) :
    memory.run (liftM result) = (result, memory) := by
  cases result <;> rfl

theorem run_isDir (path : Path) :
    memory.run (liftM (Storage.isDir path : StateM Memory Bool)) =
      (.ok (memory.hasDir path.components), memory) := rfl

/-- A refusal becomes an error with the path of the call, and the memory is what the call left. -/
theorem run_attempt (path : Path) (operation : StateM Memory (Except StorageFault α)) :
    memory.run (Storage.attempt path operation) =
      ((operation memory).1.mapError (.storage path), (operation memory).2) := rfl

end Run

/-- A refused call changes nothing that can be seen, and any other does what it is for. -/
theorem call_contents
    {change : Memory → Memory} {effect : Contents → Contents}
    (changes : ∀ memory, (change memory).contents = effect memory.contents)
    (operation : Operation) (path : Path) (entry : Call) (memory : Memory) :
    match call operation path entry change memory with
    | (.ok (), now) => now.contents = effect memory.contents
    | (.error _, now) => now.contents = memory.contents := by
  have carriedOut (refusal : Option Refusal) :
      ((change { memory with refusal := refusal }).record entry).contents =
        effect memory.contents := by
    rw [contents_record, changes, contents_refusal]
  rw [call]
  cases memory.refusal with
  | none => simp only [contents_record, changes]
  | some refusal =>
      by_cases sameOperation : refusal.operation = operation
      · by_cases isNow : refusal.remaining = 0
        · simp [sameOperation, isNow]
        · simp only [sameOperation, isNow, if_true, if_false]
          exact carriedOut _
      · simp only [sameOperation, if_false, contents_record, changes]

/-! ## What programs ensure -/

/--
From contents in `before`, a program ends with a result and contents in `done`, or it fails and
leaves contents in `failed`.
-/
def Ensures {α : Type} (before : Contents → Prop) (program : ExceptT Error (StateM Memory) α)
    (done : α → Contents → Prop) (failed : Contents → Prop) : Prop :=
  ∀ memory : Memory, before memory.contents →
    match memory.run program with
    | (.ok result, now) => done result now.contents
    | (.error _, now) => failed now.contents

namespace Ensures

variable {α β : Type} {before : Contents → Prop} {failed : Contents → Prop}

theorem pure {result : α} {done : α → Contents → Prop}
    (holds : ∀ contents, before contents → done result contents) :
    Ensures before (Pure.pure result) done failed := by
  intro memory isBefore
  rw [run_pure]
  exact holds _ isBefore

/--
Two programs, one after the other, ensure what the second ensures behind the first; where the first
fails, nothing more is done.
-/
theorem bind
    {program : ExceptT Error (StateM Memory) α} {next : α → ExceptT Error (StateM Memory) β}
    {middle : α → Contents → Prop} {done : β → Contents → Prop}
    (first : Ensures before program middle failed)
    (rest : ∀ result, Ensures (middle result) (next result) done failed) :
    Ensures before (program >>= next) done failed := by
  intro memory isBefore
  have atMiddle := first memory isBefore
  rw [run_bind]
  generalize memory.run program = ending at atMiddle
  rcases ending with ⟨_ | result, now⟩
  · exact atMiddle
  · exact rest result now atMiddle

/-- A program ensures less of what it ensures, from more than it needs. -/
theorem weaken
    {program : ExceptT Error (StateM Memory) α} {stronger : Contents → Prop}
    {done weaker : α → Contents → Prop}
    (valid : Ensures before program done failed)
    (entails : ∀ contents, stronger contents → before contents)
    (follows : ∀ result contents, done result contents → weaker result contents) :
    Ensures stronger program weaker failed := by
  intro memory isBefore
  have ends := valid memory (entails _ isBefore)
  generalize memory.run program = ending at ends
  rcases ending with ⟨_ | result, now⟩
  · exact ends
  · exact follows result now.contents ends

/-- A fact that does not depend on the memory may be assumed. -/
theorem assuming
    {fact : Prop} {program : ExceptT Error (StateM Memory) α} {done : α → Contents → Prop}
    (valid : fact → Ensures before program done failed) :
    Ensures (fun contents => fact ∧ before contents) program done failed := by
  intro memory ⟨holds, isBefore⟩
  exact valid holds memory isBefore

/-- What each item keeps, all items keep. -/
theorem mapM
    {program : α → ExceptT Error (StateM Memory) β} {items : List α}
    (each : ∀ item ∈ items, Ensures before (program item) (fun _ => before) failed) :
    Ensures before (items.mapM program) (fun _ => before) failed := by
  induction items with
  | nil => exact pure fun _ kept => kept
  | cons first others ih =>
      rw [List.mapM_cons]
      have keepOthers := ih fun item member => each item (List.mem_cons_of_mem first member)
      exact (each first List.mem_cons_self).bind fun _ =>
        keepOthers.bind fun _ => pure fun _ kept => kept

/-- A computation that uses no storage changes nothing there. -/
theorem ofExcept {result : Except Error α} {done : α → Contents → Prop}
    (succeeds : ∀ value contents, result = .ok value → before contents → done value contents)
    (fails : ∀ contents, before contents → failed contents) :
    Ensures before (liftM result) done failed := by
  intro memory isBefore
  rw [run_except]
  cases result with
  | error error => exact fails _ isBefore
  | ok value => exact succeeds value _ rfl isBefore

/-- A question for a directory splits what is ensured into the two answers. -/
theorem isDir {path : Path} {next : Bool → ExceptT Error (StateM Memory) β}
    {done : β → Contents → Prop}
    (yes : Ensures (fun contents => before contents ∧ contents.dirs path.components)
      (next true) done failed)
    (no : Ensures (fun contents => before contents ∧ ¬ contents.dirs path.components)
      (next false) done failed) :
    Ensures before (liftM (Storage.isDir path : StateM Memory Bool) >>= next) done failed := by
  intro memory isBefore
  rw [run_bind, run_isDir, hasDir]
  by_cases isThere : path.components ∈ memory.dirs
  · simp only [isThere, decide_true]
    exact yes memory ⟨isBefore, isThere⟩
  · simp only [isThere, decide_false]
    exact no memory ⟨isBefore, isThere⟩

/--
A call ensures what it is for if it is carried out, and leaves what was there if it is refused.
-/
theorem call
    {operation : Operation} {path : Path} {entry : Call} {change : Memory → Memory}
    {effect : Contents → Contents} {done : Contents → Prop}
    (changes : ∀ memory, (change memory).contents = effect memory.contents)
    (carriedOut : ∀ contents, before contents → done (effect contents))
    (refused : ∀ contents, before contents → failed contents) :
    Ensures before
      (Storage.attempt path (Memory.call operation path entry change : StateM Memory _))
      (fun _ => done) failed := by
  intro memory isBefore
  have sees := call_contents changes operation path entry memory
  rw [run_attempt]
  generalize Memory.call operation path entry change memory = ending at sees
  rcases ending with ⟨_ | _, now⟩
  · exact (congrArg failed sees).mpr (refused _ isBefore)
  · exact (congrArg done sees).mpr (carriedOut _ isBefore)

theorem createDirs {path : Path} {done : Contents → Prop}
    (carriedOut : ∀ contents, before contents → done (contents.addDirs path.components))
    (refused : ∀ contents, before contents → failed contents) :
    Ensures before (Storage.attempt path (Storage.createDirs (m := StateM Memory) path))
      (fun _ => done) failed :=
  .call (contents_addDirs · path.components) carriedOut refused

theorem removeDir {path : Path} {done : Contents → Prop}
    (carriedOut : ∀ contents, before contents → done (contents.dropBelow path.components))
    (refused : ∀ contents, before contents → failed contents) :
    Ensures before (Storage.attempt path (Storage.removeDir (m := StateM Memory) path))
      (fun _ => done) failed :=
  .call (contents_dropBelow · path.components) carriedOut refused

theorem write {path : Path} {content : ByteArray} {done : Contents → Prop}
    (carriedOut : ∀ contents, before contents → done (contents.putFile path.components content))
    (refused : ∀ contents, before contents → failed contents) :
    Ensures before (Storage.attempt path (Storage.write (m := StateM Memory) path content))
      (fun _ => done) failed :=
  .call (contents_putFile · path.components content) carriedOut refused

end Ensures

end Memory

end ApiShapes
