import ApiShapes.Proofs.Output.Writing

/-!
# Sessions

A session is a sequence of calls of the generator with one choice of settings, over a storage in
memory.  A call of the generator ends at the first call of the storage that is refused, so one
refusal to come for each of them lets any call of the storage fail.  Main statement: whatever a
session did and wherever it failed, nothing outside the output directory is lost or changed, and the
next time that generating succeeds the output directory holds the files of the plan and no others.
-/

namespace ApiShapes.Output

open Memory

/-- A call of the generator. -/
inductive Action where
  | clear
  | prepare
  | plan (schema : Schema)
  | generate (schema : Schema)

/-- The work of a call, without its result. -/
def Action.program (settings : Settings) : Action → ExceptT Error (StateM Memory) Unit
  | clear => Output.clear settings
  | prepare => Output.prepare settings
  | plan schema => do
      let _ ← Plan.ofSchema schema settings.ns
      pure ()
  | generate schema => do
      let _ ← Output.generate settings schema
      pure ()

/-- The calls of a session, each with the call of the storage that is refused on the way, if any. -/
abbrev Session := List (Option Refusal × Action)

/-- The memory after one call of the generator. -/
def afterCall (settings : Settings) (memory : Memory) (call : Option Refusal × Action) : Memory :=
  (Memory.run { memory with refusal := call.1 } (call.2.program settings)).2

/-- The memory after a session. -/
def afterSession (settings : Settings) (start : Memory) (session : Session) : Memory :=
  session.foldl (afterCall settings) start

variable {settings : Settings}

/-- Each action keeps to the output directory, also when a call of it is refused. -/
theorem ensures_action
    (hasComponents : settings.outputDir.components ≠ []) (start : Contents) (action : Action) :
    Ensures (Confined start settings.outputDir.components) (action.program settings)
      (fun _ => Confined start settings.outputDir.components)
      (Confined start settings.outputDir.components) := by
  cases action with
  | clear =>
      exact ensures_clear.weaken (fun _ confined => confined) fun _ _ both => both.1
  | prepare =>
      intro memory confined
      refine (ensures_prepare hasComponents memory.contents.files).weaken
        (fun _ both => both) (fun _ _ both => both.1) memory ⟨confined, ?_⟩
      intro place below
      rfl
  | plan schema =>
      refine .bind (.ofExcept (fun _ _ _ confined => confined) fun _ confined => confined) ?_
      intro classes
      exact .pure fun _ confined => confined
  | generate schema =>
      refine .bind (ensures_generate hasComponents schema) ?_
      intro paths
      exact .pure fun _ both => both.1

/-- One call of a session keeps to the output directory. -/
theorem afterCall_confined
    (hasComponents : settings.outputDir.components ≠ []) {start : Contents} {memory : Memory}
    (confined : Confined start settings.outputDir.components memory.contents)
    (call : Option Refusal × Action) :
    Confined start settings.outputDir.components (afterCall settings memory call).contents := by
  have ends := ensures_action hasComponents start call.2 { memory with refusal := call.1 } confined
  rw [afterCall]
  generalize Memory.run { memory with refusal := call.1 } (call.2.program settings) = ending at ends
  rcases ending with ⟨_ | _, now⟩ <;> exact ends

/-- A whole session keeps to the output directory, by induction over its calls. -/
theorem afterSession_confined
    (hasComponents : settings.outputDir.components ≠ []) {start : Contents} {memory : Memory}
    (confined : Confined start settings.outputDir.components memory.contents)
    (session : Session) :
    Confined start settings.outputDir.components
      (afterSession settings memory session).contents := by
  induction session generalizing memory with
  | nil => exact confined
  | cons call others ih => exact ih (afterCall_confined hasComponents confined call)

/--
Where there was no file before, the files are those of the classes, each with the last class of its
path.
-/
theorem filesAfter_none
    (hasComponents : settings.outputDir.components ≠ []) {classes : List Artifact} {now : Contents}
    (stay : ∀ artifact ∈ classes, artifact.StaysBelow)
    (filesAre : FilesAre settings (filesAfter settings classes fun _ => none) now) :
    (∀ place, (settings.outputDir.components <+: place ∧ now.files place ≠ none) ↔
      ∃ path ∈ classes.map (filePath settings), path.components = place) ∧
    ∀ place artifact, lastAt? settings classes place = some artifact →
      now.files place = some (settings.file artifact).toUTF8 := by
  have files_eq : ∀ place, settings.outputDir.components <+: place →
      now.files place = (lastAt? settings classes place).map
        fun artifact => (settings.file artifact).toUTF8 := by
    intro place below
    rw [filesAre place below, filesAfter, Option.or_none]
  constructor
  · intro place
    constructor
    · rintro ⟨below, isFile⟩
      rw [files_eq place below, Ne, Option.map_eq_none_iff] at isFile
      rcases lastAt?_ne_none_iff.mp isFile with ⟨artifact, member, isPlace⟩
      exact ⟨_, List.mem_map_of_mem member, isPlace⟩
    · rintro ⟨path, isPath, rfl⟩
      rcases List.mem_map.mp isPath with ⟨artifact, member, rfl⟩
      have below := filePath_below hasComponents (stay artifact member)
      refine ⟨below, ?_⟩
      rw [files_eq _ below, Ne, Option.map_eq_none_iff]
      exact lastAt?_ne_none_iff.mpr ⟨artifact, member, rfl⟩
  · intro place artifact isLast
    rcases of_lastAt? isLast with ⟨member, rfl⟩
    rw [files_eq _ (filePath_below hasComponents (stay artifact member)), isLast, Option.map_some]

/--
What holds after every session that starts where the output directory is a directory if anything
lies below it.  That condition holds again; outside the output directory nothing is lost or changed,
and only directories around it are new; and when generating succeeds next, its result are the paths
of the planned classes in order, which are exactly the files at or below the output directory, and
each holds the last planned class of its path.
-/
theorem session_contract
    (hasComponents : settings.outputDir.components ≠ []) (start : Memory)
    (rooted : start.contents.Rooted settings.outputDir.components) (session : Session) :
    (afterSession settings start session).contents.Rooted settings.outputDir.components ∧
    start.contents.KeepsOutside settings.outputDir.components
      (afterSession settings start session).contents ∧
    ∀ (refusal : Option Refusal) (schema : Schema) (paths : List Path) (now : Memory),
      Memory.run { afterSession settings start session with refusal := refusal }
        (generate settings schema) = (.ok paths, now) →
      ∃ classes, Plan.ofSchema schema settings.ns = .ok classes ∧
        paths = classes.map (fun artifact =>
          settings.outputDir.join (artifact.relativePath Php.fileExtension)) ∧
        (∀ place, (settings.outputDir.components <+: place ∧ now.contents.files place ≠ none) ↔
          ∃ path ∈ paths, path.components = place) ∧
        ∀ place artifact, lastAt? settings classes place = some artifact →
          now.contents.files place = some (settings.file artifact).toUTF8 := by
  have confined : Confined start.contents settings.outputDir.components
      (afterSession settings start session).contents :=
    afterSession_confined hasComponents ⟨rooted, .refl _ _⟩ session
  refine ⟨confined.rooted, confined.outside, ?_⟩
  intro refusal schema paths now success
  have ends := ensures_generate hasComponents schema
    { afterSession settings start session with refusal := refusal } confined
  rw [success] at ends
  rcases ends with ⟨-, classes, planned, rfl, filesAre⟩
  exact ⟨classes, planned, rfl,
    filesAfter_none hasComponents (Plan.staysBelow planned) filesAre⟩

/-- Settings for the classes of `Plan.orderSchema`. -/
def orderSettings : Settings := ⟨⟨"out"⟩, "App", "Base", "Base"⟩

/-- A memory with an output directory in which a file was left. -/
def leftover : Memory :=
  ⟨[[.normal "out"]], [([.normal "out", .normal "Old.php"], "".toUTF8)], [], none⟩

/-- A session that ends when the second file cannot be written. -/
def interrupted : Session := [(some ⟨.write, 1, .busy⟩, .generate Plan.orderSchema)]

/-- The paths of `Plan.orderClasses` under `orderSettings`. -/
def orderPaths : List Path :=
  [⟨"out/Nested/OrderDtoRequestBody.php"⟩, ⟨"out/Nested/OrderDtoRequestBodyCollection.php"⟩,
    ⟨"out/OrderDtoRequest.php"⟩]

set_option maxRecDepth 20000 in
theorem orders_after_interruption :
    ∃ now,
      Memory.run { afterSession orderSettings leftover interrupted with refusal := none }
        (generate orderSettings Plan.orderSchema) = (.ok orderPaths, now) ∧
      ∀ place,
        (orderSettings.outputDir.components <+: place ∧ now.contents.files place ≠ none) ↔
          ∃ path ∈ orderPaths, path.components = place := by
  have isOut : orderSettings.outputDir.components = [.normal "out"] := by decide
  have hasComponents : orderSettings.outputDir.components ≠ [] := by
    rw [isOut]
    exact List.cons_ne_nil _ _
  have rooted : leftover.contents.Rooted orderSettings.outputDir.components := by
    intro place below isThere
    rw [isOut]
    exact List.mem_singleton_self _
  rcases session_contract hasComponents leftover rooted interrupted with ⟨-, -, generated⟩
  have success :
      Memory.run { afterSession orderSettings leftover interrupted with refusal := none }
        (generate orderSettings Plan.orderSchema) = (.ok orderPaths, _) :=
    Prod.ext (by rfl) rfl
  rcases generated none Plan.orderSchema orderPaths _ success with ⟨classes, -, -, exactly, -⟩
  exact ⟨_, success, exactly⟩

end ApiShapes.Output
