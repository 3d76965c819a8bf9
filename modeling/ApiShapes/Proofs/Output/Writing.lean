import ApiShapes.Output
import ApiShapes.Proofs.Path.Join
import ApiShapes.Proofs.Plan.Names
import ApiShapes.Proofs.Storage.Confinement

/-!
# What the work on the output directory leaves behind

The paths of classes are relative, so every file of a plan goes somewhere below the output
directory.  Each step of generating keeps to that directory, also when the storage refuses a call.
Main statement: when generating succeeds, the directory holds the files of the plan and no others;
of two classes with one path the later one counts.
-/

namespace ApiShapes

/-- The directory and the file name of a class are relative paths. -/
structure Artifact.StaysBelow (artifact : Artifact) : Prop where
  dir : artifact.dir.IsRelative
  file : Path.IsRelative ⟨artifact.name ++ "." ++ Php.fileExtension⟩

theorem directoryBelow_isRelative (depth : Nat) : (directoryBelow .empty depth).IsRelative := by
  induction depth with
  | zero => simp [directoryBelow, Path.empty, Path.IsRelative]
  | succ depth ih =>
      refine ih.join ?_
      simp [Path.IsRelative]

/-- Directories and file names of planned classes are relative, whatever the schema says. -/
theorem Plan.staysBelow
    {schema : Schema} {ns : String} {classes : List Artifact}
    (success : ofSchema schema ns = .ok classes) :
    ∀ artifact ∈ classes, artifact.StaysBelow := by
  obtain rfl := ofSchema_emitted success
  intro artifact member
  constructor
  · rcases schemaSteps_layout schema ns artifact member with ⟨depth, below⟩
    rw [below.dir_eq]
    exact directoryBelow_isRelative depth
  · have noSlash := (schemaSteps_opensPlainly schema ns artifact member).not_slash
    rw [Path.IsRelative, String.append_assoc, String.toList_append, List.head?_append]
    cases chars : artifact.name.toList with
    | nil => decide
    | cons first others =>
        rw [chars] at noSlash
        exact noSlash

namespace Output

open Memory

variable {settings : Settings} {start : Contents}

/-- The path of the file of a class, below the output directory. -/
def filePath (settings : Settings) (artifact : Artifact) : Path :=
  settings.outputDir.join (artifact.relativePath Php.fileExtension)

/-- The last of the classes whose file is at a place. -/
def lastAt? (settings : Settings) (classes : List Artifact) (place : Location) : Option Artifact :=
  classes.reverse.find? fun artifact => (filePath settings artifact).components = place

/-- The last class at a place is one of the classes and has its file there. -/
theorem of_lastAt?
    {settings : Settings} {classes : List Artifact} {place : Location} {artifact : Artifact}
    (isLast : lastAt? settings classes place = some artifact) :
    artifact ∈ classes ∧ (filePath settings artifact).components = place := by
  rw [lastAt?] at isLast
  constructor
  · exact List.mem_reverse.mp (List.mem_of_find?_eq_some isLast)
  · simpa using List.find?_some isLast

theorem lastAt?_ne_none_iff
    {settings : Settings} {classes : List Artifact} {place : Location} :
    lastAt? settings classes place ≠ none ↔
      ∃ artifact ∈ classes, (filePath settings artifact).components = place := by
  simp [lastAt?]

/-- What lies at the output directory or below it is given by a map of files. -/
def FilesAre (settings : Settings) (files : Location → Option ByteArray) (now : Contents) : Prop :=
  ∀ place, settings.outputDir.components <+: place → now.files place = files place

/-- A map of files after the file of a class was put into it. -/
def withFile
    (settings : Settings) (artifact : Artifact) (files : Location → Option ByteArray)
    (place : Location) : Option ByteArray :=
  if place = (filePath settings artifact).components then
    some (settings.file artifact).toUTF8
  else files place

/-- A map of files after the files of some classes were put into it, one after the other. -/
def filesAfter
    (settings : Settings) (classes : List Artifact) (files : Location → Option ByteArray)
    (place : Location) : Option ByteArray :=
  ((lastAt? settings classes place).map fun artifact => (settings.file artifact).toUTF8).or
    (files place)

/-- The files of the others are put on top of that of the first. -/
theorem filesAfter_cons
    (settings : Settings) (first : Artifact) (others : List Artifact)
    (files : Location → Option ByteArray) :
    filesAfter settings (first :: others) files =
      filesAfter settings others (withFile settings first files) := by
  funext place
  simp only [filesAfter, withFile, lastAt?, List.reverse_cons, List.find?_append]
  cases others.reverse.find? fun artifact => (filePath settings artifact).components = place with
  | some last => rfl
  | none =>
      by_cases isFirst : (filePath settings first).components = place
      · simp [isFirst]
      · have different : place ≠ (filePath settings first).components := fun same =>
          isFirst same.symm
        simp [isFirst, different]

/--
It does not matter whether a file is joined to the directory of its class or to the output
directory.
-/
theorem classPath_eq {artifact : Artifact} (stays : artifact.StaysBelow) :
    classPath settings artifact = filePath settings artifact :=
  (Path.join_assoc settings.outputDir stays.dir stays.file).symm

/--
Clearing leaves no files below the output directory.  If the directory is not there, no file can be:
it would need the directory.
-/
theorem ensures_clear :
    Ensures (Confined start settings.outputDir.components) (clear settings)
      (fun _ now => Confined start settings.outputDir.components now ∧
        FilesAre settings (fun _ => none) now)
      (Confined start settings.outputDir.components) := by
  apply Ensures.isDir
  · apply Ensures.removeDir
    · rintro contents ⟨confined, -⟩
      refine ⟨confined.dropBelow, ?_⟩
      intro place below
      rw [Contents.files_dropBelow, if_pos below]
    · rintro contents ⟨confined, -⟩
      exact confined
  · apply Ensures.pure
    rintro contents ⟨confined, notDir⟩
    refine ⟨confined, ?_⟩
    intro place below
    cases isFile : contents.files place with
    | none => rfl
    | some content =>
        have isDir := confined.rooted place below (.inr (by simp [isFile]))
        exact absurd isDir notDir

section Writing

variable (hasComponents : settings.outputDir.components ≠ [])

include hasComponents

theorem dir_below {artifact : Artifact} (stays : artifact.StaysBelow) :
    settings.outputDir.components <+: (classDir settings artifact).components :=
  Path.components_prefix_join hasComponents stays.dir

theorem filePath_below {artifact : Artifact} (stays : artifact.StaysBelow) :
    settings.outputDir.components <+: (filePath settings artifact).components :=
  Path.components_prefix_join hasComponents (stays.dir.join stays.file)

/-- Creating the output directory leaves the files as they are. -/
theorem ensures_prepare (files : Location → Option ByteArray) :
    Ensures
      (fun now => Confined start settings.outputDir.components now ∧ FilesAre settings files now)
      (prepare settings)
      (fun _ now => Confined start settings.outputDir.components now ∧
        FilesAre settings files now)
      (Confined start settings.outputDir.components) := by
  apply Ensures.createDirs
  · rintro contents ⟨confined, filesAre⟩
    exact ⟨confined.addDirs hasComponents (List.prefix_refl _), filesAre⟩
  · rintro contents ⟨confined, -⟩
    exact confined

/--
The file of a class is put below the output directory once that is there, and no other file is
touched.
-/
theorem ensures_writeClass
    {artifact : Artifact} (stays : artifact.StaysBelow) (files : Location → Option ByteArray) :
    Ensures
      (fun now => Confined start settings.outputDir.components now ∧ FilesAre settings files now)
      (writeClass settings artifact)
      (fun path now => path = filePath settings artifact ∧
        Confined start settings.outputDir.components now ∧
        FilesAre settings (withFile settings artifact files) now)
      (Confined start settings.outputDir.components) := by
  have putFile :
      Ensures
        (fun now => (Confined start settings.outputDir.components now ∧
          FilesAre settings files now) ∧ now.dirs settings.outputDir.components)
        (do
          Storage.attempt (classPath settings artifact)
            (Storage.write (classPath settings artifact) (settings.file artifact).toUTF8)
          pure (classPath settings artifact))
        (fun path now => path = filePath settings artifact ∧
          Confined start settings.outputDir.components now ∧
          FilesAre settings (withFile settings artifact files) now)
        (Confined start settings.outputDir.components) := by
    rw [classPath_eq stays]
    refine .bind (.write ?_ ?_) fun _ => .pure fun contents both => ⟨rfl, both⟩
    · rintro contents ⟨⟨confined, filesAre⟩, isDir⟩
      refine ⟨confined.putFile isDir (filePath_below hasComponents stays) _, ?_⟩
      intro place below
      rw [Contents.files_putFile, withFile, filesAre place below]
    · rintro contents ⟨⟨confined, -⟩, -⟩
      exact confined
  have below := dir_below hasComponents stays
  apply Ensures.isDir
  · refine putFile.weaken ?_ fun _ _ holds => holds
    rintro contents ⟨both, isDir⟩
    exact ⟨both, both.1.rooted _ below (.inl isDir)⟩
  · refine .bind (.createDirs ?_ ?_) fun _ => putFile
    · rintro contents ⟨⟨confined, filesAre⟩, -⟩
      exact ⟨⟨confined.addDirs hasComponents below, filesAre⟩, .inr ⟨hasComponents, below⟩⟩
    · rintro contents ⟨⟨confined, -⟩, -⟩
      exact confined

/-- The files of some classes are put below the output directory one after the other. -/
theorem ensures_writeClasses
    {classes : List Artifact} (stay : ∀ artifact ∈ classes, artifact.StaysBelow)
    (files : Location → Option ByteArray) :
    Ensures
      (fun now => Confined start settings.outputDir.components now ∧ FilesAre settings files now)
      (classes.mapM (writeClass settings))
      (fun paths now => paths = classes.map (filePath settings) ∧
        Confined start settings.outputDir.components now ∧
        FilesAre settings (filesAfter settings classes files) now)
      (Confined start settings.outputDir.components) := by
  induction classes generalizing files with
  | nil =>
      rw [List.mapM_nil]
      exact .pure fun contents both => ⟨rfl, both⟩
  | cons first others ih =>
      rw [List.mapM_cons, filesAfter_cons]
      have stayOthers : ∀ artifact ∈ others, artifact.StaysBelow := fun artifact member =>
        stay artifact (List.mem_cons_of_mem first member)
      refine .bind (ensures_writeClass hasComponents (stay first List.mem_cons_self) files) ?_
      intro path
      apply Ensures.assuming
      rintro rfl
      refine .bind (ih stayOthers _) ?_
      intro paths
      apply Ensures.assuming
      rintro rfl
      exact .pure fun contents both => ⟨rfl, both⟩

/-- What generating leaves behind, be it that it succeeds or that it fails. -/
theorem ensures_generate (schema : Schema) :
    Ensures (Confined start settings.outputDir.components) (generate settings schema)
      (fun paths now => Confined start settings.outputDir.components now ∧
        ∃ classes, Plan.ofSchema schema settings.ns = .ok classes ∧
          paths = classes.map (filePath settings) ∧
          FilesAre settings (filesAfter settings classes fun _ => none) now)
      (Confined start settings.outputDir.components) := by
  have planned :
      Ensures (Confined start settings.outputDir.components)
        (liftM (Plan.ofSchema schema settings.ns))
        (fun classes now => Plan.ofSchema schema settings.ns = .ok classes ∧
          Confined start settings.outputDir.components now)
        (Confined start settings.outputDir.components) :=
    .ofExcept (fun classes contents success confined => ⟨success, confined⟩)
      fun contents confined => confined
  refine planned.bind ?_
  intro classes
  apply Ensures.assuming
  intro success
  refine .bind (ensures_clear) fun _ => ?_
  refine .bind (ensures_prepare hasComponents fun _ => none) fun _ => ?_
  refine (ensures_writeClasses hasComponents (Plan.staysBelow success) _).weaken
    (fun _ both => both) ?_
  rintro paths contents ⟨isMap, confined, filesAre⟩
  exact ⟨confined, classes, success, isMap, filesAre⟩

end Writing

end Output

end ApiShapes
