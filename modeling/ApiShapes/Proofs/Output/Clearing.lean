import ApiShapes.Proofs.Output.Interruption

/-!
# Clearing what was generated

Generating changes nothing outside the output directory but for the directories around it, whatever
stands there before, and once it has succeeded the output directory is a directory.  Clearing then
drops all that lies at it or below it by a single call, and where it is missing it makes no call at
all.  Main statement: clearing what was generated leaves nothing at the output directory or below
it, and outside it what was there before generating.
-/

namespace ApiShapes

/-- Nothing lies at a place or below it. -/
def Contents.EmptyBelow (contents : Contents) (root : Location) : Prop :=
  ∀ place, root <+: place → ¬ contents.dirs place ∧ contents.files place = none

/-- After everything below a place is dropped, nothing is left there. -/
theorem Contents.emptyBelow_dropBelow (contents : Contents) (root : Location) :
    (contents.dropBelow root).EmptyBelow root := by
  intro place below
  refine ⟨fun isDir => isDir.2 below, ?_⟩
  rw [files_dropBelow, if_pos below]

namespace Output

open Memory

variable {settings : Settings}

/-- The memory after the output directory was removed. -/
def cleared (settings : Settings) (memory : Memory) : Memory :=
  (memory.dropBelow settings.outputDir.components).record (.removeDir settings.outputDir)

/-- Clearing an output directory that is there is a single call. -/
theorem run_clear_of_dir
    {memory : Memory} (willing : memory.refusal = none)
    (isDir : memory.contents.dirs settings.outputDir.components) :
    memory.run (clear settings) = (.ok (), cleared settings memory) := by
  have isThere : memory.hasDir settings.outputDir.components = true := decide_eq_true isDir
  have carriedOut :
      memory.run (Storage.attempt settings.outputDir (Storage.removeDir settings.outputDir)) =
        (.ok (), cleared settings memory) := by
    rw [run_attempt]
    simp only [Storage.removeDir, Memory.call, willing]
    rfl
  rw [clear, run_bind, run_isDir, isThere]
  exact carriedOut

/-- Clearing an output directory that is missing makes no call. -/
theorem run_clear_of_missing
    {memory : Memory} (missing : ¬ memory.contents.dirs settings.outputDir.components) :
    memory.run (clear settings) = (.ok (), memory) := by
  have notThere : memory.hasDir settings.outputDir.components = false := decide_eq_false missing
  rw [clear, run_bind, run_isDir, notThere]
  rfl

/-- What was generated leaves the storage as willing as it was. -/
theorem refusal_of_generated
    {schema : Schema} {memory done : Memory} {paths : List Path} (willing : memory.refusal = none)
    (generated : memory.run (generate settings schema) = (.ok paths, done)) :
    done.refusal = none := by
  cases planned : Plan.ofSchema schema settings.ns with
  | error error =>
      rw [generate, planned] at generated
      cases (Prod.mk.inj generated).1
  | ok classes =>
      rcases generate_follows planned memory with ⟨calls, -, runs⟩
      have isWilling : memory.awaiting none = memory := by
        rw [awaiting, ← willing]
      have ends := runs none
      rw [run_bind, run_makeAll, isWilling, generated] at ends
      rw [(Prod.mk.inj ends).2]
      rfl

/-- Outside the output directory work has changed nothing, and the output directory is there. -/
structure Standing (start : Contents) (root : Location) (now : Contents) : Prop where
  outside : start.KeepsOutside root now
  isDir : now.dirs root

section Outside

variable {start : Contents} (hasComponents : settings.outputDir.components ≠ [])

theorem ensures_clear_outside :
    Ensures (start.KeepsOutside settings.outputDir.components) (clear settings)
      (fun _ => start.KeepsOutside settings.outputDir.components)
      (start.KeepsOutside settings.outputDir.components) := by
  apply Ensures.isDir
  · apply Ensures.removeDir
    · rintro contents ⟨outside, -⟩
      exact outside.trans (contents.keepsOutside_dropBelow _)
    · rintro contents ⟨outside, -⟩
      exact outside
  · exact .pure fun _ both => both.1

include hasComponents

theorem ensures_prepare_standing :
    Ensures (start.KeepsOutside settings.outputDir.components) (prepare settings)
      (fun _ => Standing start settings.outputDir.components)
      (start.KeepsOutside settings.outputDir.components) := by
  apply Ensures.createDirs
  · intro contents outside
    constructor
    · exact outside.trans (contents.keepsOutside_addDirs (List.prefix_refl _))
    · exact .inr ⟨hasComponents, List.prefix_refl _⟩
  · exact fun _ outside => outside

theorem ensures_writeClass_standing {artifact : Artifact} (stays : artifact.StaysBelow) :
    Ensures (Standing start settings.outputDir.components) (writeClass settings artifact)
      (fun _ => Standing start settings.outputDir.components)
      (start.KeepsOutside settings.outputDir.components) := by
  have putFile :
      Ensures (Standing start settings.outputDir.components)
        (do
          Storage.attempt (classPath settings artifact)
            (Storage.write (classPath settings artifact) (settings.file artifact).toUTF8)
          pure (classPath settings artifact))
        (fun _ => Standing start settings.outputDir.components)
        (start.KeepsOutside settings.outputDir.components) := by
    rw [classPath_eq stays]
    refine .bind (.write ?_ fun _ standing => standing.outside) fun _ =>
      .pure fun _ standing => standing
    intro contents standing
    constructor
    · exact standing.outside.trans
        (contents.keepsOutside_putFile (filePath_below hasComponents stays) _)
    · exact standing.isDir
  apply Ensures.isDir
  · exact putFile.weaken (fun _ both => both.1) fun _ _ standing => standing
  · refine .bind (.createDirs ?_ fun _ both => both.1.outside) fun _ => putFile
    rintro contents ⟨standing, -⟩
    constructor
    · exact standing.outside.trans
        (contents.keepsOutside_addDirs (dir_below hasComponents stays))
    · exact .inl standing.isDir

/--
Whether generating succeeds or not, nothing changes outside; if it succeeds, the output directory
stands.
-/
theorem ensures_generate_standing (schema : Schema) :
    Ensures (start.KeepsOutside settings.outputDir.components) (generate settings schema)
      (fun _ => Standing start settings.outputDir.components)
      (start.KeepsOutside settings.outputDir.components) := by
  have planned :
      Ensures (start.KeepsOutside settings.outputDir.components)
        (liftM (Plan.ofSchema schema settings.ns))
        (fun classes now => Plan.ofSchema schema settings.ns = .ok classes ∧
          start.KeepsOutside settings.outputDir.components now)
        (start.KeepsOutside settings.outputDir.components) :=
    .ofExcept (fun _ _ success outside => ⟨success, outside⟩) fun _ outside => outside
  refine planned.bind fun classes => .assuming fun success => ?_
  refine .bind ensures_clear_outside fun _ => ?_
  refine .bind (ensures_prepare_standing hasComponents) fun _ => .mapM ?_
  intro artifact member
  exact ensures_writeClass_standing hasComponents (Plan.staysBelow success artifact member)

end Outside

theorem standing_of_generated
    {schema : Schema} {start done : Memory} {paths : List Path}
    (hasComponents : settings.outputDir.components ≠ [])
    (generated : start.run (generate settings schema) = (.ok paths, done)) :
    Standing start.contents settings.outputDir.components done.contents := by
  have standing := ensures_generate_standing hasComponents schema start (.refl _ _)
  rwa [generated] at standing

/--
Clearing what was generated.  It succeeds by one call, it leaves nothing at the output directory or
below it, and outside it everything is as before generating, but for new directories around it.
-/
theorem clear_generated
    {schema : Schema} {start done : Memory} {paths : List Path} (willing : start.refusal = none)
    (hasComponents : settings.outputDir.components ≠ [])
    (generated : start.run (generate settings schema) = (.ok paths, done)) :
    done.run (clear settings) = (.ok (), cleared settings done) ∧
      (cleared settings done).contents.EmptyBelow settings.outputDir.components ∧
      start.contents.KeepsOutside settings.outputDir.components
        (cleared settings done).contents := by
  have standing := standing_of_generated hasComponents generated
  refine ⟨run_clear_of_dir (refusal_of_generated willing generated) standing.isDir, ?_⟩
  simp only [cleared, contents_record, contents_dropBelow]
  exact ⟨Contents.emptyBelow_dropBelow _ _,
    standing.outside.trans (Contents.keepsOutside_dropBelow _ _)⟩

end Output

end ApiShapes
