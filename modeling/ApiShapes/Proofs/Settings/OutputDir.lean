import ApiShapes.Proofs.Output.Removal
import ApiShapes.Proofs.Path.Below

/-!
# The output directory that a schema asks for

A schema can choose what is removed, so what it may choose has to be known exactly: a path with a
name in it and without two dots.  Whether the base directory lies in the chosen directory is tested
as well, but for relative paths the other two tests leave nothing for it to find.  Main statement:
whatever a schema asks for, what is removed lies strictly below the base directory.
-/

namespace ApiShapes.Settings

open ApiShapes.Path

theorem any_isNormal_eq_true {path : Path} :
    path.components.any (·.isNormal) = true ↔ ∃ name, .normal name ∈ path.components := by
  rw [List.any_eq_true]
  constructor
  · rintro ⟨component, member, isNormal⟩
    cases component with
    | normal name => exact ⟨name, member⟩
    | root | current | parent => cases isNormal
  · rintro ⟨name, member⟩
    exact ⟨_, member, rfl⟩

/-- What is tested before a directory is taken. -/
theorem outputDirBelow?_eq_some {base output dir : Path} :
    outputDirBelow? base output = some dir ↔
      .parent ∉ output.components ∧ (∃ name, .normal name ∈ output.components) ∧
        ¬ (base.join output).components <+: base.components ∧ base.join output = dir := by
  have isAround :
      base.startsWith (base.join output) = true ↔
        (base.join output).components <+: base.components :=
    List.isPrefixOf_iff_prefix
  rw [outputDirBelow?, ← any_isNormal_eq_true, ← isAround]
  by_cases parent : .parent ∈ output.components
  · simp [parent]
  · cases output.components.any (·.isNormal) with
    | false => simp
    | true => cases base.startsWith (base.join output) <;> simp [parent]

/-- For a relative path the last test finds nothing. -/
theorem outputDirBelow?_eq_some_iff
    (base : Path) {output dir : Path} (relative : output.IsRelative) :
    outputDirBelow? base output = some dir ↔
      ((∃ name, .normal name ∈ output.components) ∧ .parent ∉ output.components) ∧
        base.join output = dir := by
  rw [outputDirBelow?_eq_some]
  constructor
  · rintro ⟨noParent, named, -, isJoined⟩
    exact ⟨⟨named, noParent⟩, isJoined⟩
  · rintro ⟨⟨named, noParent⟩, isJoined⟩
    have notAround := (join_strictlyBelow base relative named noParent).not_beginning
    exact ⟨noParent, named, notAround, isJoined⟩

/-- Wherever it lies, an output directory is not the path without components. -/
theorem components_ne_nil_of_outputDirBelow?
    {base output dir : Path} (below : outputDirBelow? base output = some dir) :
    dir.components ≠ [] := by
  rcases outputDirBelow?_eq_some.mp below with ⟨-, -, notAround, rfl⟩
  intro noComponents
  rw [noComponents] at notAround
  exact notAround List.nil_prefix

/-- A path that a schema asks for is taken or it is refused, and what else is asked for is taken. -/
theorem withSchema_path (settings : Settings) (base : Path) (path : String) (ns : Option String) :
    settings.withSchema ⟨some path, ns⟩ base =
      match outputDirBelow? base ⟨Text.trimStart '/' path⟩ with
      | some outputDir =>
          .ok { settings with outputDir, ns := (ns.map (Text.trimEnds '\\')).getD settings.ns }
      | none => .error (.invalidSchema "/settings/path" (.unsafePath path)) := by
  simp only [withSchema, withPath]
  cases outputDirBelow? base ⟨Text.trimStart '/' path⟩ with
  | none => rfl
  | some outputDir => cases ns <;> rfl

/--
Exactly the paths with a name and without two dots are taken, any other is refused at the entry that
asks for it.  The directory that is taken lies strictly below the base directory, and clearing and
generating remove no other.
-/
theorem schema_path_below_base
    (settings : Settings) (base : Path) (path : String) (ns : Option String) :
    ((∃ chosen, settings.withSchema ⟨some path, ns⟩ base = .ok chosen) ↔
      (∃ name, .normal name ∈ components ⟨Text.trimStart '/' path⟩) ∧
        .parent ∉ components ⟨Text.trimStart '/' path⟩) ∧
    (∀ error, settings.withSchema ⟨some path, ns⟩ base = .error error →
      error = .invalidSchema "/settings/path" (.unsafePath path)) ∧
    ∀ chosen, settings.withSchema ⟨some path, ns⟩ base = .ok chosen →
      chosen.outputDir.StrictlyBelow base ∧ Output.RemovesOutputDirOnly chosen := by
  have isChosen {dir : Path} :=
    @outputDirBelow?_eq_some_iff base ⟨Text.trimStart '/' path⟩ dir (isRelative_trimStart path)
  rw [withSchema_path]
  cases below : outputDirBelow? base ⟨Text.trimStart '/' path⟩ with
  | none =>
      refine ⟨⟨?_, ?_⟩, ?_, ?_⟩
      · rintro ⟨chosen, ⟨⟩⟩
      · intro safe
        rw [isChosen.mpr ⟨safe, rfl⟩] at below
        cases below
      · rintro error ⟨⟩
        rfl
      · rintro chosen ⟨⟩
  | some outputDir =>
      rcases isChosen.mp below with ⟨⟨named, noParent⟩, rfl⟩
      refine ⟨⟨?_, ?_⟩, ?_, ?_⟩
      · rintro -
        exact ⟨named, noParent⟩
      · rintro -
        exact ⟨_, rfl⟩
      · rintro error ⟨⟩
      · rintro chosen ⟨⟩
        exact ⟨join_strictlyBelow base (isRelative_trimStart path) named noParent,
          Output.removesOutputDirOnly _⟩

/-- A path with slashes at its start, a dot and repeated slashes is taken below the base. -/
theorem generated_dir_below_shop :
    ∃ chosen, standard.withSchema ⟨some "//./gen//Dto/", none⟩ ⟨"/work/shop"⟩ = .ok chosen ∧
      chosen.outputDir.StrictlyBelow ⟨"/work/shop"⟩ := by
  rcases schema_path_below_base standard ⟨"/work/shop"⟩ "//./gen//Dto/" none with
    ⟨accepted, -, below⟩
  have safe :
      (∃ name, .normal name ∈ components ⟨Text.trimStart '/' "//./gen//Dto/"⟩) ∧
        .parent ∉ components ⟨Text.trimStart '/' "//./gen//Dto/"⟩ :=
    ⟨⟨"gen", by decide⟩, by decide⟩
  rcases accepted.mpr safe with ⟨chosen, isChosen⟩
  exact ⟨chosen, isChosen, (below chosen isChosen).1⟩

end ApiShapes.Settings
