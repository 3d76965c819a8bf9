import ApiShapes.Proofs.Path.Lexical
import ApiShapes.Proofs.Settings.OutputDir

/-!
# Output directories around the base directory

The output directory is removed before it is filled, so it should neither be the base directory nor
lie around it.  A relative output leads on from where the base leads and never encloses it.  An
absolute one is compared with the base component by component, which finds it out if the base is
written the direct way.  A base that takes a detour over two dots is enclosed by directories that
the comparison does not recognize.  Main statement: the outputs that are taken and enclose an
absolute base are the beginnings of its direct way that are not beginnings of the way it is written,
and there are none exactly if the written way starts with the direct one.
-/

namespace ApiShapes.Settings

open ApiShapes.Path

variable {base output dir : Path}

/--
A relative output that is taken leads strictly below the base, so it encloses nothing around it.
-/
theorem not_encloses_of_isRelative
    (absolute : base.isAbsolute = true) (relative : output.IsRelative)
    (below : outputDirBelow? base output = some dir) :
    ¬ dir.Encloses base := by
  rcases outputDirBelow?_eq_some.mp below with ⟨noParent, named, -, rfl⟩
  rcases place_join absolute relative named noParent with ⟨names, nonempty, leadsOn⟩
  rw [Encloses, leadsOn]
  intro isPrefix
  have lengths := isPrefix.length_le
  have added := List.length_pos_iff.mpr nonempty
  rw [List.length_append] at lengths
  omega

/-- An absolute output is taken as it stands. -/
theorem outputDirBelow?_eq_some_of_isAbsolute (absolute : output.isAbsolute = true) :
    outputDirBelow? base output = some dir ↔
      .parent ∉ output.components ∧ (∃ name, .normal name ∈ output.components) ∧
        ¬ output.components <+: base.components ∧ output = dir := by
  rw [outputDirBelow?_eq_some, join, if_pos absolute]

/-- Beginnings of a direct way have no two dots, and all but the root have a name. -/
theorem named_of_prefix_direct
    (onTheWay : output.components <+: base.direct) (notRoot : ¬ output.components <+: [.root]) :
    output.isAbsolute = true ∧ .parent ∉ output.components ∧
      ∃ name, .normal name ∈ output.components := by
  have noParent : .parent ∉ output.components := by
    intro member
    have onDirect := onTheWay.subset member
    simp [direct] at onDirect
  cases written : output.components with
  | nil =>
      rw [written] at notRoot
      exact absurd List.nil_prefix notRoot
  | cons first rest =>
      rw [written] at onTheWay notRoot noParent
      rcases List.cons_prefix_cons.mp onTheWay with ⟨rfl, behindRoot⟩
      refine ⟨isAbsolute_of_root_mem (written ▸ List.mem_cons_self), noParent, ?_⟩
      cases rest with
      | nil => exact absurd List.prefix_rfl notRoot
      | cons second others =>
          rcases List.mem_map.mp (behindRoot.subset List.mem_cons_self) with ⟨name, -, rfl⟩
          exact ⟨name, List.mem_cons_of_mem _ List.mem_cons_self⟩

/-- What the comparison by components misses. -/
theorem takes_enclosing_iff (absolute : base.isAbsolute = true) :
    (∃ dir, outputDirBelow? base output = some dir ∧ dir.Encloses base) ↔
      output.components <+: base.direct ∧ ¬ output.components <+: base.components := by
  constructor
  · rintro ⟨dir, below, encloses⟩
    cases isAbsolute : output.isAbsolute with
    | false =>
        have relative := isAbsolute_eq_false_iff.mp isAbsolute
        exact absurd encloses (not_encloses_of_isRelative absolute relative below)
    | true =>
        rcases (outputDirBelow?_eq_some_of_isAbsolute isAbsolute).mp below with
          ⟨noParent, -, notAround, rfl⟩
        rw [encloses_iff_direct, ← components_eq_direct isAbsolute noParent] at encloses
        exact ⟨encloses, notAround⟩
  · rintro ⟨onTheWay, notAround⟩
    have notRoot : ¬ output.components <+: [.root] := by
      intro isRoot
      rw [components_of_isAbsolute absolute] at notAround
      exact notAround (isRoot.trans (List.prefix_append [Component.root] _))
    rcases named_of_prefix_direct onTheWay notRoot with ⟨isAbsolute, noParent, named⟩
    refine ⟨output, ?_, ?_⟩
    · rw [outputDirBelow?_eq_some_of_isAbsolute isAbsolute]
      exact ⟨noParent, named, notAround, rfl⟩
    · rwa [encloses_iff_direct, ← components_eq_direct isAbsolute noParent]

/--
No output that encloses the base is taken exactly if the direct way to the base is a beginning of
how it is written.
-/
theorem takes_no_enclosing_iff (absolute : base.isAbsolute = true) :
    (∀ output dir, outputDirBelow? base output = some dir → ¬ dir.Encloses base) ↔
      base.direct <+: base.components := by
  constructor
  · intro never
    rcases exists_components_eq_direct base with ⟨output, isDirect⟩
    by_contra detour
    rw [← isDirect] at detour
    have onTheWay : output.components <+: base.direct := isDirect ▸ List.prefix_rfl
    rcases (takes_enclosing_iff absolute).mpr ⟨onTheWay, detour⟩ with ⟨dir, below, encloses⟩
    exact never output dir below encloses
  · intro startsDirect output dir below encloses
    rcases (takes_enclosing_iff absolute).mp ⟨dir, below, encloses⟩ with ⟨onTheWay, notAround⟩
    exact notAround (onTheWay.trans startsDirect)

/--
An output that is taken encloses an absolute base exactly if it is a beginning of its direct way but
not of the way the base is written.  No such output is left exactly if the base is written the direct
way up to where it leads.
-/
theorem enclosing_outputs_iff_detour (absolute : base.isAbsolute = true) :
    (∀ output, (∃ dir, outputDirBelow? base output = some dir ∧ dir.Encloses base) ↔
      output.components <+: base.direct ∧ ¬ output.components <+: base.components) ∧
    ((∀ output dir, outputDirBelow? base output = some dir → ¬ dir.Encloses base) ↔
      base.direct <+: base.components) :=
  ⟨fun _ => takes_enclosing_iff absolute, takes_no_enclosing_iff absolute⟩

/-- A base with two dots at its very end is enclosed by no output that is taken. -/
theorem late_detour_not_enclosed :
    isAbsolute ⟨"/work/./shop/x/.."⟩ = true ∧
      ∀ output dir, outputDirBelow? ⟨"/work/./shop/x/.."⟩ output = some dir →
        ¬ dir.Encloses ⟨"/work/./shop/x/.."⟩ := by
  have absolute : isAbsolute ⟨"/work/./shop/x/.."⟩ = true := by decide
  exact ⟨absolute, (enclosing_outputs_iff_detour absolute).2.mpr (by decide)⟩

/-- The base directory itself is taken where the base comes to it over another one. -/
theorem base_behind_detour_taken :
    isAbsolute ⟨"/work/../shop"⟩ = true ∧
      outputDirBelow? ⟨"/work/../shop"⟩ ⟨"/shop"⟩ = some ⟨"/shop"⟩ ∧
        Encloses ⟨"/shop"⟩ ⟨"/work/../shop"⟩ := by
  decide

end ApiShapes.Settings
