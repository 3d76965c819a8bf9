import ApiShapes.Proofs.Path.Join
import ApiShapes.Proofs.Text.Trim

/-!
# Paths below a base

A relative path adds its components to those of the base that it is joined to; only an empty base
leaves it a dot at its very start.  A path is strictly below a base when it leads on from there, by
a name at least and never back.  Main statements: that is where a relative path leads that has a
name in it and no two dots, and a single name leads there in one step, whatever the base is.
-/

namespace ApiShapes.Path

/-- What a path adds to a base are names and two dots. -/
theorem parent_or_name_of_mem_addedComponents
    {path : Path} {component : Component} (member : component ∈ path.addedComponents) :
    component = .parent ∨ ∃ name, component = .normal name := by
  rcases List.mem_filterMap.mp member with ⟨part, -, isComponent⟩
  rw [componentOfPart] at isComponent
  split at isComponent
  · cases isComponent
  · split at isComponent
    · exact .inl (Option.some.inj isComponent).symm
    · exact .inr ⟨part, (Option.some.inj isComponent).symm⟩

theorem addedComponents_not_root (path : Path) : .root ∉ path.addedComponents := by
  intro member
  rcases parent_or_name_of_mem_addedComponents member with isParent | ⟨name, isName⟩
  · cases isParent
  · cases isName

/-- A relative path begins with a single dot, or with nothing of its own. -/
theorem IsRelative.leading_cases {path : Path} (relative : path.IsRelative) :
    path.leading = [] ∨ path.leading = [.current] := by
  rw [leading, isAbsolute_eq_false_iff.mpr relative, if_neg Bool.false_ne_true]
  split
  · exact .inr rfl
  · exact .inl rfl

/-- Behind the dot at its start, if it has one, a relative path has the components that it adds. -/
theorem IsRelative.mem_components
    {path : Path} (relative : path.IsRelative) {component : Component}
    (notCurrent : component ≠ .current) :
    component ∈ path.components ↔ component ∈ path.addedComponents := by
  rw [components, List.mem_append, or_iff_right]
  · rfl
  · intro isLeading
    rcases relative.leading_cases with nothing | dot
    · rw [nothing] at isLeading
      cases isLeading
    · rw [dot] at isLeading
      exact notCurrent (List.mem_singleton.mp isLeading)

/--
Only the empty path has no components.  The first part of any other relative path is a dot, two dots
or a name, and an absolute path has the root.
-/
theorem components_eq_nil_iff {path : Path} : path.components = [] ↔ path.text = "" := by
  constructor
  · intro noComponents
    rw [components, List.append_eq_nil_iff] at noComponents
    rcases noComponents with ⟨noLeading, noNames⟩
    cases chars : path.text.toList with
    | nil => exact String.toList_eq_nil_iff.mp chars
    | cons first rest =>
        have notAbsolute : path.isAbsolute = false := by
          cases absolute : path.isAbsolute with
          | false => rfl
          | true => simp [leading, absolute] at noLeading
        have notSlash : (first == '/') = false := by
          rw [isAbsolute, chars] at notAbsolute
          simpa using notAbsolute
        obtain ⟨part, others, firstPart⟩ :
            ∃ part others, path.parts = .ofList (first :: part) :: others := by
          rw [parts, chars, Text.splitAtEach, notSlash, if_neg Bool.false_ne_true]
          cases Text.splitAtEach (· == '/') rest with
          | nil => exact ⟨[], [], rfl⟩
          | cons part others => exact ⟨part, others.map String.ofList, rfl⟩
        have nonempty : String.ofList (first :: part) ≠ "" := by
          intro isEmpty
          have noChars := congrArg String.toList isEmpty
          simp at noChars
        have notDot : String.ofList (first :: part) ≠ "." := by
          intro isDot
          simp [leading, notAbsolute, firstPart, isDot] at noLeading
        have isComponent : componentOfPart (.ofList (first :: part)) ≠ none := by
          rw [componentOfPart, if_neg (not_or.mpr ⟨nonempty, notDot⟩)]
          split <;> exact Option.some_ne_none _
        rw [firstPart, List.filterMap_eq_nil_iff] at noNames
        exact absurd (noNames _ List.mem_cons_self) isComponent
  · intro isEmpty
    rw [components, leading, isAbsolute, parts, isEmpty]
    decide

/-- What joining adds to the components of a base. -/
theorem components_join_eq (base : Path) {path : Path} (relative : path.IsRelative) :
    (base.join path).components =
      base.components ++
        if base.components = [] then path.components else path.addedComponents := by
  split
  · rename_i noComponents
    have isEmpty := components_eq_nil_iff.mp noComponents
    rw [noComponents, List.nil_append, join_eq_opening base relative, opening,
      if_pos (.inl isEmpty), isEmpty, String.empty_append]
  · rename_i hasComponents
    exact components_join hasComponents relative

/-- A path leads on from a base, with a name on the way and neither back nor to the root. -/
def StrictlyBelow (path base : Path) : Prop :=
  ∃ added, path.components = base.components ++ added ∧
    (∃ name, .normal name ∈ added) ∧ .parent ∉ added ∧ .root ∉ added

/-- A relative path with a name and without two dots leads to somewhere strictly below any base. -/
theorem join_strictlyBelow
    (base : Path) {path : Path} (relative : path.IsRelative)
    (named : ∃ name, .normal name ∈ path.components) (noParent : .parent ∉ path.components) :
    (base.join path).StrictlyBelow base := by
  refine ⟨_, components_join_eq base relative, ?_⟩
  have noRoot : .root ∉ path.components := by
    rw [relative.mem_components (by simp)]
    exact path.addedComponents_not_root
  split
  · exact ⟨named, noParent, noRoot⟩
  · rcases named with ⟨name, isName⟩
    refine ⟨⟨name, (relative.mem_components (by simp)).mp isName⟩, ?_, ?_⟩
    · rwa [relative.mem_components (by simp)] at noParent
    · exact path.addedComponents_not_root

/-- The base of a path does not lie at the path or below it. -/
theorem StrictlyBelow.not_beginning {path base : Path} (below : path.StrictlyBelow base) :
    ¬ path.components <+: base.components := by
  rcases below with ⟨added, split, ⟨name, isName⟩, -⟩
  rw [split]
  intro isPrefix
  have lengths := isPrefix.length_le
  have nonempty := List.length_pos_of_mem isName
  rw [List.length_append] at lengths
  omega

/-- A path without its slashes at the start is relative. -/
theorem isRelative_trimStart (text : String) : IsRelative ⟨Text.trimStart '/' text⟩ := by
  exact Text.head?_trimStart_ne '/' text

/-! ## Single names -/

/-- A text between slashes that stands for a name. -/
def IsName (text : String) : Prop :=
  '/' ∉ text.toList ∧ text ≠ "" ∧ text ≠ "." ∧ text ≠ ".."

/-- What a path has for a name is one: not empty, neither one dot nor two, and without a slash. -/
theorem isName_of_mem_components
    {path : Path} {name : String} (member : .normal name ∈ path.components) : IsName name := by
  have notLeading : .normal name ∉ path.leading := by
    rw [leading]
    split
    · simp
    · split <;> simp
  have isAdded := (List.mem_append.mp member).resolve_left notLeading
  rcases List.mem_filterMap.mp isAdded with ⟨part, isPart, isName⟩
  rcases List.mem_map.mp isPart with ⟨chars, isCut, rfl⟩
  rw [componentOfPart] at isName
  split at isName
  · cases isName
  · rename_i notNothing
    split at isName
    · cases isName
    · rename_i notParent
      obtain rfl := Component.normal.inj (Option.some.inj isName)
      rw [not_or] at notNothing
      refine ⟨?_, notNothing.1, notNothing.2, notParent⟩
      intro hasSlash
      rw [String.toList_ofList] at hasSlash
      have notSeparator := Text.mem_splitAtEach isCut '/' hasSlash
      simp at notSeparator

namespace IsName

variable {name : String}

theorem isRelative (isName : IsName name) : IsRelative ⟨name⟩ := by
  intro startsWithSlash
  exact isName.1 (List.mem_of_head? startsWithSlash)

theorem parts_eq (isName : IsName name) : parts ⟨name⟩ = [name] := by
  have uncut : ∀ c ∈ name.toList, (c == '/') = false := by
    intro c member
    rw [beq_eq_false_iff_ne]
    rintro rfl
    exact isName.1 member
  rw [parts, Text.splitAtEach_eq_singleton uncut, List.map_singleton, String.ofList_toList]

theorem addedComponents_eq (isName : IsName name) : addedComponents ⟨name⟩ = [.normal name] := by
  have isComponent : componentOfPart name = some (.normal name) := by
    rcases isName with ⟨-, nonempty, notDot, notParent⟩
    rw [componentOfPart, if_neg (not_or.mpr ⟨nonempty, notDot⟩), if_neg notParent]
  rw [addedComponents, isName.parts_eq, List.filterMap_cons, isComponent, List.filterMap_nil]

/-- A name is a path of one component. -/
theorem components_eq (isName : IsName name) : components ⟨name⟩ = [.normal name] := by
  have noLeading : leading ⟨name⟩ = [] := by
    rw [leading, isAbsolute_eq_false_iff.mpr isName.isRelative, isName.parts_eq]
    simp [isName.2.2.1]
  have added := isName.addedComponents_eq
  rw [addedComponents] at added
  rw [components, noLeading, added, List.nil_append]

/-- A name that is joined to a base becomes its last component. -/
theorem components_join (base : Path) (isName : IsName name) :
    (base.join ⟨name⟩).components = base.components ++ [.normal name] := by
  rw [components_join_eq base isName.isRelative, isName.components_eq, isName.addedComponents_eq,
    ite_self]

end IsName

end ApiShapes.Path
