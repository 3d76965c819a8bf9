import ApiShapes.Proofs.Path.Below
import Mathlib.Data.List.Induction
import Mathlib.Data.Set.List

/-!
# Where paths lead

As long as no directory is a link, two dots lead back over the name before them, and the text of an
absolute path tells where it leads: to the place at the end of a sequence of names.  The direct way
there has these names for its components, and it is the way that a path without two dots takes.  A
directory encloses a path that leads to it or to a place in it.  Main statements: the direct way is
taken by some path, and by every absolute path without two dots; a relative path without two dots
leads on from where its base leads.
-/

namespace ApiShapes.Path

/-- Where a component leads from a place.  From the root, two dots lead nowhere else. -/
def follow (place : List String) : Component → List String
  | .root => []
  | .current => place
  | .parent => place.dropLast
  | .normal name => place ++ [name]

/-- The place that a path leads to, by the names on the way there from the root. -/
def place (path : Path) : List String :=
  path.components.foldl follow []

/-- The components of the direct way to where a path leads. -/
def direct (path : Path) : List Component :=
  .root :: path.place.map .normal

/-- A path leads to a directory or to a place in it. -/
def Encloses (dir path : Path) : Prop :=
  dir.place <+: path.place

instance (dir path : Path) : Decidable (dir.Encloses path) :=
  inferInstanceAs (Decidable (dir.place <+: path.place))

/-- A directory encloses a path exactly if its direct way is a beginning of that of the path. -/
theorem encloses_iff_direct {dir path : Path} :
    dir.Encloses path ↔ dir.direct <+: path.direct := by
  have injective : Function.Injective Component.normal := fun _ _ => Component.normal.inj
  rw [Encloses, direct, direct, List.cons_prefix_cons, List.prefix_map_iff_of_injective injective]
  exact (and_iff_right rfl).symm

/-! ## Names on the way -/

/-- Names are followed one behind the other. -/
theorem foldl_follow_names (place names : List String) :
    (names.map .normal).foldl follow place = place ++ names := by
  induction names generalizing place with
  | nil => exact (List.append_nil place).symm
  | cons name rest ih =>
      rw [List.map_cons, List.foldl_cons, ih, follow, List.append_assoc, List.singleton_append]

/-- Every name of the place that is reached was there at the start or is one of the components. -/
theorem mem_foldl_follow
    {components : List Component} {place : List String} {name : String}
    (member : name ∈ components.foldl follow place) :
    name ∈ place ∨ .normal name ∈ components := by
  induction components generalizing place with
  | nil => exact .inl member
  | cons component rest ih =>
      rcases ih member with before | later
      · cases component with
        | root => cases before
        | current => exact .inl before
        | parent => exact .inl (List.dropLast_subset place before)
        | normal added =>
            rcases List.mem_append.mp before with earlier | isAdded
            · exact .inl earlier
            · rw [List.mem_singleton.mp isAdded]
              exact .inr List.mem_cons_self
      · exact .inr (List.mem_cons_of_mem _ later)

theorem isName_of_mem_place {path : Path} {name : String} (member : name ∈ path.place) :
    IsName name :=
  isName_of_mem_components ((mem_foldl_follow member).resolve_left List.not_mem_nil)

/-- Names can be followed one after the other from the root. -/
theorem exists_path_of_names {names : List String} (areNames : ∀ name ∈ names, IsName name) :
    ∃ path : Path, path.components = .root :: names.map .normal := by
  induction names using List.reverseRecOn with
  | nil => exact ⟨⟨"/"⟩, by decide⟩
  | append_singleton front name ih =>
      rcases ih fun other member => areNames other (List.mem_append_left _ member) with
        ⟨path, isFront⟩
      refine ⟨path.join ⟨name⟩, ?_⟩
      rw [IsName.components_join path (areNames name List.mem_concat_self), isFront,
        List.map_append]
      rfl

/-- The direct way to where a path leads is itself the way of some path. -/
theorem exists_components_eq_direct (path : Path) :
    ∃ other : Path, other.components = path.direct :=
  exists_path_of_names fun _ => isName_of_mem_place

/-! ## Ways without two dots -/

theorem addedComponents_eq_names {path : Path} (noParent : .parent ∉ path.addedComponents) :
    ∃ names : List String, path.addedComponents = names.map .normal := by
  have areNames : path.addedComponents ∈ Set.range (List.map Component.normal) := by
    rw [Set.range_list_map]
    intro component member
    rcases parent_or_name_of_mem_addedComponents member with rfl | ⟨name, rfl⟩
    · exact absurd member noParent
    · exact ⟨name, rfl⟩
  rcases areNames with ⟨names, isAdded⟩
  exact ⟨names, isAdded.symm⟩

/-- An absolute path begins at the root and goes on with what it adds to a base. -/
theorem components_of_isAbsolute {path : Path} (absolute : path.isAbsolute = true) :
    path.components = .root :: path.addedComponents := by
  rw [components, leading, if_pos absolute, List.singleton_append]
  rfl

theorem isAbsolute_of_root_mem {path : Path} (member : .root ∈ path.components) :
    path.isAbsolute = true := by
  by_contra notAbsolute
  have relative := isAbsolute_eq_false_iff.mp (Bool.eq_false_iff.mpr notAbsolute)
  rw [relative.mem_components (by simp)] at member
  exact path.addedComponents_not_root member

/-- Without two dots, an absolute path takes the direct way. -/
theorem components_eq_direct
    {path : Path} (absolute : path.isAbsolute = true) (noParent : .parent ∉ path.components) :
    path.components = path.direct := by
  have isRooted := components_of_isAbsolute absolute
  rw [isRooted] at noParent
  rcases addedComponents_eq_names (mt (List.mem_cons_of_mem _) noParent) with ⟨names, isAdded⟩
  rw [isAdded] at isRooted
  rw [direct, place, isRooted, List.foldl_cons, foldl_follow_names]
  rfl

/-- Without two dots, a relative path leads on by a name at least if it has one. -/
theorem place_join
    {base path : Path} (absolute : base.isAbsolute = true) (relative : path.IsRelative)
    (named : ∃ name, .normal name ∈ path.components) (noParent : .parent ∉ path.components) :
    ∃ names, names ≠ [] ∧ (base.join path).place = base.place ++ names := by
  rw [relative.mem_components (by simp)] at noParent
  rcases addedComponents_eq_names noParent with ⟨names, isAdded⟩
  refine ⟨names, ?_, ?_⟩
  · rintro rfl
    rcases named with ⟨name, member⟩
    rw [relative.mem_components (by simp), isAdded] at member
    cases member
  · have hasComponents : base.components ≠ [] := by
      rw [components_of_isAbsolute absolute]
      exact List.cons_ne_nil _ _
    rw [place, components_join hasComponents relative, List.foldl_append, isAdded,
      foldl_follow_names]
    rfl

end ApiShapes.Path
