import ApiShapes.Path
import ApiShapes.Proofs.Text.Split

/-!
# Walking along relative paths

A relative path that is joined to a base is written behind it, after a slash where one is needed.
Two things follow: it makes no difference in which order paths are joined, and the components of
the base stay in front of those of the relative path.  Neither holds of an absolute path, which
replaces its base.
-/

namespace ApiShapes

namespace Path

/-- A path does not start at the root. -/
def IsRelative (path : Path) : Prop :=
  path.text.toList.head? ≠ some '/'

/-- A path is relative exactly if it is not absolute. -/
theorem isAbsolute_eq_false_iff {path : Path} : path.isAbsolute = false ↔ path.IsRelative := by
  simp [isAbsolute, IsRelative]

/-- What a base puts in front of a relative path. -/
def opening (base : Path) : String :=
  if base.text = "" ∨ base.text.toList.getLast? = some '/' then base.text
  else base.text ++ "/"

/-- A relative path is written behind what the base puts in front of it. -/
theorem join_eq_opening (base : Path) {path : Path} (relative : path.IsRelative) :
    base.join path = ⟨base.opening ++ path.text⟩ := by
  rw [join, opening, isAbsolute_eq_false_iff.mpr relative]
  split
  · contradiction
  · split <;> rfl

theorem empty_join (path : Path) : Path.empty.join path = path := by
  rw [join]
  split
  · rfl
  · rw [if_pos (.inl rfl), empty, String.empty_append]

/-- A base that was opened ends in a slash, unless it is empty. -/
theorem opening_cases (base : Path) :
    base.text = "" ∧ base.opening = "" ∨
      ∃ stem, base.opening.toList = stem ++ ['/'] ∧
        (base.text.toList = stem ++ ['/'] ∨ base.text.toList = stem ∧ stem ≠ []) := by
  rw [opening]
  by_cases isEmpty : base.text = ""
  · rw [if_pos (.inl isEmpty)]
    exact .inl ⟨isEmpty, isEmpty⟩
  · refine .inr ?_
    by_cases endsInSlash : base.text.toList.getLast? = some '/'
    · rw [if_pos (.inr endsInSlash)]
      rcases List.getLast?_eq_some_iff.mp endsInSlash with ⟨stem, split⟩
      exact ⟨stem, split, .inl split⟩
    · rw [if_neg (by simp [isEmpty, endsInSlash])]
      refine ⟨base.text.toList, String.toList_append, .inr ⟨rfl, ?_⟩⟩
      exact fun noChars => isEmpty (String.toList_eq_nil_iff.mp noChars)

/-- What is joined to a joined path stands behind both of them. -/
theorem opening_join (base : Path) {path : Path} (relative : path.IsRelative) :
    (base.join path).opening = base.opening ++ path.opening := by
  rw [join_eq_opening base relative]
  by_cases isEmpty : path.text = ""
  · have nothing : path.opening = "" := by
      rw [opening, if_pos (.inl isEmpty), isEmpty]
    rw [nothing, isEmpty, String.append_empty]
    rcases opening_cases base with ⟨-, noOpening⟩ | ⟨stem, endsInSlash, -⟩
    · rw [noOpening, opening, if_pos (.inl rfl)]
    · rw [opening, if_pos (.inr (by simp [endsInSlash]))]
  · have nonempty : base.opening ++ path.text ≠ "" := by
      intro noText
      exact isEmpty (String.append_eq_empty_iff.mp noText).2
    have lastChar : (base.opening ++ path.text).toList.getLast? = path.text.toList.getLast? := by
      rw [String.toList_append, List.getLast?_append]
      cases last : path.text.toList.getLast? with
      | none =>
          have noChars := List.getLast?_eq_none_iff.mp last
          exact absurd (String.toList_eq_nil_iff.mp noChars) isEmpty
      | some c => rfl
    generalize base.opening = front at nonempty lastChar
    simp only [opening, lastChar, nonempty, isEmpty, false_or]
    split
    · rfl
    · exact String.append_assoc

/-- Relative paths that are joined stay relative. -/
theorem IsRelative.join
    {base path : Path} (baseRelative : base.IsRelative) (relative : path.IsRelative) :
    (base.join path).IsRelative := by
  rw [join_eq_opening base relative, IsRelative, String.toList_append, List.head?_append]
  rcases opening_cases base with ⟨-, noOpening⟩ | ⟨stem, opens, sameText | ⟨sameText, nonempty⟩⟩
  · rw [noOpening]
    exact relative
  · rw [IsRelative, sameText] at baseRelative
    rw [opens]
    cases stem with
    | nil => exact absurd rfl baseRelative
    | cons first others => simpa using baseRelative
  · rw [IsRelative, sameText] at baseRelative
    rw [opens]
    cases stem with
    | nil => exact absurd rfl nonempty
    | cons first others => simpa using baseRelative

/--
In which order paths are joined makes no difference, as long as only the first may be absolute.
-/
theorem join_assoc
    (base : Path) {middle path : Path}
    (middleRelative : middle.IsRelative) (relative : path.IsRelative) :
    base.join (middle.join path) = (base.join middle).join path := by
  rw [join_eq_opening base (middleRelative.join relative), join_eq_opening middle relative,
    join_eq_opening (base.join middle) relative, opening_join base middleRelative,
    String.append_assoc]

/-- The components that a relative path adds to those of a base. -/
def addedComponents (path : Path) : List Component :=
  path.parts.filterMap componentOfPart

theorem parts_eq_append
    {path : Path} {stem rest : List Char} (split : path.text.toList = stem ++ '/' :: rest) :
    path.parts = (Text.splitAtEach (· == '/') stem).map String.ofList ++
      (Text.splitAtEach (· == '/') rest).map String.ofList := by
  rw [parts, split, Text.splitAtEach_append (by decide), List.map_append]

/-- What a path begins with, the root or a dot, is decided by the text up to its first slash. -/
theorem leading_eq
    {path : Path} {stem : List Char}
    (starts : (path.text.toList = stem ∧ stem ≠ []) ∨
      ∃ rest, path.text.toList = stem ++ '/' :: rest) :
    path.leading =
      if (stem ++ ['/']).head? = some '/' then [.root]
      else if ((Text.splitAtEach (· == '/') stem).map String.ofList).head? = some "." then
        [.current]
      else [] := by
  have firstChar : path.text.toList.head? = (stem ++ ['/']).head? := by
    rcases starts with ⟨sameText, nonempty⟩ | ⟨rest, split⟩
    · rw [sameText]
      cases stem with
      | nil => exact absurd rfl nonempty
      | cons first others => rfl
    · rw [split]
      cases stem <;> rfl
  have firstPart :
      path.parts.head? = ((Text.splitAtEach (· == '/') stem).map String.ofList).head? := by
    rcases starts with ⟨sameText, -⟩ | ⟨rest, split⟩
    · rw [parts, sameText]
    · rw [parts_eq_append split]
      cases parts : Text.splitAtEach (· == '/') stem with
      | nil => exact absurd parts (Text.splitAtEach_ne_nil _ stem)
      | cons first others => rfl
  simp only [leading, isAbsolute, firstChar, firstPart, beq_iff_eq]

/--
A relative path adds its components behind those of the base; a single dot in front of it is
dropped.
-/
theorem components_join
    {base path : Path} (hasComponents : base.components ≠ []) (relative : path.IsRelative) :
    (base.join path).components = base.components ++ path.addedComponents := by
  rcases opening_cases base with ⟨isEmpty, -⟩ | ⟨stem, opens, isBase⟩
  · have noComponents : base.components = [] := by
      rw [components, leading, isAbsolute, parts, isEmpty]
      decide
    exact absurd noComponents hasComponents
  · have joined : (base.join path).text.toList = stem ++ '/' :: path.text.toList := by
      rw [join_eq_opening base relative, String.toList_append, opens, List.append_assoc,
        List.singleton_append]
    have sameStart : (base.join path).leading = base.leading := by
      rw [leading_eq (.inr ⟨_, joined⟩)]
      rcases isBase with withSlash | withoutSlash
      · rw [leading_eq (.inr ⟨[], withSlash⟩)]
      · rw [leading_eq (.inl withoutSlash)]
    have baseParts : base.parts.filterMap componentOfPart =
        ((Text.splitAtEach (· == '/') stem).map String.ofList).filterMap componentOfPart := by
      rcases isBase with withSlash | ⟨sameText, -⟩
      · rw [parts_eq_append withSlash, List.filterMap_append]
        exact List.append_nil _
      · rw [parts, sameText]
    rw [components, components, sameStart, baseParts, parts_eq_append joined,
      List.filterMap_append, List.append_assoc]
    rfl

/-- The components of a base stay in front when a relative path is joined to it. -/
theorem components_prefix_join
    {base path : Path} (hasComponents : base.components ≠ []) (relative : path.IsRelative) :
    base.components <+: (base.join path).components := by
  rw [components_join hasComponents relative]
  exact List.prefix_append _ _

end Path

end ApiShapes
