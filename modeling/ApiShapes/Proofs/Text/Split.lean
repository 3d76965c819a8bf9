import ApiShapes.Text.Split

/-!
# The parts of a cut text

Cutting a text at its separators gives parts without separators, and cutting it behind one of them
can be done before the rest is cut.  A text without separators is its own only part.
-/

namespace ApiShapes.Text

theorem splitAtEach_ne_nil (isSeparator : Char → Bool) (text : List Char) :
    splitAtEach isSeparator text ≠ [] := by
  cases text with
  | nil => simp [splitAtEach]
  | cons c rest =>
      rw [splitAtEach]
      split
      · simp
      · cases splitAtEach isSeparator rest <;> simp [consFirst]

/-- A separator cuts a text in two that can be cut further one by one. -/
theorem splitAtEach_append
    {isSeparator : Char → Bool} {c : Char} (separates : isSeparator c = true)
    (left right : List Char) :
    splitAtEach isSeparator (left ++ c :: right) =
      splitAtEach isSeparator left ++ splitAtEach isSeparator right := by
  induction left with
  | nil => simp [splitAtEach, separates]
  | cons d rest ih =>
      rw [List.cons_append, splitAtEach, splitAtEach, ih]
      split
      · rfl
      · cases parts : splitAtEach isSeparator rest with
        | nil => exact absurd parts (splitAtEach_ne_nil isSeparator rest)
        | cons first others => rfl

/-- A character that joins the first part brings in nothing but itself. -/
theorem mem_consFirst
    {first : Char} {parts : List (List Char)} {part : List Char}
    (member : part ∈ consFirst first parts) :
    ∀ c ∈ part, c = first ∨ ∃ old ∈ parts, c ∈ old := by
  intro c inPart
  cases parts with
  | nil =>
      obtain rfl := List.mem_singleton.mp member
      exact .inl (List.mem_singleton.mp inPart)
  | cons head tail =>
      rcases List.mem_cons.mp member with rfl | later
      · rcases List.mem_cons.mp inPart with isFirst | inHead
        · exact .inl isFirst
        · exact .inr ⟨head, List.mem_cons_self, inHead⟩
      · exact .inr ⟨part, List.mem_cons_of_mem head later, inPart⟩

/-- No part of a text that is cut at separators has a separator in it. -/
theorem mem_splitAtEach
    {isSeparator : Char → Bool} {text part : List Char}
    (member : part ∈ splitAtEach isSeparator text) :
    ∀ c ∈ part, isSeparator c = false := by
  induction text generalizing part with
  | nil =>
      obtain rfl := List.mem_singleton.mp member
      simp
  | cons first rest ih =>
      rw [splitAtEach] at member
      split at member
      · rcases List.mem_cons.mp member with rfl | later
        · simp
        · exact ih later
      · rename_i notSeparator
        intro c inPart
        rcases mem_consFirst member c inPart with rfl | ⟨old, oldMember, inOld⟩
        · simpa using notSeparator
        · exact ih oldMember c inOld

/-- The parts of a text have no characters but those of the text. -/
theorem subset_of_mem_splitAtEach
    {isSeparator : Char → Bool} {text part : List Char}
    (member : part ∈ splitAtEach isSeparator text) : part ⊆ text := by
  induction text generalizing part with
  | nil =>
      obtain rfl := List.mem_singleton.mp member
      exact List.Subset.refl []
  | cons first rest ih =>
      rw [splitAtEach] at member
      split at member
      · rcases List.mem_cons.mp member with rfl | later
        · exact List.nil_subset _
        · exact List.subset_cons_of_subset first (ih later)
      · intro c inPart
        rcases mem_consFirst member c inPart with rfl | ⟨old, oldMember, inOld⟩
        · exact List.mem_cons_self
        · exact List.mem_cons_of_mem first (ih oldMember inOld)

/-- A text without separators is one part. -/
theorem splitAtEach_eq_singleton
    {isSeparator : Char → Bool} {text : List Char}
    (noSeparator : ∀ c ∈ text, isSeparator c = false) :
    splitAtEach isSeparator text = [text] := by
  induction text with
  | nil => rfl
  | cons c rest ih =>
      rw [splitAtEach, noSeparator c List.mem_cons_self, if_neg Bool.false_ne_true,
        ih fun d member => noSeparator d (List.mem_cons_of_mem c member)]
      rfl

end ApiShapes.Text
