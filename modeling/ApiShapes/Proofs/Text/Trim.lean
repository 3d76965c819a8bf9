import ApiShapes.Text.Trim
import Mathlib.Data.List.TakeWhile

/-!
# Texts without a character at their start

A text that is trimmed at the start is an end of the text, it does not start with the character that
was dropped, and it is empty only if there was nothing else.
-/

namespace ApiShapes.Text

/-- A trimmed text does not begin with the character that is trimmed. -/
theorem head?_trimStart_ne (c : Char) (text : String) :
    (trimStart c text).toList.head? ≠ some c := by
  intro isFirst
  have notDropped := List.head?_dropWhile_not (· = c) text.toList
  rw [trimStart, String.toList_ofList] at isFirst
  rw [isFirst] at notDropped
  simp at notDropped

/-- Something is left of a text exactly if it has another character. -/
theorem trimStart_ne_nil_iff {c : Char} {text : String} :
    (trimStart c text).toList ≠ [] ↔ ∃ d ∈ text.toList, d ≠ c := by
  rw [trimStart, String.toList_ofList, Ne, List.dropWhile_eq_nil_iff]
  simp

/-- Trimming adds no characters. -/
theorem trimStart_subset (c : Char) (text : String) :
    (trimStart c text).toList ⊆ text.toList := by
  rw [trimStart, String.toList_ofList]
  exact (List.dropWhile_sublist _).subset

end ApiShapes.Text
