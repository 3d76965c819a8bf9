import ApiShapes.Proofs.Pointer.Reading
import Mathlib.Data.List.Induction

/-!
# Descents from the root

The pointer to a node comes about step by step: from the root on, every step goes down to an entry
of a map or to an element of a list.  A step leaves the text that is written already as it is and
puts a slash and the escaped segment behind it.  Main statement: the text that a descent ends with
is read back as the segments of its steps, so two descents end with the same text exactly if they
have the same segments.
-/

namespace ApiShapes.Pointer

/-- A step from a node to one right below it. -/
inductive Descent where
  | child (segment : String)
  | index (position : Nat)
  deriving Repr, DecidableEq

/-- The segment that a step adds.  A position is written in decimal digits. -/
def Descent.segment : Descent → String
  | .child segment => segment
  | .index position => .ofList (Nat.toDigits 10 position)

/-- The pointer to where a step from the node at `pointer` leads. -/
def descend (pointer : Pointer) : Descent → Pointer
  | .child segment => pointer.child segment
  | .index position => pointer.index position

/-- The pointer to where the steps from the root lead. -/
def reached (steps : List Descent) : Pointer :=
  steps.foldl descend root

/-- A step adds its segment, whether it goes down to an entry or to an element. -/
theorem descend_eq_child (pointer : Pointer) (step : Descent) :
    pointer.descend step = pointer.child step.segment := by
  cases step with
  | child segment => rfl
  | index position => rfl

theorem reached_concat (steps : List Descent) (step : Descent) :
    reached (steps ++ [step]) = (reached steps).child step.segment := by
  rw [reached, List.foldl_append, List.foldl_cons, List.foldl_nil, descend_eq_child, reached]

/-- A step down writes a slash and the escaped segment behind the text that is there. -/
theorem text_child (pointer : Pointer) (segment : String) :
    (pointer.child segment).text = pointer.text ++ "/" ++ .ofList (escaped segment) := by
  apply String.toList_inj.mp
  simp [text, child, segmentText, escaped]

/--
A descent ends at the pointer with the segments of its steps.  The induction adds steps at the end,
as a descent does.
-/
theorem reached_eq (steps : List Descent) : reached steps = ⟨steps.map Descent.segment⟩ := by
  induction steps using List.reverseRecOn with
  | nil => rfl
  | append_singleton steps step ih =>
      rw [reached_concat, ih, child, List.map_append, List.map_singleton]

/-- A pointer is known by its text, since it can be read back. -/
theorem text_injective : Function.Injective text := by
  intro first second sameText
  have read := read?_text first
  rw [sameText, read?_text] at read
  exact (Option.some.inj read).symm

/--
Every step of a descent writes its segment behind the text that the steps before it came to.  The
text of a descent is read back as the segments of its steps, and two descents have the same text
exactly if they have the same segments.
-/
theorem descents_read_back (steps : List Descent) :
    (∀ step, (reached (steps ++ [step])).text =
      (reached steps).text ++ "/" ++ .ofList (escaped step.segment)) ∧
    read? (reached steps).text = some ⟨steps.map Descent.segment⟩ ∧
    ∀ others, (reached steps).text = (reached others).text ↔
      steps.map Descent.segment = others.map Descent.segment := by
  refine ⟨fun step => ?_, ?_, fun others => ?_⟩
  · rw [reached_concat, text_child]
  · rw [read?_text, reached_eq]
  · rw [text_injective.eq_iff, reached_eq, reached_eq, mk.injEq]

/-- What looks like an escape in a segment is read back as it stands. -/
example :
    (reached [.child "~1", .child "", .index 10, .child "a/b"]).text = "/~01//10/a~1b" ∧
      read? "/~01//10/a~1b" = some ⟨["~1", "", "10", "a/b"]⟩ := by
  decide

end ApiShapes.Pointer
