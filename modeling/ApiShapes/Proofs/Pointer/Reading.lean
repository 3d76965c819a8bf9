import ApiShapes.Pointer
import ApiShapes.Proofs.Text.Split

/-!
# Reading pointers

A pointer is read by cutting its text behind every slash.  In a part `~1` then stands for a slash
and, once these are replaced, `~0` for a tilde.  A text that is not empty starts with a slash, or it
is no pointer.  Main statement: reading the text of a pointer gives the pointer, whatever characters
its segments are made of, so the two replacements never meet a pair that no escape has written.
-/

namespace ApiShapes

/-- A text in which a pair of characters is replaced by one, from the start on. -/
def Text.replacePair (first second replacement : Char) : List Char → List Char
  | [] => []
  | [c] => [c]
  | c :: next :: rest =>
      if c = first ∧ next = second then replacement :: replacePair first second replacement rest
      else c :: replacePair first second replacement (next :: rest)

theorem Text.replacePair_cons_of_ne
    {first second replacement c : Char} (different : c ≠ first) (rest : List Char) :
    replacePair first second replacement (c :: rest) =
      c :: replacePair first second replacement rest := by
  cases rest with
  | nil => rfl
  | cons next others => rw [replacePair, if_neg fun both => different both.1]

namespace Pointer

/-- The segment that is written as `part`. -/
def unescape (part : List Char) : List Char :=
  Text.replacePair '~' '0' '~' (Text.replacePair '~' '1' '/' part)

/-- The pointer that is written as `text`, if there is one. -/
def read? (text : String) : Option Pointer :=
  match text.toList with
  | [] => some root
  | c :: rest =>
      if c = '/' then
        some ⟨(Text.splitAtEach (· == '/') rest).map fun part => .ofList (unescape part)⟩
      else
        none

/-- A segment as it is written, without the slash before it. -/
def escaped (segment : String) : List Char :=
  segment.toList.flatMap escapeChar

/-- A character in a part in which the slashes are read already. -/
def escapeTilde (c : Char) : List Char :=
  if c = '~' then ['~', '0'] else [c]

theorem escapeChar_of_ne {c : Char} (notTilde : c ≠ '~') (notSlash : c ≠ '/') :
    escapeChar c = [c] := by
  rw [escapeChar, if_neg notTilde, if_neg notSlash]

/--
Every `~1` of a written segment is an escaped slash.  An escaped tilde never gives one, since the
digit behind it keeps it from meeting what comes next.
-/
theorem replacePair_slash (text : List Char) :
    Text.replacePair '~' '1' '/' (text.flatMap escapeChar) = text.flatMap escapeTilde := by
  induction text with
  | nil => rfl
  | cons c rest ih =>
      rw [List.flatMap_cons, List.flatMap_cons]
      by_cases isTilde : c = '~'
      · subst c
        have digit := @Text.replacePair_cons_of_ne '~' '1' '/' '0' (by decide)
          (rest.flatMap escapeChar)
        rw [ih] at digit
        exact congrArg (List.cons '~') digit
      · by_cases isSlash : c = '/'
        · subst c
          exact congrArg (List.cons '/') ih
        · rw [escapeChar_of_ne isTilde isSlash, escapeTilde, if_neg isTilde, List.singleton_append,
            List.singleton_append, Text.replacePair_cons_of_ne isTilde, ih]

/-- Every `~0` that is left is an escaped tilde. -/
theorem replacePair_tilde (text : List Char) :
    Text.replacePair '~' '0' '~' (text.flatMap escapeTilde) = text := by
  induction text with
  | nil => rfl
  | cons c rest ih =>
      rw [List.flatMap_cons]
      by_cases isTilde : c = '~'
      · subst c
        exact congrArg (List.cons '~') ih
      · rw [escapeTilde, if_neg isTilde, List.singleton_append,
          Text.replacePair_cons_of_ne isTilde, ih]

/-- A segment is read back from how it is written: slashes first, then tildes. -/
theorem unescape_escaped (segment : String) : unescape (escaped segment) = segment.toList := by
  rw [unescape, escaped, replacePair_slash, replacePair_tilde]

/-- No slash is left in a written segment, so the slashes of a text are those between segments. -/
theorem escaped_noSlash (segment : String) :
    ∀ c ∈ escaped segment, (c == '/') = false := by
  intro c member
  rcases List.mem_flatMap.mp member with ⟨source, -, written⟩
  rw [escapeChar] at written
  split at written
  · have either : c = '~' ∨ c = '0' := by simpa using written
    rcases either with rfl | rfl <;> decide
  · split at written
    · have either : c = '~' ∨ c = '1' := by simpa using written
      rcases either with rfl | rfl <;> decide
    · rename_i notSlash
      rw [List.mem_singleton.mp written]
      exact beq_false_of_ne notSlash

/-- The parts of a text are the segments that are written in it. -/
theorem splitAtEach_segments (first : String) (others : List String) :
    Text.splitAtEach (· == '/') (escaped first ++ others.flatMap segmentText) =
      (first :: others).map escaped := by
  induction others generalizing first with
  | nil =>
      rw [List.flatMap_nil, List.append_nil]
      exact Text.splitAtEach_eq_singleton (escaped_noSlash first)
  | cons second others ih =>
      rw [List.flatMap_cons, segmentText, List.cons_append,
        @Text.splitAtEach_append (· == '/') '/' rfl,
        Text.splitAtEach_eq_singleton (escaped_noSlash first), List.map_cons, ← ih second]
      rfl

/-- Reading the text of a pointer gives the pointer. -/
theorem read?_text (pointer : Pointer) : read? pointer.text = some pointer := by
  rcases pointer with ⟨segments⟩
  cases segments with
  | nil => rfl
  | cons first others =>
      have chars : (text ⟨first :: others⟩).toList =
          '/' :: (escaped first ++ others.flatMap segmentText) := by
        rw [text, String.toList_ofList]
        rfl
      have inverse : (fun part => String.ofList (unescape part)) ∘ escaped = id := by
        funext segment
        rw [Function.comp_apply, unescape_escaped, String.ofList_toList, id]
      simp only [read?, chars, if_true, splitAtEach_segments, List.map_map, inverse, List.map_id]

end Pointer

end ApiShapes
