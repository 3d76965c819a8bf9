import ApiShapes.Json.Assembly
import ApiShapes.Proofs.Json.NumberText
import ApiShapes.Proofs.Json.StringText

/-!
# Texts of values

The grammar of JSON, as a relation between values and texts.  A value has many texts: blanks stand
between its tokens wherever one likes, and strings are escaped in any way.  `WrittenAs` says of a
text that it writes a value, with nothing around it, and `SpacedAs` lets blanks stand around it.
Numbers are integers.  Main statement: a value has a text if all its numbers are integers.
-/

namespace ApiShapes.Json

/-- Nothing but blanks. -/
def Blanks (text : List Char) : Prop :=
  ∀ c ∈ text, c ∈ [' ', '\n', '\t', '\r']

theorem Blanks.nil : Blanks [] := by
  rintro c ⟨⟩

/-- There are four blanks: the space, the line feed, the tab and the carriage return. -/
theorem Blanks.eq_of_mem {text : List Char} (areBlanks : Blanks text) {c : Char} (member : c ∈ text) :
    c = ' ' ∨ c = '\n' ∨ c = '\t' ∨ c = '\r' := by
  simpa using areBlanks c member

mutual

/-- A text writes a value, from its first character to its last one. -/
inductive Value.WrittenAs : Value → List Char → Prop
  | null : Value.WrittenAs .null "null".toList
  | bool (b : Bool) : Value.WrittenAs (.bool b) (toString b).toList
  | number {n : Number} {text : List Char} (written : n.WrittenAs text) :
      Value.WrittenAs (.number n) text
  | string {s : String} {text : List Char} (stand : AllStandFor s.toList text) :
      Value.WrittenAs (.string s) ('"' :: text ++ ['"'])
  | noItems {blanks : List Char} (areBlanks : Blanks blanks) :
      Value.WrittenAs (.array []) ('[' :: blanks ++ [']'])
  | items {items : List Value} {text : List Char} (written : ItemsWrittenAs items text) :
      Value.WrittenAs (.array items) ('[' :: text ++ [']'])
  | noEntries {blanks : List Char} (areBlanks : Blanks blanks) :
      Value.WrittenAs (.object []) ('\x7b' :: blanks ++ ['\x7d'])
  | entries {entries : List (String × Value)} {text : List Char}
      (written : EntriesWrittenAs entries text) :
      Value.WrittenAs (.object entries) ('\x7b' :: text ++ ['\x7d'])

/-- A text writes a value with blanks around it. -/
inductive Value.SpacedAs : Value → List Char → Prop
  | spaced {value : Value} {before text behind : List Char} (areBefore : Blanks before)
      (written : value.WrittenAs text) (areBehind : Blanks behind) :
      Value.SpacedAs value (before ++ (text ++ behind))

/-- A text writes the items of an array that has some, with commas between them. -/
inductive ItemsWrittenAs : List Value → List Char → Prop
  | last {item : Value} {text : List Char} (written : item.SpacedAs text) :
      ItemsWrittenAs [item] text
  | comma {item : Value} {items : List Value} {text others : List Char}
      (written : item.SpacedAs text) (othersWritten : ItemsWrittenAs items others) :
      ItemsWrittenAs (item :: items) (text ++ ',' :: others)

/-- A text writes an entry of an object, a key and a value with a colon between them. -/
inductive EntryWrittenAs : String → Value → List Char → Prop
  | entry {key : String} {value : Value} {before keyText behind text : List Char}
      (areBefore : Blanks before) (stand : AllStandFor key.toList keyText)
      (areBehind : Blanks behind) (written : value.SpacedAs text) :
      EntryWrittenAs key value (before ++ '"' :: (keyText ++ '"' :: (behind ++ ':' :: text)))

/-- A text writes the entries of an object that has some, with commas between them. -/
inductive EntriesWrittenAs : List (String × Value) → List Char → Prop
  | last {key : String} {value : Value} {text : List Char}
      (written : EntryWrittenAs key value text) : EntriesWrittenAs [(key, value)] text
  | comma {key : String} {value : Value} {entries : List (String × Value)}
      {text others : List Char} (written : EntryWrittenAs key value text)
      (othersWritten : EntriesWrittenAs entries others) :
      EntriesWrittenAs ((key, value) :: entries) (text ++ ',' :: others)

end

/-! ## Which values have texts that are read back -/

/-- Whether a number is an integer, kept by its sign. -/
def Number.isInteger : Number → Bool
  | .natural _ => true
  | .negative i => decide (i.toInt < 0)
  | .real _ => false

mutual

/-- How many containers lie in each other in a value, itself included. -/
def Value.depth : Value → Nat
  | .array items => itemsDepth items + 1
  | .object entries => entriesDepth entries + 1
  | _ => 0

/-- How many containers lie in each other in items. -/
def itemsDepth : List Value → Nat
  | [] => 0
  | item :: items => max item.depth (itemsDepth items)

/-- How many containers lie in each other in the values of entries. -/
def entriesDepth : List (String × Value) → Nat
  | [] => 0
  | (_, value) :: entries => max value.depth (entriesDepth entries)

end

mutual

/-- Whether a value has integers for numbers, and no object with a key twice. -/
def Value.isRegular : Value → Bool
  | .number n => n.isInteger
  | .array items => itemsAreRegular items
  | .object entries => decide (entries.map (·.1)).Nodup && entriesAreRegular entries
  | _ => true

/-- Whether items have integers for numbers, and no object with a key twice. -/
def itemsAreRegular : List Value → Bool
  | [] => true
  | item :: items => item.isRegular && itemsAreRegular items

/-- Whether the values of entries have integers for numbers, and no object with a key twice. -/
def entriesAreRegular : List (String × Value) → Bool
  | [] => true
  | (_, value) :: entries => value.isRegular && entriesAreRegular entries

end

/-! ## Every value has a text -/

/-- Every integer can be written. -/
theorem Number.exists_text {n : Number} (isInteger : n.isInteger = true) :
    ∃ text, n.WrittenAs text := by
  cases n with
  | natural n => exact ⟨_, .natural n⟩
  | negative i => exact ⟨_, .negative (of_decide_eq_true isInteger)⟩
  | real x => cases isInteger

theorem Value.WrittenAs.alone {value : Value} {text : List Char} (written : value.WrittenAs text) :
    value.SpacedAs text := by
  have spaced := Value.SpacedAs.spaced .nil written .nil
  rwa [List.nil_append, List.append_nil] at spaced

/-- An entry can be written without blanks. -/
theorem EntryWrittenAs.tight
    {key : String} {value : Value} {keyText text : List Char}
    (stand : AllStandFor key.toList keyText) (written : value.WrittenAs text) :
    EntryWrittenAs key value ('"' :: (keyText ++ '"' :: ':' :: text)) := by
  have entry := EntryWrittenAs.entry .nil stand .nil written.alone
  rwa [List.nil_append, List.nil_append] at entry

mutual

/-- Every regular value can be written, so the relation of writing leaves no value out. -/
theorem Value.exists_text :
    ∀ value : Value, value.isRegular = true → ∃ text, value.WrittenAs text
  | .null, _ => ⟨_, .null⟩
  | .bool b, _ => ⟨_, .bool b⟩
  | .number n, isRegular => by
      rcases Number.exists_text isRegular with ⟨text, written⟩
      exact ⟨text, .number written⟩
  | .string s, _ => by
      rcases exists_allStandFor s.toList with ⟨text, stand⟩
      exact ⟨_, .string stand⟩
  | .array items, isRegular => by
      rcases items_exist_text items isRegular with rfl | ⟨text, written⟩
      · exact ⟨_, .noItems .nil⟩
      · exact ⟨_, .items written⟩
  | .object entries, isRegular => by
      have areRegular : entriesAreRegular entries = true := (Bool.and_eq_true_iff.mp isRegular).2
      rcases entries_exist_text entries areRegular with rfl | ⟨text, written⟩
      · exact ⟨_, .noEntries .nil⟩
      · exact ⟨_, .entries written⟩

/-- Items can be written one behind the other, with commas between them. -/
theorem items_exist_text :
    ∀ items : List Value, itemsAreRegular items = true →
      items = [] ∨ ∃ text, ItemsWrittenAs items text
  | [], _ => .inl rfl
  | item :: items, areRegular => by
      rcases Bool.and_eq_true_iff.mp areRegular with ⟨isRegular, othersRegular⟩
      rcases Value.exists_text item isRegular with ⟨text, written⟩
      rcases items_exist_text items othersRegular with rfl | ⟨others, othersWritten⟩
      · exact .inr ⟨_, .last written.alone⟩
      · exact .inr ⟨_, .comma written.alone othersWritten⟩

/-- Entries can be written one behind the other, with commas between them. -/
theorem entries_exist_text :
    ∀ entries : List (String × Value), entriesAreRegular entries = true →
      entries = [] ∨ ∃ text, EntriesWrittenAs entries text
  | [], _ => .inl rfl
  | (key, value) :: entries, areRegular => by
      rcases Bool.and_eq_true_iff.mp areRegular with ⟨isRegular, othersRegular⟩
      rcases exists_allStandFor key.toList with ⟨keyText, stand⟩
      rcases Value.exists_text value isRegular with ⟨text, written⟩
      rcases entries_exist_text entries othersRegular with rfl | ⟨others, othersWritten⟩
      · exact .inr ⟨_, .last (.tight stand written)⟩
      · exact .inr ⟨_, .comma (.tight stand written) othersWritten⟩

end

end ApiShapes.Json
