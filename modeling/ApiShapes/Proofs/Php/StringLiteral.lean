import ApiShapes.Proofs.Php.ClassFile
import ApiShapes.Proofs.Text.Reader

/-!
# Reading string literals

Between single quotes a backslash in front of a backslash or of a quote stands for that character,
every other character stands for itself, and the first quote that no backslash introduces ends the
literal.  `readString` reads by this rule from left to right, while a literal is written by two
replacements in the whole text, first of the backslashes and then of the quotes.  Main statement:
reading takes what was written and nothing behind it, whatever runs of backslashes and quotes the
text has; so the list of excluded properties in a class file is read back name by name.
-/

namespace ApiShapes

open Text Text.Reader

/-- A text in which every occurrence of a character is replaced. -/
def Text.replaceEach (c : Char) (replacement text : List Char) : List Char :=
  text.flatMap fun d => if d = c then replacement else [d]

namespace Php

/-- The content of a single-quoted literal, and what comes behind the quote that ends it. -/
def quotedContent : List Char → Option (List Char × List Char)
  | [] => none
  | [c] => if c = '\x27' then some ([], []) else none
  | c :: next :: rest =>
      if c = '\x27' then some ([], next :: rest)
      else if c = '\\' ∧ (next = '\\' ∨ next = '\x27') then
        (quotedContent rest).map (Prod.map (List.cons next) id)
      else (quotedContent (next :: rest)).map (Prod.map (List.cons c) id)

/-- Reads what stands behind the first quote of a single-quoted string literal. -/
def readContent : Reader String := fun input =>
  (quotedContent input).map (Prod.map String.ofList id)

/-- Reads a single-quoted string literal. -/
def readString : Reader String := do
  expect "\x27"
  readContent

/-- Reads string literals with commas between them, up to the end of the list. -/
def readNames : Reader (List String) := do
  let names ← separated ", " readString
  expect "];"
  pure names

/-- Reads the line that lists the names of the excluded properties. -/
def readExclusions : Reader (List String) := do
  expect "    protected const EXCLUDE_PROPERTIES = ["
  readNames

/-! ## One literal -/

/-- A quote ends the literal. -/
theorem quotedContent_quote (rest : List Char) :
    quotedContent ('\x27' :: rest) = some ([], rest) := by
  cases rest <;> rfl

/-- An escaped backslash or quote is read as that character. -/
theorem quotedContent_escaped {c : Char} (special : c = '\\' ∨ c = '\x27') (rest : List Char) :
    quotedContent ('\\' :: c :: rest) = (quotedContent rest).map (Prod.map (List.cons c) id) := by
  rw [quotedContent, if_neg (by decide), if_pos ⟨rfl, special⟩]

/-- Any other character is read as itself. -/
theorem quotedContent_plain
    {c : Char} (notQuote : c ≠ '\x27') (notBackslash : c ≠ '\\') (rest : List Char) :
    quotedContent (c :: rest) = (quotedContent rest).map (Prod.map (List.cons c) id) := by
  cases rest with
  | nil => simp [quotedContent, notQuote]
  | cons next others =>
      rw [quotedContent, if_neg notQuote, if_neg fun escape => notBackslash escape.1]

/-- Reading an escaped text gives the text and stops behind the quote. -/
theorem quotedContent_escape (text rest : List Char) :
    quotedContent (text.flatMap escapeChar ++ '\x27' :: rest) = some (text, rest) := by
  induction text with
  | nil => exact quotedContent_quote rest
  | cons c others ih =>
      rw [List.flatMap_cons, List.append_assoc, escapeChar]
      split
      · rename_i special
        have read := quotedContent_escaped special (others.flatMap escapeChar ++ '\x27' :: rest)
        rw [ih] at read
        exact read
      · rename_i plain
        rw [not_or] at plain
        rw [List.singleton_append, quotedContent_plain plain.2 plain.1, ih]
        rfl

/--
Escaping is replacing the backslashes first and the quotes then.  What the first replacement brings
in is no quote, so the second one leaves it.
-/
theorem flatMap_escapeChar (text : List Char) :
    text.flatMap escapeChar =
      replaceEach '\x27' ['\\', '\x27'] (replaceEach '\\' ['\\', '\\'] text) := by
  rw [replaceEach, replaceEach, List.flatMap_assoc]
  refine congrArg (List.flatMap · text) (funext fun c => ?_)
  by_cases isBackslash : c = '\\'
  · subst c
    rfl
  · by_cases isQuote : c = '\x27'
    · subst c
      rfl
    · simp [escapeChar, isBackslash, isQuote]

theorem reads_content (text : String) :
    Reads readContent (text.toList.flatMap escapeChar ++ ['\x27']) text := by
  intro rest
  have content : (quotedContent (text.toList.flatMap escapeChar ++ '\x27' :: rest)).map
      (Prod.map String.ofList id) = some (.ofList text.toList, rest) := by
    rw [quotedContent_escape]
    rfl
  rw [String.ofList_toList] at content
  rw [List.append_assoc]
  exact content

/-- A literal is read back as its string, whatever comes behind it. -/
theorem reads_stringLiteral (text : String) :
    Reads readString (stringLiteral text).toList text := by
  rw [stringLiteral, String.toList_ofList]
  exact .bind (.expect "\x27") (reads_content text)

/-! ## The list of excluded properties -/

theorem readString_run_of_not_quote
    {input : List Char} (different : ¬ "\x27".toList <+: input) :
    readString.run input = none := by
  rw [readString, StateT.run_bind, expect_run_of_not_prefix different]
  rfl

/-- A list of literals is read back as the names, up to the bracket that closes it. -/
theorem reads_names (properties : List Property) :
    Reads readNames
      (", ".toList.intercalate (properties.map fun each => (stringLiteral each.name).toList) ++
        "];".toList)
      (properties.map (·.name)) := by
  refine .separated_bind (fun each _ => reads_stringLiteral each.name) (by decide) ?_ ?_
    (.bind_pure (.expect "];") _)
  · intro rest
    exact readString_run_of_not_quote (by simp)
  · intro rest
    simp

/-- The excluded names are read back in order, whatever characters they are made of. -/
theorem reads_exclusionLine (properties : List Property) :
    Reads readExclusions (exclusionLine properties).toList
      ((properties.filter (·.isExcluded)).map (·.name)) := by
  unfold exclusionLine
  simp only [String.toList_append, String.toList_intercalate, List.map_map, List.append_assoc]
  exact .bind (.expect _) (reads_names _)

/--
A literal is the text with its backslashes doubled first and its quotes escaped then, between
quotes; it is read back with nothing of what comes behind it.  So is the list of excluded properties
in the file of a shape, which gives the names of the properties that are not required, in their
order.
-/
theorem strings_read_back :
    (∀ text : String, (stringLiteral text).toList =
      '\x27' :: (replaceEach '\x27' ['\\', '\x27'] (replaceEach '\\' ['\\', '\\'] text.toList) ++
        ['\x27'])) ∧
    (∀ (text : String) (rest : List Char),
      readString.run ((stringLiteral text).toList ++ rest) = some (text, rest)) ∧
    (∀ (shape : Shape) (baseClass : String), ∃ rest,
      (shapeFile shape baseClass).toList =
        (classOpening shape.ns shape.name baseClass).toList ++
          ((exclusionLine shape.properties).toList ++ '\n' :: rest) ∧
      readExclusions.run ((exclusionLine shape.properties).toList ++ '\n' :: rest) =
        some ((shape.properties.filter (·.required = some false)).map (·.name), '\n' :: rest)) := by
  refine ⟨fun text => ?_, reads_stringLiteral, fun shape baseClass => ?_⟩
  · rw [stringLiteral, String.toList_ofList, flatMap_escapeChar]
  · refine ⟨(propertyBlock shape.properties).toList, ?_, ?_⟩
    · rw [shapeFile_eq]
      simp
    · have areExcluded (property : Property) :
          decide (property.required = some false) = property.isExcluded := by
        rw [Bool.eq_iff_iff, decide_eq_true_iff, Property.isExcluded, beq_iff_eq]
      simp only [areExcluded]
      exact reads_exclusionLine shape.properties _

end Php

end ApiShapes
