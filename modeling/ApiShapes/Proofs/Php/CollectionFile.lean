import ApiShapes.Proofs.Php.StringLiteral
import Mathlib.Data.List.Chain

/-!
# What the file of a collection passes on

The constructor in the file of a collection passes on the reference to the element, which stands
between single quotes as it is, without any escape.  So the reference must be a text that stands for
itself there: no quote in it, no two backslashes one behind the other, and none at the end.  Main
statement: the base class gets the reference exactly if it is such a text.
-/

namespace ApiShapes.Php

open Text Text.Reader

/-- A text stands for itself between single quotes. -/
@[mk_iff]
structure Verbatim (text : List Char) : Prop where
  noQuote : '\x27' ∉ text
  apart : text.IsChain fun c next => ¬ (c = '\\' ∧ next = '\\')
  notLast : text.getLast? ≠ some '\\'

instance (text : List Char) : Decidable (Verbatim text) :=
  decidable_of_iff' _ (verbatim_iff text)

namespace Verbatim

theorem nil : Verbatim [] :=
  ⟨List.not_mem_nil, .nil, nofun⟩

/-- A character other than a backslash stands for itself unless it is a quote. -/
theorem cons_iff {c : Char} (notBackslash : c ≠ '\\') {text : List Char} :
    Verbatim (c :: text) ↔ c ≠ '\x27' ∧ Verbatim text := by
  have notLast_iff : (c :: text).getLast? ≠ some '\\' ↔ text.getLast? ≠ some '\\' := by
    rw [List.getLast?_cons]
    cases text.getLast? <;> simp [notBackslash]
  rw [verbatim_iff, verbatim_iff, notLast_iff, List.isChain_cons, List.mem_cons, not_or, eq_comm]
  simp only [notBackslash, false_and, not_false_eq_true, implies_true, true_and, and_assoc]

/-- A backslash stands for itself in front of a character that is no backslash. -/
theorem backslash_cons_iff {text : List Char} :
    Verbatim ('\\' :: text) ↔ text ≠ [] ∧ text.head? ≠ some '\\' ∧ Verbatim text := by
  cases text with
  | nil => decide
  | cons c others =>
      constructor
      · rintro ⟨noQuote, apart, notLast⟩
        rcases List.isChain_cons_cons.mp apart with ⟨different, apart⟩
        refine ⟨List.cons_ne_nil c others, ?_, ?_⟩
        · intro isBackslash
          exact different ⟨rfl, Option.some.inj isBackslash⟩
        · exact ⟨fun hasQuote => noQuote (List.mem_cons_of_mem _ hasQuote), apart, notLast⟩
      · rintro ⟨-, different, noQuote, apart, notLast⟩
        refine ⟨?_, List.isChain_cons_cons.mpr ⟨?_, apart⟩, notLast⟩
        · rw [List.mem_cons, not_or]
          exact ⟨by decide, noQuote⟩
        · exact fun both => different (congrArg some both.2)

/-- Only the last characters of the first part could spoil the second one. -/
theorem append {first second : List Char} (ofFirst : Verbatim first) (ofSecond : Verbatim second) :
    Verbatim (first ++ second) where
  noQuote := by
    rw [List.mem_append, not_or]
    exact ⟨ofFirst.noQuote, ofSecond.noQuote⟩
  apart := by
    refine List.isChain_append.mpr ⟨ofFirst.apart, ofSecond.apart, ?_⟩
    rintro c isLast next - ⟨isBackslash, -⟩
    exact ofFirst.notLast (isBackslash ▸ isLast)
  notLast := by
    rw [List.getLast?_append, Ne, Option.or_eq_some_iff]
    rintro (inSecond | ⟨-, inFirst⟩)
    · exact ofSecond.notLast inSecond
    · exact ofFirst.notLast inFirst

/-- A text may be cut in front of a backslash: it stands for itself exactly if both parts do. -/
theorem append_backslash_iff {first second : List Char} :
    Verbatim (first ++ '\\' :: second) ↔ Verbatim first ∧ Verbatim ('\\' :: second) := by
  constructor
  · rintro ⟨noQuote, apart, notLast⟩
    rw [List.mem_append, not_or] at noQuote
    rw [List.getLast?_append_cons] at notLast
    rcases List.isChain_append.mp apart with ⟨inFirst, inSecond, between⟩
    refine ⟨⟨noQuote.1, inFirst, ?_⟩, ⟨noQuote.2, inSecond, notLast⟩⟩
    intro isLast
    exact between '\\' isLast '\\' rfl ⟨rfl, rfl⟩
  · rintro ⟨ofFirst, ofSecond⟩
    exact ofFirst.append ofSecond

/-- A text without quotes and backslashes stands for itself. -/
theorem of_no_sign {text : List Char} (noQuote : '\x27' ∉ text) (noBackslash : '\\' ∉ text) :
    Verbatim text := by
  induction text with
  | nil => exact nil
  | cons c others ih =>
      rw [List.mem_cons, not_or] at noQuote noBackslash
      exact (cons_iff (Ne.symm noBackslash.1)).mpr
        ⟨Ne.symm noQuote.1, ih noQuote.2 noBackslash.2⟩

end Verbatim

/-! ## Reading a text without escapes -/

theorem map_cons_eq_some
    {c d : Char} {text rest : List Char} {read : Option (List Char × List Char)} :
    read.map (Prod.map (List.cons c) id) = some (d :: text, rest) ↔
      c = d ∧ read = some (text, rest) := by
  cases read <;> simp [Prod.ext_iff, and_assoc]

/-- Putting a character in front of what is read adds one to its length. -/
theorem length_of_map_cons
    {c : Char} {read : Option (List Char × List Char)} {content rest : List Char} {bound : Nat}
    (shorter : ∀ {inner}, read = some (inner, rest) → inner.length + rest.length < bound)
    (isResult : read.map (Prod.map (List.cons c) id) = some (content, rest)) :
    content.length + rest.length < bound + 1 := by
  rcases Option.map_eq_some_iff.mp isResult with ⟨⟨inner, left⟩, readInner, isPair⟩
  obtain ⟨rfl, rfl⟩ := Prod.mk.inj isPair
  have innerShorter := shorter readInner
  rw [List.length_cons]
  omega

/-- Reading takes at least one character for each that it gives, and the quote. -/
theorem length_of_quotedContent
    {input content rest : List Char} (read : quotedContent input = some (content, rest)) :
    content.length + rest.length < input.length := by
  induction input using quotedContent.induct generalizing content with
  | case1 => cases read
  | case2 =>
      obtain ⟨rfl, rfl⟩ := Prod.mk.inj (Option.some.inj read)
      decide
  | case3 c notQuote => simp [quotedContent, notQuote] at read
  | case4 next others =>
      obtain ⟨rfl, rfl⟩ := Prod.mk.inj (Option.some.inj read)
      simp
  | case5 c next others notQuote escapes ih =>
      rw [quotedContent, if_neg notQuote, if_pos escapes] at read
      exact Nat.lt_succ_of_lt (length_of_map_cons ih read)
  | case6 c next others notQuote notEscape ih =>
      rw [quotedContent, if_neg notQuote, if_neg notEscape] at read
      exact length_of_map_cons ih read

theorem quotedContent_backslash
    {c : Char} (plain : ¬ (c = '\\' ∨ c = '\x27')) (rest : List Char) :
    quotedContent ('\\' :: c :: rest) =
      (quotedContent (c :: rest)).map (Prod.map (List.cons '\\') id) := by
  rw [quotedContent, if_neg (by decide), if_neg fun escapes => plain escapes.2]

/-- An escape takes two characters for one, so what follows it cannot give all that was written. -/
theorem quotedContent_escaped_ne
    {c : Char} (special : c = '\\' ∨ c = '\x27') (text rest : List Char) :
    quotedContent ('\\' :: c :: (text ++ '\x27' :: rest)) ≠ some ('\\' :: c :: text, rest) := by
  intro read
  rw [quotedContent_escaped special, map_cons_eq_some] at read
  have shorter := length_of_quotedContent read.2
  simp only [List.length_append, List.length_cons] at shorter
  omega

/-- A text between quotes is read as it stands exactly if it stands for itself. -/
theorem quotedContent_eq_iff (text rest : List Char) :
    quotedContent (text ++ '\x27' :: rest) = some (text, rest) ↔ Verbatim text := by
  induction text with
  | nil => exact iff_of_true (quotedContent_quote rest) .nil
  | cons c others ih =>
      by_cases isBackslash : c = '\\'
      · subst c
        cases others with
        | nil =>
            refine iff_of_false (fun read => ?_) (by decide)
            rw [List.singleton_append, quotedContent_escaped (.inr rfl), map_cons_eq_some] at read
            exact absurd read.1 (by decide)
        | cons next others =>
            rw [Verbatim.backslash_cons_iff, ← ih, List.cons_append, List.cons_append]
            by_cases special : next = '\\' ∨ next = '\x27'
            · refine iff_of_false (quotedContent_escaped_ne special others rest) ?_
              rintro ⟨-, notBackslash, read⟩
              rcases special with rfl | rfl
              · exact notBackslash rfl
              · simp [quotedContent_quote] at read
            · rw [quotedContent_backslash special, map_cons_eq_some]
              rw [not_or] at special
              simp [special.1]
      · rw [Verbatim.cons_iff isBackslash, ← ih]
        by_cases isQuote : c = '\x27'
        · subst c
          simp [quotedContent_quote]
        · rw [List.cons_append, quotedContent_plain isQuote isBackslash, map_cons_eq_some]
          simp [isQuote]

/-- Behind an opening quote a string is read up to the quote that closes it. -/
theorem readString_run_quote_iff {input rest : List Char} {text : String} :
    readString.run ('\x27' :: input) = some (text, rest) ↔
      quotedContent input = some (text.toList, rest) := by
  have run : readString.run ('\x27' :: input) =
      (quotedContent input).map (Prod.map String.ofList id) := rfl
  rw [run]
  cases quotedContent input with
  | none => simp
  | some read => simp [Prod.ext_iff, ← String.toList_inj]

/-! ## Collections -/

/--
The text behind `parent::__construct(` in the file of a collection is a string literal for the
reference to the element, and what comes behind a first argument.
-/
def PassesElement (collection : Collection) (baseClass : String) : Prop :=
  ∃ arguments,
    (collectionFile collection baseClass).toList =
      (classOpening collection.ns collection.name baseClass ++ constructorOpening).toList ++
        arguments ∧
    readString.run arguments = some (collection.element, constructorEnd.toList)

/-- The reference to the element is passed on exactly if it stands for itself. -/
theorem passesElement_iff (collection : Collection) (baseClass : String) :
    PassesElement collection baseClass ↔ Verbatim collection.element.toList := by
  have text : (collectionFile collection baseClass).toList =
      (classOpening collection.ns collection.name baseClass ++ constructorOpening).toList ++
        '\x27' :: (collection.element.toList ++ '\x27' :: constructorEnd.toList) := by
    rw [collectionFile_eq]
    simp only [String.toList_append, List.append_assoc]
    rfl
  rw [← quotedContent_eq_iff _ constructorEnd.toList, ← readString_run_quote_iff, PassesElement,
    text]
  constructor
  · rintro ⟨arguments, isText, read⟩
    rwa [List.append_cancel_left isText]
  · intro read
    exact ⟨_, rfl, read⟩

end ApiShapes.Php
