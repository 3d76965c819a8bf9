import Mathlib.Data.List.Basic

/-!
# Readers

A reader takes a value from the front of a text and leaves the rest, or it fails.  `Reads` says that
a reader takes exactly a given text, whatever comes behind it, so a text that is put together from
parts is read by the readers of the parts one after the other.  A repetition takes items as long as
there are any; what comes behind it must therefore not begin like an item.
-/

namespace ApiShapes.Text

/-- Takes a value from the front of a text and leaves the rest, or fails. -/
abbrev Reader (α : Type) := StateT (List Char) Option α

namespace Reader

variable {α β : Type}

/-- Takes a fixed text. -/
def expect (text : String) : Reader Unit := fun input =>
  (text.toList.isPrefixOf? input).map fun rest => ((), rest)

/-- Takes what comes before the first character that stops, and that character. -/
def untilStop (stops : Char → Bool) : Reader (String × Char) := fun input =>
  match input.dropWhile (!stops ·) with
  | [] => none
  | stop :: rest => some ((.ofList (input.takeWhile (!stops ·)), stop), rest)

/-- The items at the front of a text and the rest; an item that takes nothing is none. -/
def itemsOf (item : Reader α) (input : List Char) : List α × List Char :=
  match item.run input with
  | none => ([], input)
  | some (value, rest) =>
      if _ : rest.length < input.length then
        (value :: (itemsOf item rest).1, (itemsOf item rest).2)
      else ([], input)
termination_by input.length

/-- Takes items as long as there are any. -/
def many (item : Reader α) : Reader (List α) := fun input =>
  some (itemsOf item input)

/-- Takes items with a separator between them, as long as there are any. -/
def separated (separator : String) (item : Reader α) : Reader (List α) :=
  (do
    let first ← item
    let others ← many (do expect separator; item)
    pure (first :: others)) <|> pure []

end Reader

open Reader

variable {α β : Type}

/-- A reader takes a text for a value, whatever comes behind the text. -/
def Reads (reader : Reader α) (text : List Char) (value : α) : Prop :=
  ∀ rest, reader.run (text ++ rest) = some (value, rest)

namespace Reads

/-- A reader that takes nothing reads the empty text. -/
theorem pure (value : α) : Reads (Pure.pure value) [] value :=
  fun _ => rfl

/-- Two readers, one behind the other, read the two texts one behind the other. -/
theorem bind
    {first : Reader α} {next : α → Reader β} {text more : List Char} {value : α} {result : β}
    (readsFirst : Reads first text value) (readsNext : Reads (next value) more result) :
    Reads (first >>= next) (text ++ more) result := by
  intro rest
  rw [StateT.run_bind, List.append_assoc, readsFirst]
  exact readsNext rest

/-- What is made of the value of a reader is read from the same text. -/
theorem bind_pure
    {reader : Reader α} {text : List Char} {value : α} (reads : Reads reader text value)
    (f : α → β) : Reads (reader >>= fun each => Pure.pure (f each)) text (f value) := by
  have readsBoth :
      Reads (reader >>= fun each => Pure.pure (f each)) (text ++ []) (f value) :=
    reads.bind (.pure (f value))
  rwa [List.append_nil] at readsBoth

/-- An expected text is read from itself. -/
theorem expect (text : String) : Reads (Reader.expect text) text.toList () := by
  intro rest
  have isBeginning : text.toList.isPrefixOf? (text.toList ++ rest) = some rest :=
    List.isPrefixOf?_eq_some_iff_append_eq.mpr rfl
  change (text.toList.isPrefixOf? (text.toList ++ rest)).map _ = _
  rw [isBeginning]
  rfl

/-- A word without stops is read up to the stop behind it, which is taken as well. -/
theorem untilStop
    {stops : Char → Bool} {word : String} {stop : Char}
    (goesOn : ∀ c ∈ word.toList, stops c = false) (isStop : stops stop = true) :
    Reads (Reader.untilStop stops) (word.toList ++ [stop]) (word, stop) := by
  intro rest
  have inWord : ∀ c ∈ word.toList, (!stops c) = true := by
    intro c member
    rw [goesOn c member, Bool.not_false]
  rw [List.append_assoc, StateT.run, Reader.untilStop, List.dropWhile_append_of_pos inWord,
    List.takeWhile_append_of_pos inWord]
  simp [isStop]

/-- Of two readers the first is tried first. -/
theorem orElse_left
    {reader other : Reader α} {text : List Char} {value : α} (reads : Reads reader text value) :
    Reads (reader <|> other) text value := by
  intro rest
  rw [StateT.run_orElse, reads]
  rfl

/-- The second of two readers reads a text on which the first fails. -/
theorem orElse_right
    {reader other : Reader α} {text : List Char} {value : α}
    (fails : ∀ rest, reader.run (text ++ rest) = none) (reads : Reads other text value) :
    Reads (reader <|> other) text value := by
  intro rest
  rw [StateT.run_orElse, fails, reads]
  rfl

end Reads

theorem expect_run_of_not_prefix
    {text : String} {input : List Char} (different : ¬ text.toList <+: input) :
    (expect text).run input = none := by
  have notBeginning : text.toList.isPrefixOf? input = none := by
    rw [Option.eq_none_iff_forall_not_mem]
    intro rest isRest
    exact different ⟨rest, List.isPrefixOf?_eq_some_iff_append_eq.mp isRest⟩
  rw [StateT.run, expect, notBeginning]
  rfl

/-! ## Repetitions -/

section Repetition

variable {Item : Type} {items : List Item} {item : Reader α} {text : Item → List Char}
  {value : Item → α}

/--
Items are read one behind the other, as long as there is one, in front of any text that does not go
on with an item.
-/
theorem itemsOf_append
    (reads : ∀ each ∈ items, Reads item (text each) (value each))
    (nonempty : ∀ each ∈ items, text each ≠ [])
    {rest : List Char} (ends : item.run rest = none) :
    itemsOf item (items.flatMap text ++ rest) = (items.map value, rest) := by
  induction items with
  | nil => rw [itemsOf, List.flatMap_nil, List.nil_append, ends, List.map_nil]
  | cons first others ih =>
      rcases List.forall_mem_cons.mp reads with ⟨readsFirst, readsOthers⟩
      rcases List.forall_mem_cons.mp nonempty with ⟨firstNonempty, othersNonempty⟩
      have shorter : (others.flatMap text ++ rest).length <
          (text first).length + (others.flatMap text ++ rest).length := by
        exact Nat.lt_add_of_pos_left (List.length_pos_of_ne_nil firstNonempty)
      rw [List.flatMap_cons, List.append_assoc, itemsOf, readsFirst]
      rw [← List.length_append] at shorter
      simp only [shorter, dif_pos, ih readsOthers othersNonempty, List.map_cons]

/-- Items are read up to what does not begin like one. -/
theorem Reads.many_bind
    {next : List α → Reader β} {more : List Char} {result : β}
    (reads : ∀ each ∈ items, Reads item (text each) (value each))
    (nonempty : ∀ each ∈ items, text each ≠ [])
    (ends : ∀ rest, item.run (more ++ rest) = none)
    (readsNext : Reads (next (items.map value)) more result) :
    Reads (Reader.many item >>= next) (items.flatMap text ++ more) result := by
  intro rest
  have run : (Reader.many item).run (items.flatMap text ++ (more ++ rest)) =
      some (items.map value, more ++ rest) :=
    congrArg some (itemsOf_append reads nonempty (ends rest))
  rw [StateT.run_bind, List.append_assoc, run]
  exact readsNext rest

theorem intercalate_cons (separator : List Char) (first : List Char) (others : List (List Char)) :
    separator.intercalate (first :: others) = first ++ others.flatMap (separator ++ ·) := by
  induction others generalizing first with
  | nil => simp
  | cons next others ih =>
      rw [List.intercalate_cons_cons, ih, List.flatMap_cons, List.append_assoc, List.append_assoc]

/-- Separated items are read up to what begins neither like an item nor like a separator. -/
theorem Reads.separated_bind
    {separator : String} {next : List α → Reader β} {more : List Char} {result : β}
    (reads : ∀ each ∈ items, Reads item (text each) (value each))
    (nonempty : separator.toList ≠ [])
    (ends : ∀ rest, item.run (more ++ rest) = none)
    (notSeparated : ∀ rest, ¬ separator.toList <+: more ++ rest)
    (readsNext : Reads (next (items.map value)) more result) :
    Reads (Reader.separated separator item >>= next)
      (separator.toList.intercalate (items.map text) ++ more) result := by
  intro rest
  suffices run : (Reader.separated separator item).run
      (separator.toList.intercalate (items.map text) ++ (more ++ rest)) =
        some (items.map value, more ++ rest) by
    rw [StateT.run_bind, List.append_assoc, run]
    exact readsNext rest
  rw [Reader.separated, StateT.run_orElse]
  cases items with
  | nil =>
      rw [StateT.run_bind, List.map_nil, List.intercalate_nil, List.nil_append, ends]
      rfl
  | cons first others =>
      rcases List.forall_mem_cons.mp reads with ⟨readsFirst, readsOthers⟩
      have readsLater : ∀ each ∈ others,
          Reads (do Reader.expect separator; item) (separator.toList ++ text each) (value each) :=
        fun each member => .bind (.expect separator) (readsOthers each member)
      have noneLater : (do Reader.expect separator; item).run (more ++ rest) = none := by
        rw [StateT.run_bind, expect_run_of_not_prefix (notSeparated rest)]
        rfl
      have runLater : (Reader.many (do Reader.expect separator; item)).run
          (others.flatMap (fun each => separator.toList ++ text each) ++ (more ++ rest)) =
            some (others.map value, more ++ rest) :=
        congrArg some (itemsOf_append readsLater
          (fun each _ => List.append_ne_nil_of_left_ne_nil nonempty (text each)) noneLater)
      simp only [List.map_cons, intercalate_cons, List.flatMap_map, List.append_assoc,
        StateT.run_bind, readsFirst _, Option.bind_eq_bind, Option.bind_some, runLater,
        StateT.run_pure, Option.pure_def]
      rfl

end Repetition

end ApiShapes.Text
