import ApiShapes.Proofs.Json.Text

/-!
# Reading what was written

A text is read token by token, and between two tokens only what is open and what is due is known.
So a text of a value that stands in front of any other text is followed up to where the value is
complete; what is due there depends on what is open around it.  Main statement: every text of a
value is read back as that value, if no number is a floating-point number, no object has a key
twice, and no more containers lie in each other than may be open at once.
-/

namespace ApiShapes.Json

section Tokens

/-- Blanks in front of a text do not count. -/
theorem tokens_blanks {blanks : List Char} (areBlanks : Blanks blanks) (rest : List Char) :
    tokens (blanks ++ rest) = tokens rest := by
  induction blanks with
  | nil => rfl
  | cons c blanks ih =>
      have isBlank : isBlank c = true := by
        rcases areBlanks.eq_of_mem List.mem_cons_self with rfl | rfl | rfl | rfl <;> rfl
      rw [List.cons_append, tokens, if_pos isBlank]
      exact ih fun d member => areBlanks d (List.mem_cons_of_mem c member)

/-- Where a lexeme begins, it is the first token, and the others are those of the text behind it. -/
theorem tokens_lexeme
    {c : Char} {rest behind : List Char} {lexeme : Lexeme} (notBlank : isBlank c = false)
    (isLexeme : readLexeme c rest = (lexeme, behind)) :
    tokens (c :: rest) = ⟨lexeme, c :: rest⟩ :: tokens behind := by
  rw [tokens, if_neg (by simp [notBlank]), isLexeme]

/-- A minus or a digit begins a number. -/
theorem readLexeme_number {c : Char} (begins : c = '-' ∨ c.isDigit = true) (rest : List Char) :
    readLexeme c rest = numberLexeme (c :: rest) := by
  rw [readLexeme.eq_def]
  split
  case h_11 => rw [if_pos begins]
  all_goals exact absurd begins (by decide)

theorem notBlank_number {c : Char} (begins : c = '-' ∨ c.isDigit = true) : isBlank c = false := by
  cases blank : isBlank c with
  | false => rfl
  | true =>
      simp only [isBlank, Bool.or_eq_true, beq_iff_eq] at blank
      rcases blank with ((rfl | rfl) | rfl) | rfl <;> exact absurd begins (by decide)

/-- A quoted text is read as the string that it stands for, up to the closing quote. -/
theorem readLexeme_string {s : String} {text : List Char} (stand : AllStandFor s.toList text)
    (rest : List Char) : readLexeme '"' (text ++ '"' :: rest) = (.string s, rest) := by
  have isString : readLexeme '"' (text ++ '"' :: rest) = stringLexeme (text ++ '"' :: rest) := rfl
  rw [isString, stringLexeme, readString_text stand]
  simp only [String.ofList_toList]

end Tokens

section Stops

theorem stopsNumber_append
    {blanks rest : List Char} (areBlanks : Blanks blanks) (stops : StopsNumber rest) :
    StopsNumber (blanks ++ rest) := by
  cases blanks with
  | nil => exact stops
  | cons c blanks =>
      rintro d ⟨⟩
      rcases areBlanks.eq_of_mem List.mem_cons_self with rfl | rfl | rfl | rfl <;> decide

/-- A comma or a closing bracket ends a number. -/
theorem stopsNumber_mark {c : Char} (isMark : c ∈ [',', ']', '\x7d']) (rest : List Char) :
    StopsNumber (c :: rest) := by
  rintro d ⟨⟩
  simp only [List.mem_cons, List.not_mem_nil, or_false] at isMark
  rcases isMark with rfl | rfl | rfl <;> decide

end Stops

/-- Where a value is due, whatever is open around it, the text leads to `after`. -/
def TakesValue (outer : List Frame) (text : List Char) (after : Except Fault State) : Prop :=
  ∃ token others, tokens text = token :: others ∧ token.lexeme ≠ .closeList ∧
    (stepValue outer token >>= fun state => state.run others) = after

/-- Where a key is due, the text leads to `after`. -/
def TakesKey (known : List (String × Value)) (outer : List Frame) (text : List Char)
    (after : Except Fault State) : Prop :=
  ∃ token others, tokens text = token :: others ∧ token.lexeme ≠ .closeObject ∧
    (stepKey known outer token >>= fun state => state.run others) = after

section Steps

variable {outer : List Frame} {text : List Char} {after : Except Fault State}

theorem TakesValue.blanks
    {blanks : List Char} (areBlanks : Blanks blanks) (takes : TakesValue outer text after) :
    TakesValue outer (blanks ++ text) after := by
  rwa [TakesValue, tokens_blanks areBlanks]

/-- A text that is taken as a value is so where a value is wanted. -/
theorem TakesValue.value (takes : TakesValue outer text after) :
    (State.value outer).run (tokens text) = after := by
  rcases takes with ⟨token, others, isTokens, notClose, rfl⟩
  have isStep : stepDue outer token = stepValue outer token := by
    rw [stepDue.eq_def]
    split
    · rename_i isClose
      exact absurd isClose notClose
    · rfl
  rw [isTokens, State.run, State.step, isStep]

/-- The first item of an array is taken as if an array was open already. -/
theorem TakesValue.listStart (takes : TakesValue (.list [] :: outer) text after) :
    (State.listStart outer).run (tokens text) = after := by
  rcases takes with ⟨token, others, isTokens, notClose, rfl⟩
  rw [isTokens, State.run, State.step]
  split
  · rename_i isClose
    exact absurd isClose notClose
  · rfl

theorem TakesKey.blanks
    {known : List (String × Value)} {blanks : List Char} (areBlanks : Blanks blanks)
    (takes : TakesKey known outer text after) : TakesKey known outer (blanks ++ text) after := by
  rwa [TakesKey, tokens_blanks areBlanks]

/-- Right behind the opening brace of an object a key is taken. -/
theorem TakesKey.objectStart (takes : TakesKey [] outer text after) :
    (State.objectStart outer).run (tokens text) = after := by
  rcases takes with ⟨token, others, isTokens, notClose, rfl⟩
  rw [isTokens, State.run, State.step]
  split
  · rename_i isClose
    exact absurd isClose notClose
  · rfl

/-- Behind a comma of an object a key is taken. -/
theorem TakesKey.objectKey {known : List (String × Value)} (takes : TakesKey known outer text after) :
    (State.objectKey known outer).run (tokens text) = after := by
  rcases takes with ⟨token, others, isTokens, notClose, rfl⟩
  rw [isTokens, State.run, State.step]
  split
  · rename_i isClose
    exact absurd isClose notClose
  · rfl

/-- A scalar is a value by itself. -/
theorem takesValue_scalar
    {c : Char} {rest behind : List Char} {value : Value} (notBlank : isBlank c = false)
    (isScalar : readLexeme c rest = (.scalar value, behind)) :
    TakesValue outer (c :: rest) ((State.ofValue value outer).run (tokens behind)) :=
  ⟨_, _, tokens_lexeme notBlank isScalar, nofun, rfl⟩

/-- An opening bracket begins a list, as long as the nesting is not too deep. -/
theorem takesValue_array
    (isShallow : outer.length < nestingLimit)
    (goesOn : (State.listStart outer).run (tokens text) = after) :
    TakesValue outer ('[' :: text) after := by
  have opens (token : Token) (isOpen : token.lexeme = .openList) :
      stepValue outer token = .ok (.listStart outer) := by
    rw [stepValue, isOpen, openContainer, if_pos isShallow]
  refine ⟨_, _, tokens_lexeme rfl rfl, nofun, ?_⟩
  rw [opens _ rfl]
  exact goesOn

/-- An opening brace begins an object, as long as the nesting is not too deep. -/
theorem takesValue_object
    (isShallow : outer.length < nestingLimit)
    (goesOn : (State.objectStart outer).run (tokens text) = after) :
    TakesValue outer ('\x7b' :: text) after := by
  have opens (token : Token) (isOpen : token.lexeme = .openObject) :
      stepValue outer token = .ok (.objectStart outer) := by
    rw [stepValue, isOpen]
    exact if_pos isShallow
  refine ⟨_, _, tokens_lexeme rfl rfl, nofun, ?_⟩
  rw [opens _ rfl]
  exact goesOn

/-- A mark is a single token, which takes the state one step further. -/
theorem run_mark
    {state next : State} {c : Char} {rest : List Char} {lexeme : Lexeme}
    (notBlank : isBlank c = false) (isMark : readLexeme c rest = (lexeme, rest))
    (steps : state.step ⟨lexeme, c :: rest⟩ = .ok next) :
    state.run (tokens (c :: rest)) = next.run (tokens rest) := by
  rw [tokens_lexeme notBlank isMark, State.run, steps]
  rfl

/-- Behind an item the array ends with it, or the next item is due. -/
theorem run_behindItem (item : Value) (known : List Value) (outer : List Frame) (rest : List Char) :
    (State.ofValue item (.list known :: outer)).run (tokens (']' :: rest)) =
        (State.ofValue (.array (known.reverse ++ [item])) outer).run (tokens rest) ∧
      (State.ofValue item (.list known :: outer)).run (tokens (',' :: rest)) =
        (State.value (.list (item :: known) :: outer)).run (tokens rest) := by
  rw [← List.reverse_cons]
  exact ⟨run_mark rfl rfl rfl, run_mark rfl rfl rfl⟩

/-- Behind an entry the object ends with it, or the next key is due. -/
theorem run_behindEntry
    (entries : List (String × Value)) (outer : List Frame) (rest : List Char) :
    (State.objectRest entries outer).run (tokens ('\x7d' :: rest)) =
        (State.ofValue (.object entries) outer).run (tokens rest) ∧
      (State.objectRest entries outer).run (tokens (',' :: rest)) =
        (State.objectKey entries outer).run (tokens rest) :=
  ⟨run_mark rfl rfl rfl, run_mark rfl rfl rfl⟩

/-- A new key is put behind the known ones. -/
theorem setEntry_append
    {key : String} {known : List (String × Value)} (isNew : key ∉ known.map (·.1)) (value : Value) :
    setEntry key value known = known ++ [(key, value)] := by
  induction known with
  | nil => rfl
  | cons entry entries ih =>
      rw [List.map_cons, List.mem_cons, not_or] at isNew
      rw [setEntry, if_neg (Ne.symm isNew.1), ih isNew.2, List.cons_append]

theorem isNew_of_nodup
    {key : String} {value : Value} {known entries : List (String × Value)}
    (areNew : ((known ++ (key, value) :: entries).map (·.1)).Nodup) : key ∉ known.map (·.1) := by
  intro member
  rw [List.map_append, List.map_cons, List.nodup_append] at areNew
  exact areNew.2.2 key member key List.mem_cons_self rfl

end Steps

mutual

/--
The text of a value is taken as the value, in whatever it is nested.  The induction is over the
text, together with those of items and entries.
-/
theorem Value.WrittenAs.takes :
    ∀ {value : Value} {text : List Char}, value.WrittenAs text → value.isRegular = true →
      ∀ {outer : List Frame}, outer.length + value.depth ≤ nestingLimit →
      ∀ {rest : List Char}, StopsNumber rest →
      TakesValue outer (text ++ rest) ((State.ofValue value outer).run (tokens rest))
  | _, _, .null, _, _, _, _, _ => takesValue_scalar rfl rfl
  | _, _, .bool true, _, _, _, _, _ => takesValue_scalar rfl rfl
  | _, _, .bool false, _, _, _, _, _ => takesValue_scalar rfl rfl
  | _, _, .number written, _, _, _, rest, stops => by
      have isRead := readNumber_text written stops
      rcases written.begins with ⟨c, others, rfl, begins⟩
      rw [List.cons_append] at isRead ⊢
      refine takesValue_scalar (notBlank_number begins) ?_
      rw [readLexeme_number begins, numberLexeme, isRead]
  | _, _, .string stand, _, outer, _, rest, _ => by
      rw [List.append_assoc, List.cons_append]
      exact ⟨_, _, tokens_lexeme rfl (readLexeme_string stand rest), nofun, rfl⟩
  | _, _, .noItems areBlanks, _, outer, fits, rest, _ => by
      rw [Value.depth] at fits
      rw [List.append_assoc, List.cons_append]
      refine takesValue_array (by omega) ?_
      rw [tokens_blanks areBlanks]
      exact run_mark rfl rfl rfl
  | _, _, .items written, areRegular, outer, fits, rest, _ => by
      rw [Value.depth] at fits
      rw [List.append_assoc, List.cons_append]
      refine takesValue_array (by omega) (TakesValue.listStart ?_)
      exact written.takes areRegular (by omega) [] rest
  | _, _, .noEntries areBlanks, _, outer, fits, rest, _ => by
      rw [Value.depth] at fits
      rw [List.append_assoc, List.cons_append]
      refine takesValue_object (by omega) ?_
      rw [tokens_blanks areBlanks]
      exact run_mark rfl rfl rfl
  | _, _, .entries written, isRegular, outer, fits, rest, _ => by
      rw [Value.depth] at fits
      rcases Bool.and_eq_true_iff.mp isRegular with ⟨areDistinct, areRegular⟩
      rw [List.append_assoc, List.cons_append]
      refine takesValue_object (by omega) (TakesKey.objectStart ?_)
      exact written.takes areRegular (by omega) [] (of_decide_eq_true areDistinct) rest

/-- Blanks around the text of a value make no difference. -/
theorem Value.SpacedAs.takes :
    ∀ {value : Value} {text : List Char}, value.SpacedAs text → value.isRegular = true →
      ∀ {outer : List Frame}, outer.length + value.depth ≤ nestingLimit →
      ∀ {rest : List Char}, StopsNumber rest →
      TakesValue outer (text ++ rest) ((State.ofValue value outer).run (tokens rest))
  | _, _, .spaced areBefore written areBehind, isRegular, _, fits, rest, stops => by
      have takes := written.takes isRegular fits (stopsNumber_append areBehind stops)
      rw [tokens_blanks areBehind] at takes
      rw [List.append_assoc, List.append_assoc]
      exact takes.blanks areBefore

/--
The texts of items, up to the closing bracket, are taken as the items behind those that are known.
-/
theorem ItemsWrittenAs.takes :
    ∀ {items : List Value} {text : List Char}, ItemsWrittenAs items text →
      itemsAreRegular items = true →
      ∀ {outer : List Frame}, outer.length + 1 + itemsDepth items ≤ nestingLimit →
      ∀ (known : List Value) (rest : List Char),
      TakesValue (.list known :: outer) (text ++ ']' :: rest)
        ((State.ofValue (.array (known.reverse ++ items)) outer).run (tokens rest))
  | [item], _, .last written, areRegular, outer, fits, known, rest => by
      have isRegular := (Bool.and_eq_true_iff.mp areRegular).1
      have itemFits : (Frame.list known :: outer).length + item.depth ≤ nestingLimit := by
        rw [itemsDepth] at fits
        rw [List.length_cons]
        omega
      have stops : StopsNumber (']' :: rest) := stopsNumber_mark (by decide) rest
      have takes := written.takes isRegular itemFits stops
      rwa [(run_behindItem item known outer rest).1] at takes
  | _, _, @ItemsWrittenAs.comma item items text others written othersWritten, areRegular, outer, fits,
      known, rest => by
      rcases Bool.and_eq_true_iff.mp areRegular with ⟨isRegular, othersRegular⟩
      rw [itemsDepth] at fits
      have itemFits : (Frame.list known :: outer).length + item.depth ≤ nestingLimit := by
        rw [List.length_cons]
        omega
      have othersFit : outer.length + 1 + itemsDepth items ≤ nestingLimit := by omega
      have othersTake := (othersWritten.takes othersRegular othersFit (item :: known) rest).value
      have stops : StopsNumber (',' :: (others ++ ']' :: rest)) :=
        stopsNumber_mark (by decide) _
      have takes := written.takes isRegular itemFits stops
      rw [(run_behindItem item known outer _).2, othersTake, List.reverse_cons, List.append_assoc]
        at takes
      rw [List.append_assoc]
      exact takes

/-- The text of an entry is taken as the entry, if the key is new. -/
theorem EntryWrittenAs.takes :
    ∀ {key : String} {value : Value} {text : List Char}, EntryWrittenAs key value text →
      value.isRegular = true →
      ∀ {outer : List Frame}, outer.length + 1 + value.depth ≤ nestingLimit →
      ∀ {known : List (String × Value)}, key ∉ known.map (·.1) →
      ∀ {rest : List Char}, StopsNumber rest →
      TakesKey known outer (text ++ rest)
        ((State.objectRest (known ++ [(key, value)]) outer).run (tokens rest))
  | key, value, _, .entry areBefore stand areBehind written, isRegular, outer, fits, known, isNew,
      rest, stops => by
      have valueFits : (Frame.entry known key :: outer).length + value.depth ≤ nestingLimit := by
        rw [List.length_cons]
        omega
      have takes := (written.takes isRegular valueFits stops).value
      rw [State.ofValue, setEntry_append isNew] at takes
      simp only [List.append_assoc, List.cons_append]
      refine TakesKey.blanks areBefore ?_
      refine ⟨_, _, tokens_lexeme rfl (readLexeme_string stand _), nofun, ?_⟩
      rw [tokens_blanks areBehind, ← takes]
      exact run_mark rfl rfl rfl

/--
The texts of entries, up to the closing brace, are taken as the entries behind those that are known.
-/
theorem EntriesWrittenAs.takes :
    ∀ {entries : List (String × Value)} {text : List Char}, EntriesWrittenAs entries text →
      entriesAreRegular entries = true →
      ∀ {outer : List Frame}, outer.length + 1 + entriesDepth entries ≤ nestingLimit →
      ∀ (known : List (String × Value)), ((known ++ entries).map (·.1)).Nodup →
      ∀ (rest : List Char),
      TakesKey known outer (text ++ '\x7d' :: rest)
        ((State.ofValue (.object (known ++ entries)) outer).run (tokens rest))
  | [(key, value)], _, .last written, areRegular, outer, fits, known, areNew, rest => by
      have isRegular := (Bool.and_eq_true_iff.mp areRegular).1
      have valueFits : outer.length + 1 + value.depth ≤ nestingLimit := by
        rw [entriesDepth] at fits
        omega
      have stops : StopsNumber ('\x7d' :: rest) := stopsNumber_mark (by decide) rest
      have takes := written.takes isRegular valueFits (isNew_of_nodup areNew) stops
      rwa [(run_behindEntry _ outer rest).1] at takes
  | _, _, @EntriesWrittenAs.comma key value entries text others written othersWritten, areRegular,
      outer, fits, known, areNew, rest => by
      rcases Bool.and_eq_true_iff.mp areRegular with ⟨isRegular, othersRegular⟩
      rw [entriesDepth] at fits
      have valueFits : outer.length + 1 + value.depth ≤ nestingLimit := by omega
      have othersFit : outer.length + 1 + entriesDepth entries ≤ nestingLimit := by omega
      have stops : StopsNumber (',' :: (others ++ '\x7d' :: rest)) :=
        stopsNumber_mark (by decide) _
      have takes := written.takes isRegular valueFits (isNew_of_nodup areNew) stops
      have regrouped : known ++ (key, value) :: entries = known ++ [(key, value)] ++ entries := by
        rw [List.append_assoc, List.singleton_append]
      rw [regrouped] at areNew ⊢
      have othersTake := othersWritten.takes othersRegular othersFit _ areNew rest
      rw [(run_behindEntry _ outer _).2, othersTake.objectKey] at takes
      rw [List.append_assoc]
      exact takes

end

/-- Every text of a value, with blanks around it, is read back as the value. -/
theorem Value.ofText_eq
    {value : Value} {text : List Char} (written : value.SpacedAs text)
    (isRegular : value.isRegular = true) (fits : value.depth ≤ nestingLimit) :
    Value.ofText text = .ok value := by
  have outermost : ([] : List Frame).length + value.depth ≤ nestingLimit := by
    rwa [List.length_nil, Nat.zero_add]
  have atEnd : StopsNumber [] := by rintro c ⟨⟩
  have takes := (written.takes isRegular outermost atEnd).value
  rw [List.append_nil, tokens] at takes
  rw [Value.ofText, takes]
  rfl

end ApiShapes.Json
