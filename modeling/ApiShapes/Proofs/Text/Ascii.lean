import ApiShapes.Text.CamelCase

/-!
# ASCII characters in the tables

The tables of letters and of case mappings are long, but all runs that reach below the code point
128 start there, and there is one such run for each kind of letter.  For ASCII characters the tables
therefore come to the tests and mappings of the library.
-/

namespace ApiShapes.Unicode

/-- An ASCII character. -/
def IsAscii (c : Char) : Prop :=
  c.toNat < 128

instance (c : Char) : Decidable (IsAscii c) :=
  inferInstanceAs (Decidable (_ < _))

/-- What holds of the first 128 code points holds of every ASCII character. -/
theorem IsAscii.forall
    (property : Char → Prop) (all : ∀ code < 128, property (Char.ofNat code))
    {c : Char} (ascii : IsAscii c) : property c := by
  have atCode := all c.toNat ascii
  rwa [Char.ofNat_toNat] at atCode

variable {c : Char} (ascii : IsAscii c)

include ascii

/-- Runs that start above ASCII have no part in a test on an ASCII character. -/
theorem inTable_ascii (table : List CodeRun) :
    inTable table c = inTable (table.filter (·.first < 128)) c := by
  rw [inTable, inTable, List.any_filter]
  refine congrArg (List.any table) (funext fun run => ?_)
  cases contained : run.contains c.toNat with
  | false => rw [Bool.and_false]
  | true =>
      simp only [CodeRun.contains, Bool.and_eq_true, decide_eq_true_eq] at contained
      have starts : run.first < 128 := Nat.lt_of_le_of_lt contained.1.1 ascii
      rw [Bool.and_true, decide_eq_true starts]

/-- For ASCII characters the table of lowercase letters agrees with the test of the library. -/
theorem isLowercase_ascii : isLowercase c = c.isLower := by
  have runs : lowercaseRuns.filter (·.first < 128) = [⟨0x61, 0x7A, 1⟩] := by decide +kernel
  rw [isLowercase, inTable_ascii ascii, runs]
  exact ascii.forall (fun c => inTable [⟨0x61, 0x7A, 1⟩] c = c.isLower) (by decide)

/-- For ASCII characters the table of uppercase letters agrees with the test of the library. -/
theorem isUppercase_ascii : isUppercase c = c.isUpper := by
  have runs : uppercaseRuns.filter (·.first < 128) = [⟨0x41, 0x5A, 1⟩] := by decide +kernel
  rw [isUppercase, inTable_ascii ascii, runs]
  exact ascii.forall (fun c => inTable [⟨0x41, 0x5A, 1⟩] c = c.isUpper) (by decide)

theorem isAlphanumeric_ascii : isAlphanumeric c = c.isAlphanum := by
  have runs : alphanumericRuns.filter (·.first < 128) =
      [⟨0x30, 0x39, 1⟩, ⟨0x41, 0x5A, 1⟩, ⟨0x61, 0x7A, 1⟩] := by decide +kernel
  rw [isAlphanumeric, inTable_ascii ascii, runs]
  exact ascii.forall
    (fun c => inTable [⟨0x30, 0x39, 1⟩, ⟨0x41, 0x5A, 1⟩, ⟨0x61, 0x7A, 1⟩] c = c.isAlphanum)
    (by decide)

/-- Runs that start above ASCII map no ASCII character. -/
theorem findSome?_map?_ascii (mappings : List CaseRun) :
    mappings.findSome? (·.map? c.toNat) =
      (mappings.filter (·.first < 128)).findSome? (·.map? c.toNat) := by
  induction mappings with
  | nil => rfl
  | cons run others ih =>
      by_cases starts : run.first < 128
      · rw [List.filter_cons, if_pos (decide_eq_true starts), List.findSome?_cons,
          List.findSome?_cons, ih]
      · have isAbove : ¬ (run.first ≤ c.toNat ∧ c.toNat ≤ run.last ∧
            (c.toNat - run.first) % run.step = 0) :=
          fun inRun => starts (Nat.lt_of_le_of_lt inRun.1 ascii)
        rw [List.filter_cons, if_neg (by simpa using starts), List.findSome?_cons, CaseRun.map?,
          if_neg isAbove, ih]

/-- Sequences for characters above ASCII have no part in mapping an ASCII character. -/
theorem mapCase_ascii
    (sequences : List (Nat × List Nat)) (mappings : List CaseRun)
    (above : ∀ entry ∈ sequences, 128 ≤ entry.1) :
    mapCase sequences mappings c = mapCase [] (mappings.filter (·.first < 128)) c := by
  have noSequence : sequences.lookup c.toNat = none := by
    rw [List.lookup_eq_none_iff]
    intro entry member
    have less : c.toNat < entry.1 := Nat.lt_of_lt_of_le ascii (above entry member)
    exact bne_iff_ne.mpr (Nat.ne_of_lt less)
  rw [mapCase, mapCase, noSequence, findSome?_map?_ascii ascii, List.lookup_nil]

/-- An ASCII character is mapped to one lowercase character, as the library does it. -/
theorem toLowercase_ascii : toLowercase c = [c.toLower] := by
  have runs : lowercaseMappings.filter (·.first < 128) = [⟨0x41, 0x5A, 1, 0x61⟩] := by
    decide +kernel
  rw [toLowercase, mapCase_ascii ascii _ _ (by decide), runs]
  exact ascii.forall (fun c => mapCase [] [⟨0x41, 0x5A, 1, 0x61⟩] c = [c.toLower]) (by decide)

theorem toUppercase_ascii : toUppercase c = [c.toUpper] := by
  have runs : uppercaseMappings.filter (·.first < 128) = [⟨0x61, 0x7A, 1, 0x41⟩] := by
    decide +kernel
  rw [toUppercase, mapCase_ascii ascii _ _ (by decide +kernel), runs]
  exact ascii.forall (fun c => mapCase [] [⟨0x61, 0x7A, 1, 0x41⟩] c = [c.toUpper]) (by decide)

end ApiShapes.Unicode
