import ApiShapes.ClassName
import ApiShapes.Proofs.Text.Split

/-!
# The characters of camel-cased names

A camel-cased name consists of images of letters and numbers under the case mappings.  Among the
ASCII characters these are letters and digits only, so a camel-cased name has no slash, no
backslash, no dot and no quote in it, whatever the text it is made from.  This is what keeps the
names of documents and fields from meaning anything in a path or in a namespace.
-/

namespace ApiShapes

namespace Unicode

/-- A character that is a letter or a digit if it is ASCII at all. -/
def IsPlain (c : Char) : Prop :=
  c.toNat < 128 → c.isAlphanum = true

instance (c : Char) : Decidable (IsPlain c) :=
  inferInstanceAs (Decidable (_ → _))

/-- Every code point of a run is mapped to a plain character. -/
def CaseRun.isPlain (run : CaseRun) : Bool :=
  (List.range (run.last - run.first + 1)).all fun offset =>
    decide (IsPlain (Char.ofNat (run.image + offset)))

/-- Every code point of a sequence is a plain character. -/
def sequenceIsPlain (codes : List Nat) : Bool :=
  codes.all fun code => decide (IsPlain (Char.ofNat code))

/-- What a run of the case table maps to is plain, if the run has been checked. -/
theorem CaseRun.isPlain_map?
    {run : CaseRun} {code image : Nat}
    (plain : run.isPlain = true)
    (mapped : run.map? code = some image) :
    IsPlain (Char.ofNat image) := by
  rw [CaseRun.map?] at mapped
  split at mapped
  · rename_i inRun
    rcases inRun with ⟨first, last, -⟩
    obtain rfl := Option.some.inj mapped
    have offset : code - run.first < run.last - run.first + 1 := by omega
    exact of_decide_eq_true (List.all_eq_true.mp plain _ (List.mem_range.mpr offset))
  · simp at mapped

/-- A case mapping with plain images keeps plain characters plain. -/
theorem mapCase_plain
    {sequences : List (Nat × List Nat)} {mappings : List CaseRun} {source : Char}
    (sequencesPlain : sequences.all (fun entry => sequenceIsPlain entry.2) = true)
    (mappingsPlain : mappings.all CaseRun.isPlain = true)
    (sourcePlain : IsPlain source) :
    ∀ c ∈ mapCase sequences mappings source, IsPlain c := by
  intro c member
  rw [mapCase] at member
  split at member
  · rename_i codes found
    rcases List.mem_map.mp member with ⟨code, codeMember, rfl⟩
    rcases List.lookup_eq_some_iff.mp found with ⟨before, after, split, -⟩
    have entryPlain : sequenceIsPlain codes = true :=
      List.all_eq_true.mp sequencesPlain (source.toNat, codes) (by simp [split])
    exact of_decide_eq_true (List.all_eq_true.mp entryPlain code codeMember)
  · split at member
    · rename_i code found
      rcases List.exists_of_findSome?_eq_some found with ⟨run, runMember, mapped⟩
      rw [List.mem_singleton.mp member]
      exact CaseRun.isPlain_map? (List.all_eq_true.mp mappingsPlain run runMember) mapped
    · rw [List.mem_singleton.mp member]
      exact sourcePlain

/-- Plain characters stay plain in uppercase, also those that become several. -/
theorem toUppercase_plain {source : Char} (plain : IsPlain source) :
    ∀ c ∈ toUppercase source, IsPlain c :=
  mapCase_plain (by decide +kernel) (by decide +kernel) plain

theorem toLowercase_plain {source : Char} (plain : IsPlain source) :
    ∀ c ∈ toLowercase source, IsPlain c :=
  mapCase_plain (by decide +kernel) (by decide +kernel) plain

/-- Every code point of a run is a plain character; a run that starts above ASCII has no other. -/
def CodeRun.isPlain (run : CodeRun) : Bool :=
  decide (128 ≤ run.first) ||
    (List.range (run.last - run.first + 1)).all fun offset =>
      decide (IsPlain (Char.ofNat (run.first + offset)))

/-- The table of letters and digits holds plain characters only. -/
theorem alphanumericRuns_plain : alphanumericRuns.all CodeRun.isPlain = true := by
  decide +kernel

/-- A letter or digit that is ASCII at all is an ASCII letter or digit. -/
theorem isAlphanumeric_plain {c : Char} (alphanumeric : isAlphanumeric c = true) :
    IsPlain c := by
  intro ascii
  rcases List.any_eq_true.mp alphanumeric with ⟨run, runMember, contains⟩
  simp only [CodeRun.contains, Bool.and_eq_true, decide_eq_true_eq] at contains
  have runPlain := List.all_eq_true.mp alphanumericRuns_plain run runMember
  simp only [CodeRun.isPlain, Bool.or_eq_true, decide_eq_true_eq, List.all_eq_true,
    List.mem_range] at runPlain
  rcases runPlain with above | plain
  · omega
  · have offsetPlain := plain (c.toNat - run.first) (by omega)
    rw [Nat.add_sub_cancel' contains.1.1, Char.ofNat_toNat] at offsetPlain
    exact offsetPlain ascii

end Unicode

namespace Text

open Unicode

/-- The words of a piece are made of its characters. -/
theorem mem_wordsOfPiece
    {mode : CaseMode} {piece word : List Char}
    (member : word ∈ wordsOfPiece mode piece) :
    ∀ c ∈ word, c ∈ piece := by
  fun_induction wordsOfPiece mode piece generalizing word with
  | case1 mode => simp at member
  | case2 mode c =>
      obtain rfl := List.mem_singleton.mp member
      exact fun _ inWord => inWord
  | case3 mode c next rest endsHere ih =>
      intro x inWord
      rcases List.mem_cons.mp member with rfl | later
      · rw [List.mem_singleton.mp inWord]
        exact List.mem_cons_self
      · exact List.mem_cons_of_mem c (ih later x inWord)
  | case4 mode c next rest notLower endsBefore ih =>
      intro x inWord
      rcases List.mem_cons.mp member with rfl | later
      · simp at inWord
      · rcases mem_consFirst later x inWord with rfl | ⟨old, oldMember, inOld⟩
        · exact List.mem_cons_self
        · exact List.mem_cons_of_mem c (ih oldMember x inOld)
  | case5 mode c next rest notLower notUpper ih =>
      intro x inWord
      rcases mem_consFirst member x inWord with rfl | ⟨old, oldMember, inOld⟩
      · exact List.mem_cons_self
      · exact List.mem_cons_of_mem c (ih oldMember x inOld)

/-- Every character of a word is plain, since what separates words is left out. -/
theorem words_plain {text word : List Char} (member : word ∈ words text) :
    ∀ c ∈ word, IsPlain c := by
  intro c inWord
  rcases List.mem_flatMap.mp member with ⟨piece, pieceMember, wordMember⟩
  have notSeparator := mem_splitAtEach pieceMember c (mem_wordsOfPiece wordMember c inWord)
  exact isAlphanumeric_plain (by simpa using notSeparator)

theorem lowercaseWord_plain {word : List Char} (plain : ∀ c ∈ word, IsPlain c) :
    ∀ c ∈ lowercaseWord word, IsPlain c := by
  intro c member
  fun_induction lowercaseWord word with
  | case1 => simp at member
  | case2 =>
      rw [List.mem_singleton.mp member]
      decide
  | case3 first _ =>
      exact toLowercase_plain (plain first List.mem_cons_self) c member
  | case4 first rest _ ih =>
      rcases List.mem_append.mp member with inFirst | inRest
      · exact toLowercase_plain (plain first List.mem_cons_self) c inFirst
      · exact ih (fun x inWord => plain x (List.mem_cons_of_mem first inWord)) inRest

/-- A capitalized word of plain characters is plain. -/
theorem capitalizeWord_plain {word : List Char} (plain : ∀ c ∈ word, IsPlain c) :
    ∀ c ∈ capitalizeWord word, IsPlain c := by
  intro c member
  cases word with
  | nil => simp [capitalizeWord] at member
  | cons first rest =>
      rcases List.mem_append.mp member with inFirst | inRest
      · exact toUppercase_plain (plain first List.mem_cons_self) c inFirst
      · exact lowercaseWord_plain
          (fun x inWord => plain x (List.mem_cons_of_mem first inWord)) c inRest

/-- A camel-cased text has no ASCII characters but letters and digits. -/
theorem upperCamel_plain (text : String) :
    ∀ c ∈ (upperCamel text).toList, IsPlain c := by
  intro c member
  rw [upperCamel, String.toList_ofList] at member
  rcases List.mem_flatMap.mp member with ⟨word, wordMember, inWord⟩
  exact capitalizeWord_plain (words_plain wordMember) c inWord

end Text

open Unicode

theorem isPlain_of_all
    {text : String} (alphanumeric : text.toList.all Char.isAlphanum = true) :
    ∀ c ∈ text.toList, IsPlain c := by
  intro c member isAscii
  exact List.all_eq_true.mp alphanumeric c member

/-- The class name of a document is plain, whatever the document is called. -/
theorem documentClass_plain (document : String) :
    ∀ c ∈ (documentClass document).toList, IsPlain c := by
  intro c member
  rw [documentClass, String.toList_append] at member
  rcases List.mem_append.mp member with inName | inEnding
  · exact Text.upperCamel_plain document c inName
  · exact isPlain_of_all rfl c inEnding

end ApiShapes
