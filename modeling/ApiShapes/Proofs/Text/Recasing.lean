import ApiShapes.Proofs.Text.Ascii
import ApiShapes.Proofs.Text.CamelCase
import Mathlib.Data.List.Basic

/-!
# Camel case is read again word by word

Camel-casing a text twice need not give what it gives once: `x-a-b` becomes `xAB`, and that becomes
`xAb`, because capitals side by side are read as one word.  Yet the words stay where they are.  The
second text differs from the first in the case of letters that do not start a word, and lowering
such a letter neither removes the start of a word nor makes one.  Main statement, for ASCII texts:
the capitalized words of a camel-cased text are those of the text camel-cased once more.
-/

namespace ApiShapes

open Unicode

namespace Text

/--
A word starts at a character, in front of `rest`, when it is a capital and the last letter before it
in the word under way is a small one, or is a capital too while a small letter follows.
-/
def StartsWord (mode : CaseMode) (c : Char) (rest : List Char) : Prop :=
  c.isUpper = true ∧
    (mode = .lower ∨ mode = .upper ∧ rest.head?.any Char.isLower = true)

instance (mode : CaseMode) (c : Char) (rest : List Char) : Decidable (StartsWord mode c rest) :=
  inferInstanceAs (Decidable (_ ∧ _))

/-- The letter case in force after an ASCII character. -/
def CaseMode.behind (mode : CaseMode) (c : Char) : CaseMode :=
  if c.isLower then .lower
  else if c.isUpper then .upper
  else mode

/-- A piece cut in front of every character that starts a word; the first part ends a word. -/
def cutWords (mode : CaseMode) : List Char → List (List Char)
  | [] => [[]]
  | c :: rest =>
      if StartsWord mode c rest then [] :: consFirst c (cutWords .upper rest)
      else consFirst c (cutWords (mode.behind c) rest)

/-- A piece in which every letter that does not start a word is made small. -/
def lowerInside (mode : CaseMode) : List Char → List Char
  | [] => []
  | c :: rest =>
      if StartsWord mode c rest then c :: lowerInside .upper rest
      else c.toLower :: lowerInside (mode.behind c) rest

/-- A word in which every letter but the first is made small. -/
def lowerTail : List Char → List Char
  | [] => []
  | c :: rest => c :: rest.map Char.toLower

/-- Words of which the first is one under way, with the letters inside them made small. -/
def lowerWords : List (List Char) → List (List Char)
  | [] => []
  | first :: others => first.map Char.toLower :: others.map lowerTail

/-! ## Where words start -/

section Cutting

/-- A piece without characters still has one word, the empty one. -/
theorem cutWords_ne_nil (mode : CaseMode) (piece : List Char) : cutWords mode piece ≠ [] := by
  cases piece with
  | nil => simp [cutWords]
  | cons c rest =>
      rw [cutWords]
      split
      · simp
      · cases cutWords (mode.behind c) rest <;> simp [consFirst]

theorem flatten_consFirst {c : Char} {parts : List (List Char)} (nonempty : parts ≠ []) :
    (consFirst c parts).flatten = c :: parts.flatten := by
  cases parts with
  | nil => exact absurd rfl nonempty
  | cons part others => rfl

/-- Cutting a piece into words loses no character. -/
theorem flatten_cutWords (mode : CaseMode) (piece : List Char) :
    (cutWords mode piece).flatten = piece := by
  induction piece generalizing mode with
  | nil => rfl
  | cons c rest ih =>
      rw [cutWords]
      split
      · rw [List.flatten_cons, List.nil_append, flatten_consFirst (cutWords_ne_nil _ _), ih]
      · rw [flatten_consFirst (cutWords_ne_nil _ _), ih]

/-- Every word but the first starts with a capital. -/
theorem begins_of_mem_tail_cutWords
    {mode : CaseMode} {piece word : List Char} (member : word ∈ (cutWords mode piece).tail) :
    ∃ c rest, word = c :: rest ∧ c.isUpper = true := by
  induction piece generalizing mode with
  | nil => cases member
  | cons c rest ih =>
      rw [cutWords] at member
      split at member
      · rename_i starts
        cases later : cutWords .upper rest with
        | nil => exact absurd later (cutWords_ne_nil _ _)
        | cons first others =>
            rw [later, List.tail_cons, consFirst] at member
            rcases List.mem_cons.mp member with rfl | inOthers
            · exact ⟨c, first, rfl, starts.1⟩
            · exact @ih .upper (by rwa [later])
      · cases later : cutWords (mode.behind c) rest with
        | nil => exact absurd later (cutWords_ne_nil _ _)
        | cons first others =>
            rw [later, consFirst, List.tail_cons] at member
            exact @ih (mode.behind c) (by rwa [later])

end Cutting

/-! ## Lowering letters inside words -/

/-- The letter case in force where the letters inside words are made small. -/
inductive CaseMode.Lowered : CaseMode → CaseMode → Prop
  | same (mode : CaseMode) : Lowered mode mode
  | small : Lowered .upper .lower

section Ascii

variable {c : Char} (ascii : IsAscii c)

include ascii

theorem isUpper_toLower : c.toLower.isUpper = false :=
  ascii.forall (fun c => c.toLower.isUpper = false) (by decide)

theorem isLower_toLower : c.toLower.isLower = (c.isLower || c.isUpper) :=
  ascii.forall (fun c => c.toLower.isLower = (c.isLower || c.isUpper)) (by decide)

/-- An uppercase letter is its own uppercase. -/
theorem toUpper_of_isUpper : c.isUpper = true → c.toUpper = c :=
  ascii.forall (fun c => c.isUpper = true → c.toUpper = c) (by decide)

theorem isAlphanum_toLower : c.isAlphanum = true → c.toLower.isAlphanum = true :=
  ascii.forall (fun c => c.isAlphanum = true → c.toLower.isAlphanum = true) (by decide)

theorem isAlphanum_toUpper : c.isAlphanum = true → c.toUpper.isAlphanum = true :=
  ascii.forall (fun c => c.isAlphanum = true → c.toUpper.isAlphanum = true) (by decide)

/-- Whether a letter was put into lowercase before does not matter for its uppercase. -/
theorem toUpper_toLower : c.toLower.toUpper = c.toUpper :=
  ascii.forall (fun c => c.toLower.toUpper = c.toUpper) (by decide)

theorem toLower_toLower : c.toLower.toLower = c.toLower :=
  ascii.forall (fun c => c.toLower.toLower = c.toLower) (by decide)

theorem not_isLower_of_isUpper : c.isUpper = true → c.isLower = false :=
  ascii.forall (fun c => c.isUpper = true → c.isLower = false) (by decide)

theorem CaseMode.after_ascii (mode : CaseMode) : mode.after c = mode.behind c := by
  rw [after, behind, isLowercase_ascii ascii, isUppercase_ascii ascii]

/-- Behind an uppercase letter the mode is the same, whatever it was before. -/
theorem CaseMode.behind_of_isUpper (mode : CaseMode) (isUpper : c.isUpper = true) :
    mode.behind c = .upper := by
  rw [behind, not_isLower_of_isUpper ascii isUpper, isUpper]
  rfl

/-- No word starts at a letter that has been put into lowercase. -/
theorem not_startsWord_toLower (mode : CaseMode) (rest : List Char) :
    ¬ StartsWord mode c.toLower rest := by
  intro starts
  rw [StartsWord, isUpper_toLower ascii] at starts
  exact Bool.false_ne_true starts.1

/-- Going on by a letter and by its lowercase keeps the two modes in step. -/
theorem CaseMode.Lowered.behind
    {mode lowered : CaseMode} (isLowered : mode.Lowered lowered) :
    (mode.behind c).Lowered (lowered.behind c.toLower) := by
  rw [CaseMode.behind, CaseMode.behind, isLower_toLower ascii, isUpper_toLower ascii]
  cases small : c.isLower with
  | true => exact .same .lower
  | false =>
      cases capital : c.isUpper with
      | true => exact .small
      | false => exact isLowered

end Ascii

theorem CaseMode.behind_of_isLower (mode : CaseMode) {c : Char} (isLower : c.isLower = true) :
    mode.behind c = .lower := by
  rw [behind, if_pos isLower]

/-- A small letter stays in place when the letters inside words are made small. -/
theorem head?_lowerInside
    {mode : CaseMode} {piece : List Char} (ascii : ∀ c ∈ piece, IsAscii c)
    (small : piece.head?.any Char.isLower = true) :
    (lowerInside mode piece).head?.any Char.isLower = true := by
  cases piece with
  | nil => cases small
  | cons c rest =>
      have isSmall : c.isLower = true := small
      have asciiHead := ascii c List.mem_cons_self
      rw [lowerInside]
      split
      · exact isSmall
      · rw [List.head?_cons, Option.any_some, isLower_toLower asciiHead, isSmall, Bool.true_or]

/-- A letter that joins the first word is put into lowercase there. -/
theorem lowerWords_consFirst
    {c : Char} {parts : List (List Char)} (nonempty : parts ≠ []) :
    lowerWords (consFirst c parts) = consFirst c.toLower (lowerWords parts) := by
  cases parts with
  | nil => exact absurd rfl nonempty
  | cons part others => rfl

/-- A letter that starts a word keeps its case. -/
theorem lowerWords_startWord
    {c : Char} {parts : List (List Char)} (nonempty : parts ≠ []) :
    lowerWords ([] :: consFirst c parts) = [] :: consFirst c (lowerWords parts) := by
  cases parts with
  | nil => exact absurd rfl nonempty
  | cons part others => rfl

/--
Making the letters inside words small leaves the words in their places.  Where a capital was the
last letter before, a small letter may be now, and a word starts at the next capital all the same.
-/
theorem cutWords_lowerInside
    {piece : List Char} (ascii : ∀ c ∈ piece, IsAscii c)
    {mode lowered : CaseMode} (isLowered : mode.Lowered lowered) :
    cutWords lowered (lowerInside mode piece) = lowerWords (cutWords mode piece) := by
  induction piece generalizing mode lowered with
  | nil => rfl
  | cons c rest ih =>
      have asciiHead := ascii c List.mem_cons_self
      have asciiRest : ∀ d ∈ rest, IsAscii d := fun d member =>
        ascii d (List.mem_cons_of_mem c member)
      rw [lowerInside, cutWords]
      by_cases starts : StartsWord mode c rest
      · have startsLowered : StartsWord lowered c (lowerInside .upper rest) := by
          refine ⟨starts.1, ?_⟩
          cases isLowered with
          | small => exact .inl rfl
          | same =>
              rcases starts.2 with isLower | ⟨isUpper, follows⟩
              · exact .inl isLower
              · exact .inr ⟨isUpper, head?_lowerInside asciiRest follows⟩
        rw [if_pos starts, if_pos starts, cutWords, if_pos startsLowered,
          ih asciiRest (.same .upper), lowerWords_startWord (cutWords_ne_nil _ _)]
      · rw [if_neg starts, if_neg starts, cutWords, if_neg (not_startsWord_toLower asciiHead _ _),
          ih asciiRest (isLowered.behind asciiHead), lowerWords_consFirst (cutWords_ne_nil _ _)]

/--
The words of a piece are those that it is cut into.  In lowercase a word ends before the next
capital, so no capital is met in that mode.
-/
theorem wordsOfPiece_eq_cutWords
    {mode : CaseMode} {c : Char} {rest : List Char} (ascii : ∀ d ∈ c :: rest, IsAscii d)
    (goesOn : mode = .lower → c.isUpper = false) :
    wordsOfPiece mode (c :: rest) = cutWords mode (c :: rest) := by
  induction rest generalizing c mode with
  | nil =>
      have notStart : ¬ StartsWord mode c [] := by
        rintro ⟨isUpper, isLower | ⟨-, follows⟩⟩
        · exact Bool.false_ne_true ((goesOn isLower).symm.trans isUpper)
        · cases follows
      rw [wordsOfPiece, cutWords, if_neg notStart]
      rfl
  | cons next rest ih =>
      have asciiHead := ascii c List.mem_cons_self
      have asciiTail : ∀ d ∈ next :: rest, IsAscii d :=
        fun d member => ascii d (List.mem_cons_of_mem c member)
      have asciiNext := asciiTail next List.mem_cons_self
      have fresh : wordsOfPiece .none (next :: rest) =
          consFirst next (cutWords (CaseMode.none.behind next) rest) := by
        have notStart : ¬ StartsWord .none next rest := by
          rintro ⟨-, isLower | ⟨isUpper, -⟩⟩ <;> contradiction
        rw [@ih .none next asciiTail (fun isLower => nomatch isLower), cutWords, if_neg notStart]
      rw [wordsOfPiece, CaseMode.after_ascii asciiHead, isUppercase_ascii asciiHead,
        isUppercase_ascii asciiNext, isLowercase_ascii asciiNext, cutWords]
      split
      · rename_i endsBehind
        have notStart : ¬ StartsWord mode c (next :: rest) := by
          intro starts
          have isUpper := CaseMode.behind_of_isUpper asciiHead mode starts.1
          rw [endsBehind.1] at isUpper
          cases isUpper
        have nextStarts : StartsWord .lower next rest := ⟨endsBehind.2, .inl rfl⟩
        rw [if_neg notStart, endsBehind.1, cutWords, if_pos nextStarts, fresh,
          CaseMode.behind_of_isUpper asciiNext _ endsBehind.2, consFirst]
      · rename_i notBehind
        split
        · rename_i endsBefore
          rcases endsBefore with ⟨rfl, isUpper, nextSmall⟩
          have starts : StartsWord .upper c (next :: rest) := ⟨isUpper, .inr ⟨rfl, nextSmall⟩⟩
          have nextNotStart : ¬ StartsWord .upper next rest := by
            intro nextStarts
            rw [not_isLower_of_isUpper asciiNext nextStarts.1] at nextSmall
            exact Bool.false_ne_true nextSmall
          rw [if_pos starts, cutWords, if_neg nextNotStart, fresh,
            CaseMode.behind_of_isLower _ nextSmall, CaseMode.behind_of_isLower _ nextSmall]
        · rename_i notBefore
          have notStart : ¬ StartsWord mode c (next :: rest) := by
            rintro ⟨isUpper, isLower | ⟨isCapital, nextSmall⟩⟩
            · exact Bool.false_ne_true ((goesOn isLower).symm.trans isUpper)
            · exact notBefore ⟨isCapital, isUpper, nextSmall⟩
          have nextGoesOn : mode.behind c = .lower → next.isUpper = false := by
            intro isLower
            exact Bool.eq_false_iff.mpr fun isUpper => notBehind ⟨isLower, isUpper⟩
          rw [if_neg notStart, ih asciiTail nextGoesOn]

/-! ## Words in camel case -/

theorem isAscii_of_isAlphanum {c : Char} (alphanumeric : c.isAlphanum = true) : IsAscii c := by
  have ranges : c.isAlphanum =
      (decide ('A'.val ≤ c.val ∧ c.val ≤ 'Z'.val) ||
        decide ('a'.val ≤ c.val) && decide (c.val ≤ 'z'.val) ||
          decide ('0'.val ≤ c.val) && decide (c.val ≤ '9'.val)) := rfl
  simp only [ranges, Bool.or_eq_true, Bool.and_eq_true, decide_eq_true_eq,
    UInt32.le_iff_toNat_le] at alphanumeric
  change c.val.toNat < 128
  have bounds : 'Z'.val.toNat < 128 ∧ 'z'.val.toNat < 128 ∧ '9'.val.toNat < 128 := by decide
  omega

/-- A word with its first letter made a capital and the others made small. -/
def capitalized : List Char → List Char
  | [] => []
  | c :: rest => c.toUpper :: rest.map Char.toLower

/-- In an ASCII word every character is put into lowercase for itself. -/
theorem lowercaseWord_ascii {word : List Char} (ascii : ∀ c ∈ word, IsAscii c) :
    lowercaseWord word = word.map Char.toLower := by
  fun_induction lowercaseWord word with
  | case1 => rfl
  | case2 =>
      have isAscii : 'Σ'.toNat < 128 := ascii 'Σ' List.mem_cons_self
      exact absurd isAscii (by decide)
  | case3 c _ => exact toLowercase_ascii (ascii c List.mem_cons_self)
  | case4 c rest _ ih =>
      rcases List.forall_mem_cons.mp ascii with ⟨asciiHead, asciiRest⟩
      rw [toLowercase_ascii asciiHead, ih asciiRest]
      rfl

/-- In an ASCII word the first character is put into uppercase and the others into lowercase. -/
theorem capitalizeWord_ascii {word : List Char} (ascii : ∀ c ∈ word, IsAscii c) :
    capitalizeWord word = capitalized word := by
  cases word with
  | nil => rfl
  | cons c rest =>
      rcases List.forall_mem_cons.mp ascii with ⟨asciiHead, asciiRest⟩
      rw [capitalizeWord, toUppercase_ascii asciiHead, lowercaseWord_ascii asciiRest]
      rfl

theorem flatMap_capitalizeWord_ascii
    {parts : List (List Char)} (ascii : ∀ c ∈ parts.flatten, IsAscii c) :
    parts.flatMap capitalizeWord = parts.flatMap capitalized := by
  refine List.flatMap_congr fun word member => capitalizeWord_ascii fun c inWord => ?_
  exact ascii c (List.mem_flatten_of_mem member inWord)

/-- Making letters small inside words makes no difference once the words are capitalized. -/
theorem flatMap_capitalized_lowerWords
    {parts : List (List Char)} (ascii : ∀ c ∈ parts.flatten, IsAscii c) :
    (lowerWords parts).flatMap capitalized = parts.flatMap capitalized := by
  have smallTwice {rest : List Char} (asciiRest : ∀ c ∈ rest, IsAscii c) :
      (rest.map Char.toLower).map Char.toLower = rest.map Char.toLower := by
    rw [List.map_map]
    exact List.map_congr_left fun c member => toLower_toLower (asciiRest c member)
  have lowered {word : List Char} (asciiWord : ∀ c ∈ word, IsAscii c) :
      capitalized (word.map Char.toLower) = capitalized word ∧
        capitalized (lowerTail word) = capitalized word := by
    cases word with
    | nil => exact ⟨rfl, rfl⟩
    | cons c rest =>
        rcases List.forall_mem_cons.mp asciiWord with ⟨asciiHead, asciiRest⟩
        simp only [List.map_cons, lowerTail, capitalized, toUpper_toLower asciiHead,
          smallTwice asciiRest, and_self]
  cases parts with
  | nil => rfl
  | cons first others =>
      rw [List.flatten_cons, List.forall_mem_append] at ascii
      rw [lowerWords, List.flatMap_cons, List.flatMap_cons, (lowered ascii.1).1, List.flatMap_map]
      refine congrArg _ (List.flatMap_congr fun word member => (lowered fun c inWord => ?_).2)
      exact ascii.2 c (List.mem_flatten_of_mem member inWord)

section Piece

variable {piece : List Char} (alphanumeric : ∀ c ∈ piece, c.isAlphanum = true)

include alphanumeric

theorem ascii_of_alphanumeric : ∀ c ∈ piece, IsAscii c :=
  fun c member => isAscii_of_isAlphanum (alphanumeric c member)

/-- A text of letters and digits is a single piece. -/
theorem words_of_alphanumeric (nonempty : piece ≠ []) :
    words piece = cutWords .none piece := by
  have noSeparator : ∀ c ∈ piece, (!isAlphanumeric c) = false := by
    intro c member
    rw [isAlphanumeric_ascii (isAscii_of_isAlphanum (alphanumeric c member)),
      alphanumeric c member, Bool.not_true]
  rw [words, splitAtEach_eq_singleton noSeparator, List.flatMap_singleton]
  cases piece with
  | nil => exact absurd rfl nonempty
  | cons c rest =>
      exact wordsOfPiece_eq_cutWords (ascii_of_alphanumeric alphanumeric)
        (fun isLower => nomatch isLower)

/-- The camel case of letters and digits is that of the words they are cut into. -/
theorem upperCamel_of_alphanumeric :
    upperCamel (.ofList piece) = .ofList ((cutWords .none piece).flatMap capitalized) := by
  rw [upperCamel, String.toList_ofList]
  by_cases nonempty : piece = []
  · subst nonempty
    rfl
  · rw [words_of_alphanumeric alphanumeric nonempty, flatMap_capitalizeWord_ascii]
    rw [flatten_cutWords]
    exact ascii_of_alphanumeric alphanumeric

/-- Camel-casing letters and digits makes small the letters that do not start a word. -/
theorem lowerCamel_of_alphanumeric :
    lowerCamel (.ofList piece) = .ofList (lowerInside .none piece) := by
  by_cases nonempty : piece = []
  · subst nonempty
    rfl
  · have ascii := ascii_of_alphanumeric alphanumeric
    have recased := flatten_cutWords .none (lowerInside .none piece)
    rw [cutWords_lowerInside ascii (.same .none)] at recased
    have begins {word : List Char} := @begins_of_mem_tail_cutWords .none piece word
    rw [lowerCamel, String.toList_ofList, words_of_alphanumeric alphanumeric nonempty]
    rw [← flatten_cutWords .none piece] at ascii
    cases parts : cutWords .none piece with
    | nil => exact absurd parts (cutWords_ne_nil _ _)
    | cons first others =>
        rw [parts] at recased ascii begins
        rw [List.flatten_cons, List.forall_mem_append] at ascii
        have capitals : ∀ word ∈ others, capitalized word = lowerTail word := by
          intro word member
          rcases begins member with ⟨c, rest, rfl, isUpper⟩
          have asciiHead := ascii.2 c (List.mem_flatten_of_mem member List.mem_cons_self)
          rw [capitalized, lowerTail, toUpper_of_isUpper asciiHead isUpper]
        calc String.ofList (lowercaseWord first ++ others.flatMap capitalizeWord)
            _ = .ofList (first.map Char.toLower ++ others.flatMap lowerTail) := by
              rw [lowercaseWord_ascii ascii.1, flatMap_capitalizeWord_ascii ascii.2,
                List.flatMap_congr capitals]
            _ = .ofList (lowerInside .none piece) := by
              rw [← recased, lowerWords, List.flatten_cons, List.flatMap_def]

/-- Letters and digits remain letters and digits. -/
theorem alphanumeric_lowerInside (mode : CaseMode) :
    ∀ c ∈ lowerInside mode piece, c.isAlphanum = true := by
  induction piece generalizing mode with
  | nil => exact fun _ member => absurd member List.not_mem_nil
  | cons c rest ih =>
      rcases List.forall_mem_cons.mp alphanumeric with ⟨head, others⟩
      rw [lowerInside]
      split
      · exact List.forall_mem_cons.mpr ⟨head, ih others _⟩
      · exact List.forall_mem_cons.mpr
          ⟨isAlphanum_toLower (isAscii_of_isAlphanum head) head, ih others _⟩

/-- A text of letters and digits has the same capitalized words after it is camel-cased. -/
theorem upperCamel_lowerCamel :
    upperCamel (lowerCamel (.ofList piece)) = upperCamel (.ofList piece) := by
  have ascii := ascii_of_alphanumeric alphanumeric
  have asciiWords : ∀ c ∈ (cutWords .none piece).flatten, IsAscii c := by
    rwa [flatten_cutWords]
  rw [lowerCamel_of_alphanumeric alphanumeric,
    upperCamel_of_alphanumeric (alphanumeric_lowerInside alphanumeric .none),
    cutWords_lowerInside ascii (.same .none), flatMap_capitalized_lowerWords asciiWords,
    upperCamel_of_alphanumeric alphanumeric]

end Piece

/-- Camel-casing an ASCII text leaves letters and digits. -/
theorem lowerCamel_alphanumeric {text : String} (ascii : ∀ c ∈ text.toList, IsAscii c) :
    ∀ c ∈ (lowerCamel text).toList, c.isAlphanum = true := by
  have ofWord {word : List Char} (member : word ∈ words text.toList) :
      ∀ c ∈ word, c.isAlphanum = true := by
    intro c inWord
    rcases List.mem_flatMap.mp member with ⟨piece, isPiece, isWord⟩
    have inText := subset_of_mem_splitAtEach isPiece (mem_wordsOfPiece isWord c inWord)
    exact words_plain member c inWord (ascii c inText)
  have small {word : List Char} (alphanumeric : ∀ c ∈ word, c.isAlphanum = true) :
      ∀ c ∈ word.map Char.toLower, c.isAlphanum = true := by
    intro c member
    rcases List.mem_map.mp member with ⟨d, inWord, rfl⟩
    exact isAlphanum_toLower (isAscii_of_isAlphanum (alphanumeric d inWord)) (alphanumeric d inWord)
  rw [lowerCamel]
  split
  · exact fun _ member => absurd member List.not_mem_nil
  · rename_i first others isWords
    rw [isWords] at ofWord
    rw [String.toList_ofList, List.forall_mem_append]
    constructor
    · have alphanumeric := @ofWord first List.mem_cons_self
      rw [lowercaseWord_ascii (ascii_of_alphanumeric alphanumeric)]
      exact small alphanumeric
    · intro c member
      rcases List.mem_flatMap.mp member with ⟨word, isOther, inWord⟩
      have alphanumeric := @ofWord word (List.mem_cons_of_mem first isOther)
      rw [capitalizeWord_ascii (ascii_of_alphanumeric alphanumeric)] at inWord
      cases word with
      | nil => cases inWord
      | cons d rest =>
          rcases List.forall_mem_cons.mp alphanumeric with ⟨head, tail⟩
          rcases List.mem_cons.mp inWord with rfl | inTail
          · exact isAlphanum_toUpper (isAscii_of_isAlphanum head) head
          · exact small tail c inTail

/-- An ASCII text that is camel-cased twice has the capitalized words of one camel-cased once. -/
theorem upperCamel_lowerCamel_lowerCamel
    {text : String} (ascii : ∀ c ∈ text.toList, IsAscii c) :
    upperCamel (lowerCamel (lowerCamel text)) = upperCamel (lowerCamel text) := by
  have recased := upperCamel_lowerCamel (lowerCamel_alphanumeric ascii)
  rwa [String.ofList_toList] at recased

end Text

end ApiShapes
