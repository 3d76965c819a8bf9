import ApiShapes.Proofs.Plan.Layout
import ApiShapes.Proofs.Text.Recasing

/-!
# The names of the classes of a plan

Every class of a plan carries the name of its document in front, so its name opens with letters and
digits before anything that a status can bring in.  Two things follow.  The name of a file never
leads anywhere by itself, and the absolute reference to a class, in which namespace and name are
written one behind the other with backslashes around them, cannot be read as a class of another
depth: main statement, in one plan equal references are references to the same class.

A nested class is named after the field of its key, which can be camel-cased already.  For an ASCII
key this is the name that the key itself gives.
-/

namespace ApiShapes

open Unicode

/-- The endings of the class names of a request and of a response without its status. -/
def rootEndings : List String := ["Request", "Response"]

/-- A name opens with at least ten characters that are no ASCII signs. -/
def OpensPlainly (name : String) : Prop :=
  ∃ opening rest, name.toList = opening ++ rest ∧
    10 ≤ opening.length ∧ ∀ c ∈ opening, IsPlain c

/-- The name of a document class and the kind of its part are ten plain characters at least. -/
theorem OpensPlainly.documentClass
    {document ending : String} (isRoot : ending ∈ rootEndings) (rest : String) :
    OpensPlainly (documentClass document ++ ending ++ rest) := by
  have endingLength : 7 ≤ ending.toList.length ∧ ∀ c ∈ ending.toList, IsPlain c := by
    have isEnding : ending = "Request" ∨ ending = "Response" := by
      simpa [rootEndings] using isRoot
    rcases isEnding with rfl | rfl
    · exact ⟨by decide, isPlain_of_all rfl⟩
    · exact ⟨by decide, isPlain_of_all rfl⟩
  refine ⟨(ApiShapes.documentClass document ++ ending).toList, rest.toList,
    String.toList_append, ?_, ?_⟩
  · have suffix : "Dto".toList.length = 3 := rfl
    rw [String.toList_append, List.length_append, ApiShapes.documentClass,
      String.toList_append, List.length_append, suffix]
    omega
  · intro c member
    rw [String.toList_append] at member
    rcases List.mem_append.mp member with inClass | inEnding
    · exact documentClass_plain document c inClass
    · exact endingLength.2 c inEnding

/-- A name that opens plainly has a first character, and a plain one. -/
theorem OpensPlainly.begins {name : String} (plain : OpensPlainly name) :
    ∃ first others, name.toList = first :: others ∧ IsPlain first := by
  rcases plain with ⟨opening, rest, split, long, allPlain⟩
  rcases opening with _ | ⟨first, others⟩
  · simp at long
  · exact ⟨first, others ++ rest, split, allPlain first List.mem_cons_self⟩

theorem OpensPlainly.not_slash {name : String} (plain : OpensPlainly name) :
    name.toList.head? ≠ some '/' := by
  rcases plain.begins with ⟨first, others, split, plainFirst⟩
  rw [split, List.head?_cons]
  intro isSlash
  rw [Option.some.inj isSlash] at plainFirst
  exact absurd plainFirst (by decide)

/-- A name that opens plainly does not go down into a namespace of nested classes. -/
theorem OpensPlainly.not_nested {name : String} (plain : OpensPlainly name) (rest : List Char) :
    name.toList ≠ "Nested".toList ++ '\\' :: rest := by
  rcases plain with ⟨opening, others, split, long, allPlain⟩
  intro nested
  have sevenPlain : ∀ c ∈ "Nested".toList ++ ['\\'], c ∈ opening := by
    have isBeginning : "Nested".toList ++ ['\\'] <+: opening := by
      refine List.prefix_of_prefix_length_le ?_ ⟨others, split.symm⟩ ?_
      · exact ⟨rest, by rw [nested, List.append_assoc, List.singleton_append]⟩
      · exact Nat.le_trans (by decide) long
    exact fun c member => isBeginning.subset member
  have plainBackslash := allPlain '\\' (sevenPlain '\\' (by decide))
  exact absurd plainBackslash (by decide)

namespace Plan

/-- The name of a part ends with its kind and, for a response, its status. -/
theorem ending_of_mem_ofDocument
    {node : Node} {place : List String} {ending : String} {fields : Fields}
    (member : .shape place ending fields ∈ Part.ofDocument node) :
    ∃ kind ∈ rootEndings, ∃ status, ending = kind ++ status := by
  rcases Part.shape_mem_ofDocument.mp member with
    ⟨_, _, _, isRequest, _⟩ | ⟨_, status, _, _, _, _, isResponse, _⟩
  · exact ⟨"Request", by decide, "", by rw [isRequest, String.append_empty]⟩
  · exact ⟨"Response", by decide, status, isResponse⟩

/-- All classes that a part makes carry the name of its document in front. -/
theorem partSteps_opensPlainly
    {document ns : String} {pointer : Pointer} {node : Node} {part : Part}
    (isPart : part ∈ Part.ofDocument node) :
    ∀ artifact ∈ emitted (partSteps document ns pointer part), OpensPlainly artifact.name := by
  intro artifact member
  cases part with
  | malformed place problem => simp [partSteps, emitted] at member
  | shape place ending fields =>
      rcases ending_of_mem_ofDocument isPart with ⟨kind, isRoot, status, rfl⟩
      have named : artifact.NamedAfter (documentClass document ++ (kind ++ status)) := by
        rw [partSteps, emitted_shapeSteps, List.mem_append, List.mem_singleton] at member
        rcases member with nested | rfl
        · exact (fieldSteps_layout fields _ _ artifact nested).2
        · exact ⟨"", String.append_empty.symm⟩
      rcases named with ⟨own, name_eq⟩
      rw [name_eq, ← String.append_assoc, String.append_assoc]
      exact .documentClass isRoot (status ++ own)

/-- All classes that a schema makes open their names plainly. -/
theorem schemaSteps_opensPlainly (schema : Schema) (ns : String) :
    ∀ artifact ∈ emitted (schemaSteps schema ns), OpensPlainly artifact.name := by
  intro artifact member
  simp only [emitted_schemaSteps, List.mem_flatMap] at member
  rcases member with ⟨⟨document, node⟩, -, part, isPart, inPart⟩
  exact partSteps_opensPlainly isPart artifact inPart

end Plan

/-! ## References -/

/-- The namespace that the file of a class declares. -/
def Artifact.declaredNs (artifact : Artifact) : String :=
  Text.trimStart '\\' artifact.ns

/-- The absolute reference to the class that the file of a class declares. -/
def Artifact.declaredReference (artifact : Artifact) : String :=
  "\\" ++ artifact.declaredNs ++ "\\" ++ artifact.name

/-- The reference that a file declares is the one that other files are given. -/
theorem Artifact.declaredReference_eq (artifact : Artifact) :
    artifact.declaredReference = classReference artifact.ns artifact.name := by
  rw [declaredReference, declaredNs, classReference]

/-- The segments that lead `depth` levels of nested classes down. -/
def nestedSegments (depth : Nat) : List Char :=
  (List.replicate depth "\\Nested".toList).flatten

theorem nestedSegments_succ (depth : Nat) :
    nestedSegments (depth + 1) = '\\' :: ("Nested".toList ++ nestedSegments depth) := by
  rw [nestedSegments, List.replicate_succ, List.flatten_cons]
  rfl

/-- A namespace further down has the segments of the further levels behind it. -/
theorem namespaceBelow_toList (ns : String) (depth more : Nat) :
    (namespaceBelow ns (depth + more)).toList =
      (namespaceBelow ns depth).toList ++ nestedSegments more := by
  induction more with
  | zero => simp [nestedSegments]
  | succ more ih =>
      rw [← Nat.add_assoc, namespaceBelow, String.toList_append, ih, List.append_assoc,
        nestedSegments, nestedSegments, List.replicate_succ', List.flatten_concat]

theorem nestedSegments_opens (depth : Nat) (rest : List Char) :
    ∃ tail, nestedSegments depth ++ '\\' :: rest = '\\' :: tail := by
  cases depth with
  | zero => exact ⟨rest, rfl⟩
  | succ depth =>
      rw [nestedSegments_succ]
      exact ⟨_, List.cons_append⟩

/--
A reference from one level of nesting never reads as a reference to a deeper level.  Where nothing
of a namespace of backslashes is left, the next segment has no backslash either.
-/
theorem declaredReference_ne_deeper
    {ns : String} {depth more : Nat} {upper deeper : Artifact}
    (upperNs : upper.ns = namespaceBelow ns depth)
    (deeperNs : deeper.ns = namespaceBelow ns (depth + (more + 1)))
    (plain : OpensPlainly upper.name) :
    upper.declaredReference ≠ deeper.declaredReference := by
  intro equal
  have equalChars := congrArg String.toList equal
  simp only [Artifact.declaredReference, Artifact.declaredNs, Text.trimStart, upperNs, deeperNs,
    String.toList_append, String.toList_ofList, namespaceBelow_toList, nestedSegments_succ,
    List.dropWhile_append] at equalChars
  generalize (namespaceBelow ns depth).toList.dropWhile (· = '\\') = trimmed at equalChars
  cases trimmed with
  | nil => simp at equalChars
  | cons first rest =>
      simp only [List.isEmpty_cons, Bool.false_eq_true, if_false, List.append_assoc,
        List.append_cancel_left_eq] at equalChars
      have backslash : "\\".toList = ['\\'] := rfl
      simp only [backslash, List.cons_append, List.nil_append, List.cons.injEq,
        true_and] at equalChars
      rcases nestedSegments_opens more deeper.name.toList with ⟨tail, opens⟩
      rw [List.append_assoc, opens] at equalChars
      exact plain.not_nested tail equalChars

/--
Equal references mean one class.  If one namespace were deeper, a segment of it would stand where
the name of the other class opens, and a name opens with no backslash.  This holds also below a
namespace of nothing but backslashes, of which no reference shows anything.
-/
theorem sameClass_of_declaredReference
    {ns : String} {left right : Artifact} {leftDepth rightDepth : Nat}
    (leftNs : left.ns = namespaceBelow ns leftDepth)
    (rightNs : right.ns = namespaceBelow ns rightDepth)
    (leftPlain : OpensPlainly left.name) (rightPlain : OpensPlainly right.name)
    (equal : left.declaredReference = right.declaredReference) :
    left.SameClass right := by
  rcases Nat.lt_trichotomy leftDepth rightDepth with less | rfl | greater
  · rcases Nat.exists_eq_add_of_lt less with ⟨more, rfl⟩
    exact absurd equal (declaredReference_ne_deeper leftNs rightNs leftPlain)
  · have sameNs : left.ns = right.ns := leftNs.trans rightNs.symm
    refine ⟨sameNs, ?_⟩
    simp only [Artifact.declaredReference, Artifact.declaredNs, sameNs] at equal
    exact (String.append_right_inj _).mp equal
  · rcases Nat.exists_eq_add_of_lt greater with ⟨more, rfl⟩
    exact absurd equal.symm (declaredReference_ne_deeper rightNs leftNs rightPlain)

/-! ## Names after keys -/

/-- An ASCII key may be camel-cased before the name of a class is made of it or not. -/
theorem Text.upperCamel_lowerCamel_fieldName
    {key : String} (ascii : ∀ c ∈ key.toList, IsAscii c) :
    upperCamel (lowerCamel (fieldName key)) = upperCamel (lowerCamel key) := by
  rw [fieldName]
  split
  · exact upperCamel_lowerCamel_lowerCamel ascii
  · rfl

namespace Plan

/--
A nested class has the name that its key gives.  The field name of an ASCII key, camel-cased or not,
gives the same class as the key, and the steps for what the key describes make the class of that
name, be it a shape or the element of a collection.
-/
theorem class_of_key
    (parent : String) {key : String} (ascii : ∀ c ∈ key.toList, IsAscii c) :
    nestedClass parent (fieldName key) = nestedClass parent key ∧
    (∀ (site : Site) (fields : Fields),
      contentSteps parent site key (.shape fields) =
        shapeSteps (parent ++ Text.upperCamel (Text.lowerCamel key)) (site.nested key) fields) ∧
    (∀ (site : Site) (fields : Fields),
      contentSteps parent site key (.collection fields) =
        shapeSteps (parent ++ Text.upperCamel (Text.lowerCamel key)) (site.element key) fields ++
          collectionSteps (parent ++ Text.upperCamel (Text.lowerCamel key))
            (site.element key)) := by
  have sameClass : nestedClass parent (fieldName key) = nestedClass parent key := by
    rw [nestedClass, nestedClass, Text.upperCamel_lowerCamel_fieldName ascii]
  refine ⟨sameClass, ?_, ?_⟩
  · intro site fields
    rw [contentSteps, sameClass]
    rfl
  · intro site fields
    rw [contentSteps, sameClass]
    rfl

set_option maxRecDepth 20000 in
/-- The field `xAB` of the key `x-a-b` is camel-cased to `xAb`, and so is the key. -/
theorem hyphenated_class_of_key :
    (∀ c ∈ "x-a-b".toList, IsAscii c) ∧ fieldName "x-a-b" = "xAB" ∧
      nestedClass "Order" "xAB" = nestedClass "Order" "x-a-b" ∧
      nestedClass "Order" "x-a-b" = "OrderXAb" := by
  have allAscii : "x-a-b".toList.all (fun c => decide (IsAscii c)) = true := by rfl
  have ascii : ∀ c ∈ "x-a-b".toList, IsAscii c := fun c member =>
    of_decide_eq_true (List.all_eq_true.mp allAscii c member)
  have isField : fieldName "x-a-b" = "xAB" := by rfl
  have sameClass := (class_of_key "Order" ascii).1
  rw [isField] at sameClass
  exact ⟨ascii, isField, sameClass, by rfl⟩

end Plan

end ApiShapes
