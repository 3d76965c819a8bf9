import ApiShapes.Proofs.Php.CollectionFile
import ApiShapes.Proofs.Plan.Files
import ApiShapes.Proofs.Text.Trim

/-!
# The elements that collections pass on

The file of a collection has the reference to its element between quotes, as the element is written
elsewhere.  A reference consists of the namespace and of a class name with single backslashes around
them, and a class name is plain except for a status.  So what can go wrong is in the root namespace
or in a status: a quote, a run of backslashes, or a backslash at the end.  Main statement: a
collection of a plan passes on its element exactly if the root namespace, without the backslashes in
front of it, and the name of the collected shape stand for themselves between quotes; and this is so
if the namespace and all statuses do.
-/

namespace ApiShapes

open Unicode

namespace Php

/-- Plain characters stand for themselves between quotes. -/
theorem Verbatim.of_plain {text : String} (plain : ∀ c ∈ text.toList, IsPlain c) :
    Verbatim text.toList := by
  apply Verbatim.of_no_sign
  · intro hasQuote
    exact absurd (plain '\x27' hasQuote) (by decide)
  · intro hasBackslash
    exact absurd (plain '\\' hasBackslash) (by decide)

/-- Going down into the namespaces of nested classes brings in single backslashes only. -/
theorem verbatim_namespaceBelow_iff (ns : String) (depth : Nat) :
    Verbatim (Text.trimStart '\\' (namespaceBelow ns depth)).toList ↔
      Verbatim (Text.trimStart '\\' ns).toList := by
  induction depth with
  | zero => rfl
  | succ depth ih =>
      have nested : Verbatim ('\\' :: "Nested".toList) ∧ Verbatim "Nested".toList := by decide
      rw [← ih, namespaceBelow, Text.trimStart, Text.trimStart, String.toList_ofList,
        String.toList_ofList, String.toList_append, List.dropWhile_append]
      cases (namespaceBelow ns depth).toList.dropWhile (· = '\\') with
      | nil => exact iff_of_true nested.2 .nil
      | cons first others => exact Verbatim.append_backslash_iff.trans (and_iff_left nested.1)

/-- A nested namespace shows at least its own segment. -/
theorem shown_nested_ne_nil (ns : String) (depth : Nat) :
    (Text.trimStart '\\' (namespaceBelow ns (depth + 1))).toList ≠ [] := by
  have inNested : 'N' ∈ (namespaceBelow ns (depth + 1)).toList := by
    rw [namespaceBelow, String.toList_append]
    exact List.mem_append_right _ (by decide)
  exact Text.trimStart_ne_nil_iff.mpr ⟨'N', inNested, by decide⟩

/-- A reference stands for itself exactly if the shown namespace and the class name do. -/
theorem verbatim_classReference_iff
    {ns name : String} (shown : (Text.trimStart '\\' ns).toList ≠ [])
    (opensPlainly : OpensPlainly name) :
    Verbatim (classReference ns name).toList ↔
      Verbatim (Text.trimStart '\\' ns).toList ∧ Verbatim name.toList := by
  have text : (classReference ns name).toList =
      '\\' :: ((Text.trimStart '\\' ns).toList ++ '\\' :: name.toList) := by
    rw [classReference]
    simp
  have behindFirst : Verbatim (classReference ns name).toList ↔
      Verbatim ((Text.trimStart '\\' ns).toList ++ '\\' :: name.toList) := by
    rw [text, Verbatim.backslash_cons_iff, List.head?_append_of_ne_nil _ shown]
    simp [Text.head?_trimStart_ne]
  have behindSecond : Verbatim ('\\' :: name.toList) ↔ Verbatim name.toList := by
    rcases opensPlainly.begins with ⟨first, others, isName, plainFirst⟩
    have notBackslash : first ≠ '\\' := by
      rintro rfl
      exact absurd plainFirst (by decide)
    rw [Verbatim.backslash_cons_iff, isName]
    simp [notBackslash]
  rw [behindFirst, Verbatim.append_backslash_iff, behindSecond]

end Php

namespace Plan

variable {schema : Schema} {ns : String} {classes : List Artifact}

/--
No collection lies in the root namespace, where the shapes of requests and responses are alone.
-/
theorem collection_lies_deeper
    {collection : Collection} (member : .collection collection ∈ emitted (schemaSteps schema ns)) :
    ∃ depth, collection.ns = namespaceBelow ns (depth + 1) := by
  rcases schemaSteps_layout schema ns _ member with ⟨depth, below⟩
  cases depth with
  | succ depth => exact ⟨depth, below.ns_eq⟩
  | zero =>
      have inRoot : .collection collection ∈ rootShapes schema ns := by
        rw [← schemaSteps_rootShapes, List.mem_filter]
        exact ⟨member, decide_eq_true below.ns_eq⟩
      simp only [rootShapes, List.mem_flatMap] at inRoot
      rcases inRoot with ⟨_, -, part, -, isShape⟩
      cases part <;> simp [partShape?, shapeArtifact] at isShape

/-- In a plan every collection has the shape that it collects. -/
theorem collected_shape
    (success : ofSchema schema ns = .ok classes)
    {collection : Collection} (member : .collection collection ∈ classes) :
    ∃ shape, .shape shape ∈ classes ∧ collection.Collects shape := by
  rw [ofSchema_emitted success] at member ⊢
  exact (schemaSteps_collectionsFollow schema ns).exists_collected member

/-- If all statuses stand for themselves between quotes, so do the names of all shapes. -/
theorem verbatim_name
    (success : ofSchema schema ns = .ok classes)
    (verbatim : ∀ status ∈ schema.statuses, Php.Verbatim status.toList)
    {shape : Shape} (member : .shape shape ∈ classes) : Php.Verbatim shape.name.toList := by
  rw [ofSchema_emitted success] at member
  rcases schemaSteps_described member with ⟨entries, describes⟩
  rcases describes.plainAround with
    ⟨before, status, after, isName, plainBefore, plainAfter, isStatus⟩
  have ofStatus : Php.Verbatim status.toList := by
    rcases isStatus with rfl | isStatus
    · exact .nil
    · exact verbatim status isStatus
  rw [isName, String.toList_append, String.toList_append]
  exact ((Php.Verbatim.of_plain plainBefore).append ofStatus).append (.of_plain plainAfter)

/--
A collection passes on its element if the root namespace and the name of the shape stand for
themselves between quotes.
-/
theorem passesElement_iff_verbatim
    (success : ofSchema schema ns = .ok classes)
    {collection : Collection} (member : .collection collection ∈ classes)
    {shape : Shape} (isShape : .shape shape ∈ classes) (collects : collection.Collects shape)
    (baseClass : String) :
    Php.PassesElement collection baseClass ↔
      Php.Verbatim (Text.trimStart '\\' ns).toList ∧ Php.Verbatim shape.name.toList := by
  rw [ofSchema_emitted success] at member isShape
  rcases collection_lies_deeper member with ⟨depth, collectionNs⟩
  have shapeNs : shape.ns = namespaceBelow ns (depth + 1) :=
    collects.ns_eq.symm.trans collectionNs
  have opensPlainly : OpensPlainly shape.name :=
    schemaSteps_opensPlainly schema ns (.shape shape) isShape
  rw [Php.passesElement_iff, collects.element_eq, shapeNs,
    Php.verbatim_classReference_iff (Php.shown_nested_ne_nil ns depth) opensPlainly,
    Php.verbatim_namespaceBelow_iff]

/--
Every collection of a plan collects a shape, and its file passes on the reference to that shape
exactly if the namespace that is shown and the name of the shape stand for themselves between
quotes.  Names do if all statuses do.
-/
theorem elements_passed_iff (success : ofSchema schema ns = .ok classes) :
    (∀ collection, .collection collection ∈ classes →
      ∃ shape, .shape shape ∈ classes ∧ collection.Collects shape ∧
        ∀ baseClass, Php.PassesElement collection baseClass ↔
          Php.Verbatim (Text.trimStart '\\' ns).toList ∧ Php.Verbatim shape.name.toList) ∧
    (Php.Verbatim (Text.trimStart '\\' ns).toList →
      (∀ status ∈ schema.statuses, Php.Verbatim status.toList) →
        ∀ collection, .collection collection ∈ classes →
          ∀ baseClass, Php.PassesElement collection baseClass) := by
  constructor
  · intro collection member
    rcases collected_shape success member with ⟨shape, isShape, collects⟩
    exact ⟨shape, isShape, collects, passesElement_iff_verbatim success member isShape collects⟩
  · intro ofNs ofStatuses collection member baseClass
    rcases collected_shape success member with ⟨shape, isShape, collects⟩
    rw [passesElement_iff_verbatim success member isShape collects]
    exact ⟨ofNs, verbatim_name success ofStatuses isShape⟩

/-- A schema of two responses with a list in each, one of them for a status with a backslash. -/
def deliveredSchema : Schema :=
  ⟨none,
    [("order", .map [("response",
      .map [("200", .map [("items", .list [.map []])]),
        ("4\\xx", .map [("items", .list [.map []])])])])]⟩

/-- The collection that is planned for the second response of `deliveredSchema`. -/
def deliveredCollection : Collection :=
  ⟨"OrderDtoResponse4\\xxItemsCollection", "\\App\\Nested\\OrderDtoResponse4\\xxItems",
    "App\\Nested", ⟨"Nested"⟩⟩

set_option maxRecDepth 20000 in
theorem order_element_passed :
    deliveredSchema.statuses = ["200", "4\\xx"] ∧
      ∃ classes, ofSchema deliveredSchema "App" = .ok classes ∧
        .collection deliveredCollection ∈ classes ∧
        ∀ collection, .collection collection ∈ classes →
          ∀ baseClass, Php.PassesElement collection baseClass := by
  have success : ofSchema deliveredSchema "App" =
      .ok (emitted (schemaSteps deliveredSchema "App")) := by
    rfl
  refine ⟨by rfl, _, success, by decide, ?_⟩
  exact (elements_passed_iff success).2 (by decide) (by decide)

/-- A schema of one response with a list in it, for a status with a quote. -/
def quotingSchema : Schema :=
  ⟨none, [("order", .map [("response", .map [("2\x270", .map [("items", .list [.map []])])])])]⟩

/-- The collection that is planned for `quotingSchema` in the namespace `App`. -/
def quotingCollection : Collection :=
  ⟨"OrderDtoResponse2\x270ItemsCollection", "\\App\\Nested\\OrderDtoResponse2\x270Items",
    "App\\Nested", ⟨"Nested"⟩⟩

set_option maxRecDepth 20000 in
/-- A quote in a status ends the text of the element too early. -/
theorem quote_in_status_ends_element :
    ∃ classes, ofSchema quotingSchema "App" = .ok classes ∧
      .collection quotingCollection ∈ classes ∧
      ∀ baseClass, ¬ Php.PassesElement quotingCollection baseClass := by
  refine ⟨emitted (schemaSteps quotingSchema "App"), by rfl, by decide, fun baseClass => ?_⟩
  rw [Php.passesElement_iff]
  decide

end Plan

end ApiShapes
