import ApiShapes.Proofs.Plan.References
import Mathlib.Data.List.Nodup
import Mathlib.Data.List.Perm.Basic

/-!
# No dead and no shared nested class

A class is nested because a field of another class, or a collection beside it, needs it, and the
reference to it is the only trace of that in what is generated.  A reference could get lost, when
two keys of one map come to the same field, and a type that is spelled out could look like one; a
schema without either is plain.  In the plan of a plain schema the references that its classes make
are, up to their order, the references to its nested classes, each of them once.  Main statement:
every nested class is used exactly once, a shape that a collection wraps by that collection, and
any other class by one property of one shape, which lies one level above it.
-/

namespace ApiShapes

/-- A text that refers to a class opens with a backslash. -/
def IsReference (text : String) : Prop :=
  text.toList.head? = some '\\'
  deriving Decidable

/-- A reference to a class looks like one. -/
theorem isReference_classReference (ns className : String) :
    IsReference (classReference ns className) := by
  rw [IsReference, classReference, String.toList_append, String.toList_append,
    String.toList_append]
  rfl

theorem Artifact.isReference_declaredReference (artifact : Artifact) :
    IsReference artifact.declaredReference := by
  rw [declaredReference_eq]
  exact isReference_classReference _ _

/-- A type that is inferred from a value is no reference. -/
theorem not_isReference_inferredType (node : Node) :
    ¬ IsReference (Content.inferredType node) := by
  unfold Content.inferredType
  split <;> decide

/--
In no map that describes a shape two keys come to the same field, and no type that is spelled out in
such a map looks like a reference.
-/
structure Schema.Plain (schema : Schema) (root : String) : Prop where
  fieldsDiffer : ∀ {ns name : String} {entries : Entries},
    Describes schema root ns name entries → (entries.map fun entry => fieldName entry.1).Nodup
  typesPlain : ∀ {ns name key type : String} {entries inner : Entries},
    Describes schema root ns name entries → (key, .map inner) ∈ entries →
      (Node.map inner).present? "type" = some (.string type) → ¬ IsReference type

/-- The fields of a plain schema have different names in every shape. -/
theorem Schema.Plain.differ_ofEntries
    {schema : Schema} {root ns name : String} {entries : Entries} (plain : schema.Plain root)
    (described : Describes schema root ns name entries) :
    ((Content.ofEntries entries).map fun field => fieldName field.1).Nodup := by
  rw [Content.ofEntries_eq_map, List.map_map]
  exact plain.fieldsDiffer described

/-- A field of a plain schema that holds no fields itself refers to nothing. -/
theorem Schema.Plain.not_isReference
    {schema : Schema} {root ns name key type : String} {entries : Entries}
    {default : Option Literal} {required : Option Bool} (plain : schema.Plain root)
    (described : Describes schema root ns name entries)
    (isField : (key, .value type default required) ∈ Content.ofEntries entries) :
    ¬ IsReference type := by
  rcases Content.mem_ofEntries.mp isField with ⟨node, isEntry, reading⟩
  rcases Content.type_of_ofNode reading with rfl | ⟨inner, rfl, spelled⟩
  · exact not_isReference_inferredType node
  · exact plain.typesPlain described isEntry spelled

namespace Artifact

/-- The types of the properties of a class.  A collection class has no properties. -/
def propertyTypes : Artifact → List String
  | shape s => s.properties.map (·.type)
  | collection _ => []

/-- What a class collects: nothing, or the element of a collection class. -/
def elements : Artifact → List String
  | shape _ => []
  | collection c => [c.element]

/-- The references that a class makes, to the classes of its properties or to its element. -/
def references (artifact : Artifact) : List String :=
  (artifact.propertyTypes ++ artifact.elements).filter (IsReference ·)

end Artifact

/-- A collection class wraps a shape if it lies beside it and has the collection name for it. -/
def Collection.Wraps (collection : Collection) (shape : Shape) : Prop :=
  collection.ns = shape.ns ∧ collection.name = collectionClass shape.name

namespace Plan

variable {schema : Schema} {ns : String} {classes : List Artifact}

/-! ## The references that classes make -/

/-- The references that the properties of fields make. -/
def fieldReferences (parent ns : String) (fields : Fields) : List String :=
  ((fields.filterMap fun (key, content) => property? parent ns key content).map (·.type)).filter
    (IsReference ·)

/-- A shape refers to what its fields refer to. -/
theorem references_shapeArtifact
    (name : String) (site : Site) {fields : Fields}
    (fieldsDiffer : (fields.map fun field => fieldName field.1).Nodup) :
    (shapeArtifact name site fields).references = fieldReferences name site.ns fields := by
  rw [Artifact.references, shapeArtifact, Artifact.propertyTypes, Artifact.elements,
    List.append_nil, properties_of_nodup name site.ns fieldsDiffer, fieldReferences]

theorem declaredReference_shapeArtifact (name : String) (site : Site) (fields : Fields) :
    (shapeArtifact name site fields).declaredReference = classReference site.ns name :=
  Artifact.declaredReference_eq _

theorem declaredReference_collectionArtifact (element : String) (site : Site) :
    (collectionArtifact element site).declaredReference =
      classReference site.ns (collectionClass element) :=
  Artifact.declaredReference_eq _

/-- A collection refers to its element. -/
theorem references_collectionArtifact (element : String) (site : Site) :
    (collectionArtifact element site).references = [classReference site.ns element] := by
  simp [collectionArtifact, Artifact.references, Artifact.propertyTypes, Artifact.elements,
    isReference_classReference]

/-- A field with a value of its own refers to nothing. -/
theorem fieldReferences_value
    (parent ns key : String) {type : String} (default : Option Literal) (required : Option Bool)
    (fields : Fields) (isPlain : ¬ IsReference type) :
    fieldReferences parent ns ((key, .value type default required) :: fields) =
      fieldReferences parent ns fields := by
  simp [fieldReferences, property?, isPlain]

/-- A nested map refers to the class of its shape. -/
theorem fieldReferences_shape (parent ns key : String) (inner fields : Fields) :
    fieldReferences parent ns ((key, .shape inner) :: fields) =
      classReference (nestedNamespace ns) (fieldClass parent key) ::
        fieldReferences parent ns fields := by
  simp [fieldReferences, property?, isReference_classReference, fieldClass]

/-- A list refers to the class of its collection. -/
theorem fieldReferences_collection (parent ns key : String) (inner fields : Fields) :
    fieldReferences parent ns ((key, .collection inner) :: fields) =
      classReference (nestedNamespace ns) (collectionClass (fieldClass parent key)) ::
        fieldReferences parent ns fields := by
  simp [fieldReferences, property?, isReference_classReference, fieldClass]

theorem fieldReferences_malformed
    (parent ns key : String) (place : List String) (problem : SchemaProblem) (fields : Fields) :
    fieldReferences parent ns ((key, .malformed place problem) :: fields) =
      fieldReferences parent ns fields := by
  simp [fieldReferences, property?]

/-- A shape refers to what its fields refer to, so nothing refers to the shape itself yet. -/
theorem shapeSteps_references
    {name : String} {site : Site} {fields : Fields}
    (fieldsDiffer : (fields.map fun field => fieldName field.1).Nodup)
    (inner : (fieldReferences name site.ns fields ++
        (emitted (fieldSteps name site fields)).flatMap Artifact.references).Perm
      ((emitted (fieldSteps name site fields)).map Artifact.declaredReference)) :
    ((emitted (shapeSteps name site fields)).flatMap Artifact.references).Perm
      ((emitted (fieldSteps name site fields)).map Artifact.declaredReference) := by
  rw [emitted_shapeSteps, List.flatMap_append, List.flatMap_singleton,
    references_shapeArtifact name site fieldsDiffer]
  exact List.perm_append_comm.trans inner

/--
What fields refer to, together with what the classes nested in them refer to, are just these nested
classes, each of them once.  Every text is counted: a nested map is one class more that one field
more refers to, and with a list the field refers to the collection and the collection to the shape.
-/
theorem fieldSteps_references
    {root : String} (plain : schema.Plain root) (fields : Fields)
    {name : String} {site : Site} {entries : Entries}
    (outer : Describes schema root site.ns name entries)
    (fromEntries : fields ⊆ Content.ofEntries entries) :
    (fieldReferences name site.ns fields ++
        (emitted (fieldSteps name site fields)).flatMap Artifact.references).Perm
      ((emitted (fieldSteps name site fields)).map Artifact.declaredReference) := by
  induction fields using Content.fieldsInduction generalizing name site entries with
  | nil => simp [fieldReferences, emitted]
  | value key type default required fields ih =>
      rcases List.cons_subset.mp fromEntries with ⟨isField, others⟩
      rw [fieldReferences_value _ _ _ _ _ _ (plain.not_isReference outer isField),
        fieldSteps_value]
      exact ih outer others
  | malformed key place problem fields ih =>
      rw [fieldReferences_malformed, fieldSteps_malformed, emitted]
      exact ih outer (List.cons_subset.mp fromEntries).2
  | shape key inner fields innerIH fieldsIH =>
      rcases List.cons_subset.mp fromEntries with ⟨isField, others⟩
      rcases Content.mem_ofEntries.mp isField with ⟨node, isEntry, reading⟩
      rcases Content.ofNode_eq_shape.mp reading with ⟨innerEntries, isShape, rfl⟩
      have described : Describes schema root (site.nested key).ns (fieldClass name key)
          innerEntries :=
        outer.shape isEntry isShape
      have ofInner := shapeSteps_references (plain.differ_ofEntries described)
        (innerIH described (List.Subset.refl _))
      have ofOthers := fieldsIH outer others
      rw [List.perm_iff_count] at ofInner ofOthers ⊢
      intro text
      have innerCount := ofInner text
      have othersCount := ofOthers text
      simp only [fieldReferences_shape, fieldSteps_shape, emitted_append, emitted_shapeSteps,
        List.flatMap_append, List.map_append, List.map_singleton, declaredReference_shapeArtifact,
        Site.nested_ns, List.count_append, List.count_cons, List.count_nil]
        at innerCount othersCount ⊢
      omega
  | collection key inner fields innerIH fieldsIH =>
      rcases List.cons_subset.mp fromEntries with ⟨isField, others⟩
      rcases Content.mem_ofEntries.mp isField with ⟨node, isEntry, reading⟩
      rcases Content.ofNode_eq_collection.mp reading with ⟨innerEntries, isElement, rfl⟩
      have described : Describes schema root (site.element key).ns (fieldClass name key)
          innerEntries :=
        outer.element isEntry isElement
      have ofInner := shapeSteps_references (plain.differ_ofEntries described)
        (innerIH described (List.Subset.refl _))
      have ofOthers := fieldsIH outer others
      rw [List.perm_iff_count] at ofInner ofOthers ⊢
      intro text
      have innerCount := ofInner text
      have othersCount := ofOthers text
      simp only [fieldReferences_collection, fieldSteps_collection, emitted_append,
        emitted_shapeSteps, emitted_collectionSteps, List.flatMap_append, List.map_append,
        List.flatMap_singleton, List.map_singleton, references_collectionArtifact,
        declaredReference_collectionArtifact, declaredReference_shapeArtifact, Site.element_ns,
        List.count_append, List.count_cons, List.count_nil]
        at innerCount othersCount ⊢
      omega

/-- Of the classes that the steps for a shape emit all but the shape lie deeper. -/
theorem nested_shapeSteps (name : String) (site : Site) (fields : Fields) :
    (emitted (shapeSteps name site fields)).filter (fun artifact => artifact.ns ≠ site.ns) =
      emitted (fieldSteps name site fields) := by
  have notNested : [shapeArtifact name site fields].filter
      (fun artifact => artifact.ns ≠ site.ns) = [] := by
    simp [shapeArtifact, Artifact.ns]
  rw [emitted_shapeSteps, List.filter_append, notNested, List.append_nil, List.filter_eq_self]
  intro artifact member
  rcases fieldSteps_layout _ _ _ artifact member with ⟨⟨depth, below⟩, -⟩
  rw [decide_eq_true_iff, below.ns_eq]
  exact namespaceBelow_succ_ne site.ns depth

/-- The references that the classes of a plan make are those to its nested classes. -/
theorem references_perm_nested
    (success : ofSchema schema ns = .ok classes) (plain : schema.Plain ns) :
    (classes.flatMap Artifact.references).Perm
      ((classes.filter fun artifact => artifact.ns ≠ ns).map Artifact.declaredReference) := by
  rw [ofSchema_emitted success, emitted_schemaSteps, List.flatMap_assoc, List.filter_flatMap,
    List.map_flatMap]
  refine .flatMap_left _ ?_
  rintro ⟨document, node⟩ isDocument
  rw [List.flatMap_assoc, List.filter_flatMap, List.map_flatMap]
  refine .flatMap_left _ fun part isPart => ?_
  cases part with
  | malformed place problem => exact .refl _
  | shape place ending fields =>
      rcases describes_part isDocument isPart ns with ⟨entries, described, rfl⟩
      let site : Site := ⟨ns, .empty, (Pointer.root.child document).append place⟩
      rw [partSteps, nested_shapeSteps _ site]
      exact shapeSteps_references (plain.differ_ofEntries described)
        (fieldSteps_references plain _ described (List.Subset.refl _))

/-- Two classes of a plan have different references. -/
theorem eq_of_declaredReference
    (success : ofSchema schema ns = .ok classes)
    {left right : Artifact} (leftMember : left ∈ classes) (rightMember : right ∈ classes)
    (equal : left.declaredReference = right.declaredReference) :
    left = right := by
  rcases List.getElem?_of_mem leftMember with ⟨position, atPosition⟩
  rcases List.getElem?_of_mem rightMember with ⟨other, atOther⟩
  obtain rfl := (refersTo_declaredReference success atPosition).2 other right atOther equal
  exact Option.some.inj (atPosition.symm.trans atOther)

/-- The classes of a plan have references that differ. -/
theorem declaredReference_nodup (success : ofSchema schema ns = .ok classes) :
    (classes.map Artifact.declaredReference).Nodup := by
  have apart := (ofSchema_eq_ok_iff_accepted.mp success).2
  have differ : classes.Nodup := by
    refine apart.imp ?_
    rintro left _ different rfl
    exact different ⟨rfl, rfl⟩
  refine List.Nodup.map_on ?_ differ
  intro left leftMember right rightMember equal
  exact eq_of_declaredReference success leftMember rightMember equal

/-- References are counted among the types of properties and among the elements. -/
theorem count_references {text : String} (isReference : IsReference text) :
    (classes.flatMap Artifact.references).count text =
      (classes.flatMap Artifact.propertyTypes).count text +
        (classes.flatMap Artifact.elements).count text := by
  have allUses : classes.flatMap Artifact.references =
      (classes.flatMap fun artifact => artifact.propertyTypes ++ artifact.elements).filter
        (IsReference ·) :=
    List.filter_flatMap.symm
  rw [allUses, List.count_filter (p := (IsReference ·)) (decide_eq_true isReference),
    ← (List.flatMap_append_perm _ _ _).count_eq, List.count_append]

/-- A nested class is used once, as the type of a property or as an element; others are not. -/
theorem count_uses
    (success : ofSchema schema ns = .ok classes) (plain : schema.Plain ns)
    {artifact : Artifact} (member : artifact ∈ classes) :
    (classes.flatMap Artifact.propertyTypes).count artifact.declaredReference +
        (classes.flatMap Artifact.elements).count artifact.declaredReference =
      if artifact.ns = ns then 0 else 1 := by
  have differ : ((classes.filter fun artifact => artifact.ns ≠ ns).map
      Artifact.declaredReference).Nodup :=
    (declaredReference_nodup success).sublist (List.filter_sublist.map _)
  rw [← count_references artifact.isReference_declaredReference,
    (references_perm_nested success plain).count_eq]
  split
  · rename_i isRoot
    refine List.count_eq_zero.mpr fun isUsed => ?_
    rcases List.mem_map.mp isUsed with ⟨other, isNested, equal⟩
    rcases List.mem_filter.mp isNested with ⟨otherMember, otherNested⟩
    obtain rfl := eq_of_declaredReference success otherMember member equal
    exact of_decide_eq_true otherNested isRoot
  · rename_i isNested
    refine List.count_eq_one_of_mem differ (List.mem_map_of_mem ?_)
    exact List.mem_filter.mpr ⟨member, decide_eq_true isNested⟩

/-! ## Who uses a class -/

/--
A shape whose property refers to a class lies one level above it.  A value refers to nothing, so the
property comes from an entry with classes of its own.
-/
theorem ns_of_propertyType
    (success : ofSchema schema ns = .ok classes) (plain : schema.Plain ns)
    {artifact : Artifact} (member : artifact ∈ classes)
    {shape : Shape} (isShape : .shape shape ∈ classes)
    {property : Property} (isProperty : property ∈ shape.properties)
    (refers : property.type = artifact.declaredReference) :
    artifact.ns = nestedNamespace shape.ns := by
  have inOutline := isShape
  rw [ofSchema_emitted success] at inOutline
  rcases schemaSteps_described inOutline with ⟨entries, described⟩
  rcases List.getElem?_of_mem isShape with ⟨position, atPosition⟩
  rcases described_shape success atPosition described with
    ⟨wellFormed, site, siteNs, properties_eq, before⟩
  rw [properties_eq] at isProperty
  rcases mem_properties wellFormed isProperty with ⟨key, node, defines, comesTo⟩
  have isField : (key, Content.ofNode node) ∈ Content.ofEntries entries :=
    Content.mem_ofEntries.mpr
      ⟨node, List.mem_reverse.mp (List.mem_of_find?_eq_some defines), rfl⟩
  have holdsFields : ∃ fields,
      Content.ofNode node = .shape fields ∨ Content.ofNode node = .collection fields := by
    cases reading : Content.ofNode node with
    | shape fields => exact ⟨fields, .inl rfl⟩
    | collection fields => exact ⟨fields, .inr rfl⟩
    | malformed place problem => simp [reading, property?] at comesTo
    | value type default required =>
        rw [reading] at comesTo isField
        have sameType : property.type = type := by
          rw [← Option.some.inj comesTo]
        have isReference := artifact.isReference_declaredReference
        rw [← refers, sameType] at isReference
        exact absurd isReference (plain.not_isReference described isField)
  rcases property?_reference comesTo holdsFields with ⟨target, made, refersTarget, targetNs, -⟩
  rcases before target ((emitted_within (contentSteps_within isField)).subset made) with
    ⟨_, -, atTarget⟩
  rw [eq_of_declaredReference success member (List.mem_of_getElem? atTarget)
    (refers.symm.trans refersTarget), targetNs, siteNs]

/-- What a collection collects is the shape that it wraps. -/
theorem collects_wrapped
    (success : ofSchema schema ns = .ok classes)
    {collection : Collection} (isCollection : .collection collection ∈ classes) :
    ∃ shape, .shape shape ∈ classes ∧ collection.Wraps shape ∧
      collection.element = (Artifact.shape shape).declaredReference := by
  have follow := schemaSteps_collectionsFollow schema ns
  rw [← ofSchema_emitted success] at follow
  rcases List.append_of_mem isCollection with ⟨before, after, split⟩
  rcases follow before collection after split with ⟨earlier, shape, rfl, collects⟩
  refine ⟨shape, ?_, ⟨collects.ns_eq, collects.name_eq⟩, ?_⟩
  · rw [split]
    simp
  · rw [Artifact.declaredReference_eq]
    exact collects.element_eq

/-- The collection that wraps a shape collects it. -/
theorem element_eq_of_wraps
    (success : ofSchema schema ns = .ok classes)
    {shape : Shape} {collection : Collection} (isCollection : .collection collection ∈ classes)
    (wraps : collection.Wraps shape) :
    collection.element = (Artifact.shape shape).declaredReference := by
  rcases collects_wrapped success isCollection with ⟨other, -, otherWraps, element_eq⟩
  have sameName : other.name = shape.name :=
    (String.append_left_inj _).mp (otherWraps.2.symm.trans wraps.2)
  have sameNs : other.ns = shape.ns := otherWraps.1.symm.trans wraps.1
  rw [element_eq, Artifact.declaredReference_eq, Artifact.declaredReference_eq]
  exact congrArg₂ classReference sameNs sameName

/-- A class that no collection wraps is the element of none. -/
theorem not_element_of_not_wrapped
    (success : ofSchema schema ns = .ok classes)
    {artifact : Artifact} (member : artifact ∈ classes)
    (notWrapped : ∀ shape collection, artifact = .shape shape →
      .collection collection ∈ classes → ¬ collection.Wraps shape) :
    artifact.declaredReference ∉ classes.flatMap Artifact.elements := by
  intro isElement
  rcases List.mem_flatMap.mp isElement with ⟨user, isUser, uses⟩
  cases user with
  | shape shape => cases uses
  | collection collection =>
      rcases collects_wrapped success isUser with ⟨shape, isShape, wraps, element_eq⟩
      have sameReference := (List.mem_singleton.mp uses).trans element_eq
      exact notWrapped shape collection
        (eq_of_declaredReference success member isShape sameReference) isUser wraps

/--
No nested class is dead, and none is shared.  In the plan of a plain schema a shape that a
collection wraps is the element of that collection alone, and no property refers to it.  Any other
nested class, be it a shape or a collection, is the type of exactly one property among those of all
shapes, and the shape that has the property lies one level above the class.
-/
theorem nested_used_once (success : ofSchema schema ns = .ok classes) (plain : schema.Plain ns) :
    (∀ shape collection, .shape shape ∈ classes → .collection collection ∈ classes →
      collection.Wraps shape →
        collection.element = (Artifact.shape shape).declaredReference ∧
        (classes.flatMap Artifact.elements).count (Artifact.shape shape).declaredReference = 1 ∧
        (classes.flatMap Artifact.propertyTypes).count
          (Artifact.shape shape).declaredReference = 0) ∧
    (∀ artifact ∈ classes, ∀ depth, artifact.ns = namespaceBelow ns (depth + 1) →
      (∀ shape collection, artifact = .shape shape → .collection collection ∈ classes →
        ¬ collection.Wraps shape) →
        (classes.flatMap Artifact.elements).count artifact.declaredReference = 0 ∧
        (classes.flatMap Artifact.propertyTypes).count artifact.declaredReference = 1 ∧
        ∃ shape, .shape shape ∈ classes ∧ shape.ns = namespaceBelow ns depth ∧
          ∃ property ∈ shape.properties, property.type = artifact.declaredReference) := by
  constructor
  · intro shape collection isShape isCollection wraps
    have element_eq := element_eq_of_wraps success isCollection wraps
    have isElement : (Artifact.shape shape).declaredReference ∈
        classes.flatMap Artifact.elements :=
      List.mem_flatMap.mpr ⟨_, isCollection, List.mem_singleton.mpr element_eq.symm⟩
    have positive := List.count_pos_iff.mpr isElement
    have uses := count_uses success plain isShape
    refine ⟨element_eq, ?_, ?_⟩ <;> split at uses <;> omega
  · intro artifact member depth isDeeper notWrapped
    have noElement := List.count_eq_zero.mpr (not_element_of_not_wrapped success member notWrapped)
    have uses := count_uses success plain member
    have isNested : artifact.ns ≠ ns := isDeeper ▸ namespaceBelow_succ_ne ns depth
    rw [if_neg isNested, noElement, Nat.add_zero] at uses
    refine ⟨noElement, uses, ?_⟩
    have isType : artifact.declaredReference ∈ classes.flatMap Artifact.propertyTypes :=
      List.count_pos_iff.mp (by omega)
    rcases List.mem_flatMap.mp isType with ⟨user, isUser, isProperty⟩
    cases user with
    | collection collection => cases isProperty
    | shape shape =>
        rcases List.mem_map.mp isProperty with ⟨property, isProperty, refers⟩
        have above := ns_of_propertyType success plain member isUser isProperty refers
        have inOutline := isUser
        rw [ofSchema_emitted success] at inOutline
        rcases schemaSteps_layout schema ns _ inOutline with ⟨shapeDepth, below⟩
        have shapeNs : shape.ns = namespaceBelow ns shapeDepth := below.ns_eq
        rw [shapeNs, nestedNamespace_below, isDeeper, namespaceBelow_inj] at above
        obtain rfl : depth = shapeDepth := by omega
        exact ⟨shape, isUser, shapeNs, property, isProperty, refers⟩

/-- In the schema of one request a shape is described by a list under one key, or by nothing. -/
theorem orderSchema_entries
    {root ns name : String} {entries : Entries}
    (described : Describes orderSchema root ns name entries) :
    entries = [("body", .list [.map []])] ∨ entries = [] := by
  induction described with
  | request isDocument isRequest =>
      cases List.mem_singleton.mp isDocument
      cases isRequest
      exact .inl rfl
  | response isDocument isResponse isStatus =>
      cases List.mem_singleton.mp isDocument
      cases isResponse
  | shape outer isEntry isShape ih =>
      rcases ih with rfl | rfl
      · cases List.mem_singleton.mp isEntry
        cases isShape
      · cases isEntry
  | element outer isEntry isElement ih =>
      rcases ih with rfl | rfl
      · cases List.mem_singleton.mp isEntry
        cases isElement
        exact .inr rfl
      · cases isEntry

theorem orderSchema_plain (root : String) : orderSchema.Plain root where
  fieldsDiffer described := by
    rcases orderSchema_entries described with rfl | rfl
    · exact List.nodup_singleton _
    · exact List.nodup_nil
  typesPlain described isEntry := by
    rcases orderSchema_entries described with rfl | rfl
    · cases List.mem_singleton.mp isEntry
    · cases isEntry

theorem order_nested_used_once :
    orderSchema.Plain "App" ∧
    (orderClasses.flatMap Artifact.elements).count "\\App\\Nested\\OrderDtoRequestBody" = 1 ∧
    (orderClasses.flatMap Artifact.propertyTypes).count
      "\\App\\Nested\\OrderDtoRequestBodyCollection" = 1 := by
  rcases nested_used_once ofSchema_orderSchema (orderSchema_plain "App") with ⟨wrapped, others⟩
  refine ⟨orderSchema_plain "App", ?_, ?_⟩
  · exact (wrapped _ _ List.mem_cons_self (List.mem_cons_of_mem _ List.mem_cons_self)
      ⟨rfl, rfl⟩).2.1
  · refine (others _ (List.mem_cons_of_mem _ List.mem_cons_self) 0 rfl ?_).2.1
    intro shape collection isShape
    cases isShape

end Plan

end ApiShapes
