import ApiShapes.Plan.Basic
import ApiShapes.Proofs.Plan.Steps

/-!
# The outline, field by field

The fields of a shape hold the fields of the shapes nested in it, so a statement about an outline is
proved by induction over the fields and, inside them, over the fields of nested shapes and of
elements.  This module gives that induction once, and says what each kind of field contributes to an
outline and to the classes that it emits.
-/

namespace ApiShapes

/--
Induction over the fields of a shape: a field that describes a shape or the elements of a collection
comes with the statement for the fields inside it.
-/
@[elab_as_elim]
theorem Content.fieldsInduction
    {motive : Fields → Prop}
    (nil : motive [])
    (value : ∀ key type default required fields,
      motive fields → motive ((key, .value type default required) :: fields))
    (malformed : ∀ key place problem fields,
      motive fields → motive ((key, .malformed place problem) :: fields))
    (shape : ∀ key inner fields,
      motive inner → motive fields → motive ((key, .shape inner) :: fields))
    (collection : ∀ key inner fields,
      motive inner → motive fields → motive ((key, .collection inner) :: fields)) :
    ∀ fields : Fields, motive fields
  | [] => nil
  | (key, .value type default required) :: fields =>
      value key type default required fields
        (fieldsInduction nil value malformed shape collection fields)
  | (key, .malformed place problem) :: fields =>
      malformed key place problem fields
        (fieldsInduction nil value malformed shape collection fields)
  | (key, .shape inner) :: fields =>
      shape key inner fields
        (fieldsInduction nil value malformed shape collection inner)
        (fieldsInduction nil value malformed shape collection fields)
  | (key, .collection inner) :: fields =>
      collection key inner fields
        (fieldsInduction nil value malformed shape collection inner)
        (fieldsInduction nil value malformed shape collection fields)

/-- The class of what a field describes: it is named after the field, not after the key. -/
def fieldClass (parent key : String) : String :=
  nestedClass parent (fieldName key)

/-- The site of the elements of the collection that `key` describes. -/
def Site.element (site : Site) (key : String) : Site where
  ns := nestedNamespace site.ns
  dir := site.dir.join ⟨nestedSegment⟩
  pointer := (site.pointer.child key).child Content.elementKey

section Site

variable (site : Site) (key : String)

@[simp]
theorem Site.nested_ns : (site.nested key).ns = nestedNamespace site.ns := rfl

@[simp]
theorem Site.nested_dir : (site.nested key).dir = site.dir.join ⟨nestedSegment⟩ := rfl

@[simp]
theorem Site.element_ns : (site.element key).ns = nestedNamespace site.ns := rfl

@[simp]
theorem Site.element_dir : (site.element key).dir = site.dir.join ⟨nestedSegment⟩ := rfl

end Site

/-- The shapes of a document: that of its request, and those of its responses. -/
theorem Part.shape_mem_ofDocument
    {node : Node} {place : List String} {ending : String} {fields : Fields} :
    .shape place ending fields ∈ Part.ofDocument node ↔
      (∃ entries, node.present? "request" = some (.map entries) ∧
        place = ["request"] ∧ ending = "Request" ∧
        fields = Content.ofEntries (entries.filter (·.1 ∈ requestSections))) ∨
      (∃ statuses status entries, node.present? "response" = some (.map statuses) ∧
        (status, .map entries) ∈ statuses ∧
        place = ["response", status] ∧ ending = "Response" ++ status ∧
        fields = Content.ofEntries entries) := by
  rw [Part.ofDocument, List.mem_append]
  constructor
  · rintro (ofRequest | ofResponse)
    · rcases Option.map_eq_some_iff.mp (Option.mem_toList.mp ofRequest) with
        ⟨request, found, isShape⟩
      cases request <;> simp only [Part.ofRequest, Part.shape.injEq, reduceCtorEq] at isShape
      rcases isShape with ⟨rfl, rfl, rfl⟩
      exact .inl ⟨_, found, rfl, rfl, rfl⟩
    · obtain ⟨response, found⟩ : ∃ response, node.present? "response" = some response := by
        cases found : node.present? "response" with
        | none => simp [found] at ofResponse
        | some response => exact ⟨response, rfl⟩
      rw [found, Option.map_some, Option.getD_some] at ofResponse
      cases response with
      | map statuses =>
          rw [Part.ofResponse, List.mem_map] at ofResponse
          rcases ofResponse with ⟨⟨status, inner⟩, isStatus, isShape⟩
          cases inner <;> simp only [Part.ofStatus, Part.shape.injEq, reduceCtorEq] at isShape
          rcases isShape with ⟨rfl, rfl, rfl⟩
          exact .inr ⟨statuses, status, _, found, (List.mem_filter.mp isStatus).1, rfl, rfl, rfl⟩
      | _ => simp [Part.ofResponse] at ofResponse
  · rintro (⟨entries, found, rfl, rfl, rfl⟩ |
      ⟨statuses, status, entries, found, isStatus, rfl, rfl, rfl⟩)
    · exact .inl (by simp [found, Part.ofRequest])
    · refine .inr ?_
      rw [found, Option.map_some, Option.getD_some, Part.ofResponse, List.mem_map]
      exact ⟨(status, .map entries), List.mem_filter.mpr ⟨isStatus, rfl⟩, rfl⟩

namespace Plan

section Steps

variable (parent key : String) (site : Site) (fields inner : Fields)

@[simp]
theorem fieldSteps_nil : fieldSteps parent site [] = [] := by
  rw [fieldSteps]

/-- A field with a value of its own makes no class. -/
@[simp]
theorem fieldSteps_value
    (type : String) (default : Option Literal) (required : Option Bool) :
    fieldSteps parent site ((key, .value type default required) :: fields) =
      fieldSteps parent site fields := by
  rw [fieldSteps, contentSteps, List.nil_append]

/-- A malformed field ends the work at its place. -/
@[simp]
theorem fieldSteps_malformed (place : List String) (problem : SchemaProblem) :
    fieldSteps parent site ((key, .malformed place problem) :: fields) =
      .reject ((site.pointer.child key).append place) problem ::
        fieldSteps parent site fields := by
  rw [fieldSteps, contentSteps, List.singleton_append]

/-- A nested map makes the class of its shape, one level down. -/
@[simp]
theorem fieldSteps_shape :
    fieldSteps parent site ((key, .shape inner) :: fields) =
      shapeSteps (fieldClass parent key) (site.nested key) inner ++
        fieldSteps parent site fields := by
  rw [fieldSteps, contentSteps]
  rfl

/-- A list makes the shape of its element and the collection of it, one level down. -/
@[simp]
theorem fieldSteps_collection :
    fieldSteps parent site ((key, .collection inner) :: fields) =
      shapeSteps (fieldClass parent key) (site.element key) inner ++
        (collectionSteps (fieldClass parent key) (site.element key) ++
          fieldSteps parent site fields) := by
  rw [fieldSteps, contentSteps, ← List.append_assoc]
  rfl

/-- The collection class over the shape `element` of the same site. -/
def collectionArtifact (element : String) (site : Site) : Artifact :=
  .collection ⟨collectionClass element, classReference site.ns element, site.ns, site.dir⟩

/-- A shape stands behind all that is nested in it. -/
@[simp]
theorem emitted_shapeSteps :
    emitted (shapeSteps parent site fields) =
      emitted (fieldSteps parent site fields) ++ [shapeArtifact parent site fields] := by
  simp [shapeSteps, aroundFields, emitted]

/-- The steps of a collection emit its class alone. -/
@[simp]
theorem emitted_collectionSteps :
    emitted (collectionSteps parent site) = [collectionArtifact parent site] := by
  rfl

end Steps

@[simp]
theorem emitted_flatMap {α : Type} (items : List α) (steps : α → List Step) :
    emitted (items.flatMap steps) = items.flatMap fun item => emitted (steps item) := by
  induction items with
  | nil => rfl
  | cons item items ih => simp [ih]

/-- The classes of a schema are those of its documents, and in each of them those of its parts. -/
theorem emitted_schemaSteps (schema : Schema) (ns : String) :
    emitted (schemaSteps schema ns) =
      schema.documents.flatMap fun (document, node) =>
        (Part.ofDocument node).flatMap fun part =>
          emitted (partSteps document ns (Pointer.root.child document) part) := by
  simp [schemaSteps, documentSteps]

/-- The plan is the same whatever the steps are to give back. -/
theorem outcome_fst {α : Type} (result : α) (planned : List Artifact) (steps : List Step) :
    (outcome result planned steps).1 = (perform planned steps).1 := by
  rw [outcome]
  rcases perform planned steps with ⟨classes, _ | error⟩ <;> rfl

/-- A call succeeds if its steps can be carried out, and then it gives what it is to give back. -/
theorem outcome_eq_ok
    {α : Type} {result value : α} {planned classes : List Artifact} {steps : List Step} :
    outcome result planned steps = (classes, .ok value) ↔
      perform planned steps = (classes, none) ∧ result = value := by
  rw [outcome]
  rcases perform planned steps with ⟨reached, _ | error⟩ <;> simp

/-- A schema has a plan exactly if its outline can be carried out from nothing. -/
theorem ofSchema_eq_ok
    {schema : Schema} {ns : String} {classes : List Artifact} :
    ofSchema schema ns = .ok classes ↔
      perform [] (schemaSteps schema ns) = (classes, none) := by
  rw [ofSchema]
  rcases perform [] (schemaSteps schema ns) with ⟨planned, _ | error⟩ <;> simp

/-- A plan is all that the outline of its schema emits. -/
theorem ofSchema_emitted
    {schema : Schema} {ns : String} {classes : List Artifact}
    (success : ofSchema schema ns = .ok classes) :
    classes = emitted (schemaSteps schema ns) := by
  simpa using eq_emitted_of_perform (ofSchema_eq_ok.mp success)

/-- A schema of one document, whose request has a list of maps as its body. -/
def orderSchema : Schema :=
  ⟨none, [("order", .map [("request", .map [("body", .list [.map []])])])]⟩

/-- The classes of `orderSchema` in the namespace `App`. -/
def orderClasses : List Artifact :=
  [.shape ⟨"OrderDtoRequestBody", "App\\Nested", ⟨"Nested"⟩, []⟩,
    .collection ⟨"OrderDtoRequestBodyCollection", "\\App\\Nested\\OrderDtoRequestBody",
      "App\\Nested", ⟨"Nested"⟩⟩,
    .shape ⟨"OrderDtoRequest", "App", .empty,
      [⟨"body", "\\App\\Nested\\OrderDtoRequestBodyCollection", none, none⟩]⟩]

set_option maxRecDepth 20000 in
/-- A request with a list of one empty map gives three classes. -/
theorem ofSchema_orderSchema : ofSchema orderSchema "App" = .ok orderClasses := by
  rfl

end Plan

end ApiShapes
