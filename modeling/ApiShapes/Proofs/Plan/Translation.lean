import ApiShapes.Proofs.Plan.Uniqueness

/-!
# Plans and translations

A translation gives the classes of a schema without a look at any class that was collected before:
the classes nested in a shape, field by field, then the shape, then its collection if it is an
element.  There is none if a node of the schema is malformed, and nothing else can go wrong.  The
names that are taken play no part in it.  Main statement: a schema has a plan exactly if it has a
translation in which no two classes have one name in one namespace, and then both are the same list.
The tests made one by one during the work, for a shape before everything nested in it and for a
collection behind its element, thus come to the same as one test of the finished list.
-/

namespace ApiShapes.Plan

/-- A shape behind the classes nested in it. -/
def withShape (name ns : String) (dir : Path) (fields : Fields) (nested : List Artifact) :
    List Artifact :=
  nested ++ [.shape ⟨name, ns, dir, properties name ns fields⟩]

mutual

/-- The classes of what the field `key` of the class `parent` describes. -/
def contentClasses (parent ns : String) (dir : Path) (key : String) :
    Content → Option (List Artifact)
  | .value _ _ _ => some []
  | .malformed _ _ => none
  | .shape fields =>
      let name := fieldClass parent key
      let ns := nestedNamespace ns
      let dir := dir.join ⟨nestedSegment⟩
      (fieldClasses name ns dir fields).map (withShape name ns dir fields)
  | .collection fields =>
      let name := fieldClass parent key
      let ns := nestedNamespace ns
      let dir := dir.join ⟨nestedSegment⟩
      (fieldClasses name ns dir fields).map fun nested =>
        withShape name ns dir fields nested ++
          [.collection ⟨collectionClass name, classReference ns name, ns, dir⟩]

/-- The classes of what the fields of the class `parent` describe, in order. -/
def fieldClasses (parent ns : String) (dir : Path) : Fields → Option (List Artifact)
  | [] => some []
  | (key, content) :: fields => do
      let first ← contentClasses parent ns dir key content
      let others ← fieldClasses parent ns dir fields
      some (first ++ others)

end

/-- The classes of a part of a document. -/
def partClasses (document ns : String) : Part → Option (List Artifact)
  | .shape _ ending fields =>
      let name := documentClass document ++ ending
      (fieldClasses name ns .empty fields).map (withShape name ns .empty fields)
  | .malformed _ _ => none

/-- The classes of a document: those of its request and then those of its responses. -/
def documentClasses (document ns : String) (node : Node) : Option (List Artifact) :=
  ((Part.ofDocument node).mapM (partClasses document ns)).map List.flatten

/-- The classes of a schema, document by document. -/
def schemaClasses (schema : Schema) (ns : String) : Option (List Artifact) :=
  (schema.documents.mapM fun (document, node) => documentClasses document ns node).map
    List.flatten

/-- The steps for a shape are accepted as the classes of its fields with the shape behind them. -/
theorem accepted_shapeSteps
    {name : String} {site : Site} {fields : Fields}
    (inner : accepted (fieldSteps name site fields) =
      fieldClasses name site.ns site.dir fields) :
    accepted (shapeSteps name site fields) =
      (fieldClasses name site.ns site.dir fields).map
        (withShape name site.ns site.dir fields) := by
  rw [shapeSteps, aroundFields, accepted, accepted_append, inner, Option.map_eq_bind]
  rfl

/-- What the steps for fields are accepted as is the translation of the fields, at every depth. -/
theorem accepted_fieldSteps
    (fields : Fields) (parent : String) (site : Site) :
    accepted (fieldSteps parent site fields) =
      fieldClasses parent site.ns site.dir fields := by
  induction fields using Content.fieldsInduction generalizing parent site with
  | nil => rw [fieldSteps_nil, fieldClasses, accepted]
  | value key type default required fields ih =>
      rw [fieldSteps_value, ih, fieldClasses, contentClasses]
      cases fieldClasses parent site.ns site.dir fields <;> rfl
  | malformed key place problem fields ih =>
      rw [fieldSteps_malformed, fieldClasses, contentClasses]
      rfl
  | shape key inner fields innerIH fieldsIH =>
      rw [fieldSteps_shape, accepted_append, accepted_shapeSteps (innerIH _ _), fieldsIH,
        fieldClasses, contentClasses, Site.nested_ns, Site.nested_dir]
      cases fieldClasses (fieldClass parent key) _ _ inner <;>
        cases fieldClasses parent site.ns site.dir fields <;> rfl
  | collection key inner fields innerIH fieldsIH =>
      rw [fieldSteps_collection, accepted_append, accepted_append,
        accepted_shapeSteps (innerIH _ _), fieldsIH, fieldClasses, contentClasses,
        Site.element_ns, Site.element_dir]
      cases fieldClasses (fieldClass parent key) _ _ inner <;>
        cases fieldClasses parent site.ns site.dir fields <;>
        simp [accepted, collectionSteps]

/-- What the steps for a part are accepted as is its translation. -/
theorem accepted_partSteps (document ns : String) (pointer : Pointer) (part : Part) :
    accepted (partSteps document ns pointer part) = partClasses document ns part := by
  cases part with
  | malformed place problem => rfl
  | shape place ending fields =>
      rw [partSteps, accepted_shapeSteps (accepted_fieldSteps _ _ _), partClasses]

theorem accepted_flatMap {α : Type} (items : List α) (steps : α → List Step) :
    accepted (items.flatMap steps) =
      (items.mapM fun item => accepted (steps item)).map List.flatten := by
  induction items with
  | nil => rfl
  | cons item items ih =>
      rw [List.flatMap_cons, accepted_append, ih, List.mapM_cons]
      cases accepted (steps item) <;>
        cases items.mapM (fun item => accepted (steps item)) <;> rfl

/-- What the outline of a schema is accepted as is its translation. -/
theorem accepted_schemaSteps (schema : Schema) (ns : String) :
    accepted (schemaSteps schema ns) = schemaClasses schema ns := by
  simp only [schemaSteps, documentSteps, accepted_flatMap, accepted_partSteps]
  rfl

/--
A schema has a plan exactly if it has a translation whose classes all differ in namespace or name,
and the plan is the translation.
-/
theorem ofSchema_eq_ok_iff_translation
    (schema : Schema) (ns : String) (classes : List Artifact) :
    ofSchema schema ns = .ok classes ↔
      schemaClasses schema ns = some classes ∧
        classes.Pairwise (fun left right => ¬ left.SameClass right) := by
  rw [ofSchema_eq_ok_iff_accepted, accepted_schemaSteps]

set_option maxRecDepth 20000 in
/-- The translation of a request with a list: element, collection, and the shape around them. -/
example : schemaClasses orderSchema "App" = some orderClasses := by
  rfl

end ApiShapes.Plan
