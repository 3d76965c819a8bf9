import ApiShapes.Proofs.Plan.Outline

/-!
# Plans in one traversal

An outline is written down first and carried out afterwards, and the properties of a class are put
together apart from both.  The same plan comes about in one traversal that hands on the classes
planned so far: a field is looked at behind the classes of the fields before it, and its property
joins theirs; a shape has its name tested, then its fields are gone through, and the class joins the
plan with the properties that they came to.  Main statements: for the fields of a class, for a
document and for a schema, both ways give the same classes, the same result and the same error,
whatever was planned before.
-/

namespace ApiShapes.Plan

/-! ## The traversal -/

/-- Goes on behind work that succeeded, with the classes planned so far and the result. -/
def andThen {α β : Type} (reached : List Artifact × Except Error α)
    (next : List Artifact → α → List Artifact × Except Error β) :
    List Artifact × Except Error β :=
  match reached with
  | (classes, .ok value) => next classes value
  | (classes, .error error) => (classes, .error error)

/-- Goes through some items, each behind what the ones before it have planned. -/
def traverse {α : Type} (visit : List Artifact → α → List Artifact × Except Error Unit)
    (planned : List Artifact) : List α → List Artifact × Except Error Unit
  | [] => (planned, .ok ())
  | item :: items => andThen (visit planned item) fun classes _ => traverse visit classes items

/-- Fails if a class of the namespace has the name already. -/
def testName (planned : List Artifact) (ns className : String) (pointer : Pointer) :
    List Artifact × Except Error Unit :=
  if isTaken planned ns className then
    (planned, .error (.atPointer pointer (.duplicateClass ns className)))
  else
    (planned, .ok ())

/-- Plans a shape: `inner` goes through its fields and gives its properties. -/
def traverseShape (name : String) (site : Site)
    (inner : List Artifact → List Artifact × Except Error (List Property))
    (planned : List Artifact) : List Artifact × Except Error Unit :=
  andThen (testName planned site.ns name site.pointer) fun classes _ =>
    andThen (inner classes) fun classes properties =>
      (classes ++ [.shape ⟨name, site.ns, site.dir, properties⟩], .ok ())

/-- Plans the collection class over the shape `element` of the same site. -/
def traverseCollection (element : String) (site : Site) (planned : List Artifact) :
    List Artifact × Except Error Unit :=
  andThen (testName planned site.ns (collectionClass element) site.pointer) fun classes _ =>
    (classes ++ [collectionArtifact element site], .ok ())

mutual

/-- Plans the classes of what a field of the class `parent` describes, and gives its property. -/
def traverseContent (parent : String) (site : Site) (key : String) (planned : List Artifact) :
    Content → List Artifact × Except Error Property
  | .value type default required => (planned, .ok ⟨fieldName key, type, default, required⟩)
  | .malformed place problem =>
      (planned, .error (.atPointer ((site.pointer.child key).append place) problem))
  | .shape fields =>
      let name := fieldClass parent key
      let inner := fun planned => traverseFields name (site.nested key) planned [] fields
      andThen (traverseShape name (site.nested key) inner planned) fun classes _ =>
        (classes, .ok ⟨fieldName key, classReference (nestedNamespace site.ns) name, none, none⟩)
  | .collection fields =>
      let name := fieldClass parent key
      let inner := fun planned => traverseFields name (site.element key) planned [] fields
      andThen (traverseShape name (site.element key) inner planned) fun classes _ =>
        andThen (traverseCollection name (site.element key) classes) fun classes _ =>
          (classes, .ok
            ⟨fieldName key, classReference (nestedNamespace site.ns) (collectionClass name),
              none, none⟩)

/-- Plans the classes of what fields describe, and puts their properties to the `known` ones. -/
def traverseFields (parent : String) (site : Site) (planned : List Artifact)
    (known : List Property) : Fields → List Artifact × Except Error (List Property)
  | [] => (planned, .ok known)
  | (key, content) :: fields =>
      andThen (traverseContent parent site key planned content) fun classes property =>
        traverseFields parent site classes (property.insert known) fields

end

/-- Plans the classes of a part of the document `document`. -/
def traversePart (document ns : String) (pointer : Pointer) (planned : List Artifact) :
    Part → List Artifact × Except Error Unit
  | .shape place ending fields =>
      let name := documentClass document ++ ending
      let site : Site := ⟨ns, .empty, pointer.append place⟩
      traverseShape name site (fun planned => traverseFields name site planned [] fields) planned
  | .malformed place problem => (planned, .error (.atPointer (pointer.append place) problem))

/-- Plans the classes of a document, part by part. -/
def traverseDocument (document ns : String) (pointer : Pointer) (planned : List Artifact)
    (node : Node) : List Artifact × Except Error Unit :=
  traverse (traversePart document ns pointer) planned (Part.ofDocument node)

/-- Plans the classes of a schema, document by document. -/
def traverseSchema (schema : Schema) (ns : String) : List Artifact × Except Error Unit :=
  traverse
    (fun planned (document, node) =>
      traverseDocument document ns (Pointer.root.child document) planned node)
    [] schema.documents

/-! ## Steps that are carried out one behind the other -/

section Outcome

variable {α β : Type} (planned : List Artifact)

/-- What goes on behind the outcome of steps as other steps do is the outcome of both. -/
theorem andThen_outcome
    {value : α} {result : β} {next : List Artifact → α → List Artifact × Except Error β}
    {first second : List Step}
    (behind : ∀ classes, next classes value = outcome result classes second) :
    andThen (outcome value planned first) next = outcome result planned (first ++ second) := by
  rw [outcome, outcome, perform_append]
  rcases perform planned first with ⟨classes, _ | error⟩
  · exact behind classes
  · rfl

/-- What only exchanges the result of steps carries out no more of them. -/
theorem andThen_outcome_ok (value : α) (result : β) (steps : List Step) :
    andThen (outcome value planned steps) (fun classes _ => (classes, .ok result)) =
      outcome result planned steps := by
  have behindNone :
      andThen (outcome value planned steps) (fun classes _ => (classes, .ok result)) =
        outcome result planned (steps ++ []) :=
    andThen_outcome planned fun classes => rfl
  rwa [List.append_nil] at behindNone

/-- A name is tested before the steps behind it are carried out. -/
theorem andThen_testName
    {result : β} {next : List Artifact → Unit → List Artifact × Except Error β}
    {steps : List Step} (ns className : String) (pointer : Pointer)
    (behind : ∀ classes, next classes () = outcome result classes steps) :
    andThen (testName planned ns className pointer) next =
      outcome result planned (.reserve ns className pointer :: steps) := by
  rw [outcome, perform, testName]
  by_cases taken : isTaken planned ns className = true
  · rw [if_pos taken, if_pos taken]
    rfl
  · rw [if_neg taken, if_neg taken]
    exact behind planned

/-- Items whose steps are carried out one behind the other are traversed. -/
theorem traverse_eq
    {visit : List Artifact → α → List Artifact × Except Error Unit} {steps : α → List Step}
    (visitEq : ∀ planned item, visit planned item = outcome () planned (steps item))
    (items : List α) :
    traverse visit planned items = outcome () planned (items.flatMap steps) := by
  induction items generalizing planned with
  | nil => rfl
  | cons item items ih =>
      rw [List.flatMap_cons, traverse, visitEq]
      exact andThen_outcome planned ih

end Outcome

/-! ## Both ways are the same -/

/-- A collection class is planned as its steps say. -/
theorem traverseCollection_eq (element : String) (site : Site) (planned : List Artifact) :
    traverseCollection element site planned =
      outcome () planned (collectionSteps element site) := by
  apply andThen_testName
  intro classes
  rfl

/-- The properties of some fields, put to those that are known. -/
def insertProperties (parent ns : String) (known : List Property) (fields : Fields) :
    List Property :=
  (fields.filterMap fun (key, content) => property? parent ns key content).foldl
    (fun known property => property.insert known) known

/--
Whatever was planned before, the traversal of some fields is the outcome of their steps, and the
properties that it comes to are those of the fields, put to the ones that are known.
-/
def TraversedAsSteps (fields : Fields) : Prop :=
  ∀ parent site planned known, traverseFields parent site planned known fields =
    outcome (insertProperties parent site.ns known fields) planned (fieldSteps parent site fields)

namespace TraversedAsSteps

variable {inner : Fields} (innerAsSteps : TraversedAsSteps inner)

include innerAsSteps

/-- A shape is planned as its steps say, if its fields are. -/
theorem shape (name : String) (site : Site) (planned : List Artifact) :
    traverseShape name site (fun planned => traverseFields name site planned [] inner) planned =
      outcome () planned (shapeSteps name site inner) := by
  apply andThen_testName
  intro classes
  dsimp only
  rw [innerAsSteps]
  apply andThen_outcome
  intro nested
  rfl

/-- A field that nests a shape is planned as its steps say, and refers to the class of the shape. -/
theorem shapeContent (parent key : String) (site : Site) (planned : List Artifact) :
    traverseContent parent site key planned (.shape inner) =
      outcome
        ⟨fieldName key, classReference (nestedNamespace site.ns) (fieldClass parent key),
          none, none⟩
        planned (shapeSteps (fieldClass parent key) (site.nested key) inner) := by
  rw [traverseContent, innerAsSteps.shape]
  exact andThen_outcome_ok planned _ _ _

/-- A collection is planned behind its element, and the field refers to the collection class. -/
theorem collectionContent (parent key : String) (site : Site) (planned : List Artifact) :
    traverseContent parent site key planned (.collection inner) =
      outcome
        ⟨fieldName key,
          classReference (nestedNamespace site.ns) (collectionClass (fieldClass parent key)),
          none, none⟩
        planned (shapeSteps (fieldClass parent key) (site.element key) inner ++
          collectionSteps (fieldClass parent key) (site.element key)) := by
  rw [traverseContent, innerAsSteps.shape]
  apply andThen_outcome
  intro classes
  rw [traverseCollection_eq]
  exact andThen_outcome_ok classes _ _ _

end TraversedAsSteps

/-- The traversal of some fields leaves what their steps leave, at every depth. -/
theorem traversedAsSteps (fields : Fields) : TraversedAsSteps fields := by
  induction fields using Content.fieldsInduction with
  | nil =>
      intro parent site planned known
      rw [traverseFields, fieldSteps_nil]
      rfl
  | value key type default required fields ih =>
      intro parent site planned known
      rw [traverseFields, traverseContent, fieldSteps_value]
      exact ih parent site planned _
  | malformed key place problem fields ih =>
      intro parent site planned known
      rw [traverseFields, traverseContent, fieldSteps_malformed]
      rfl
  | shape key inner fields innerIH fieldsIH =>
      intro parent site planned known
      rw [traverseFields, fieldSteps_shape, innerIH.shapeContent]
      exact andThen_outcome planned fun classes => fieldsIH parent site classes _
  | collection key inner fields innerIH fieldsIH =>
      intro parent site planned known
      rw [traverseFields, fieldSteps_collection, ← List.append_assoc, innerIH.collectionContent]
      exact andThen_outcome planned fun classes => fieldsIH parent site classes _

/-- The fields of a class are planned in one traversal of its entries. -/
theorem addFields_eq_traverse
    (planned : List Artifact) (name : String) (site : Site) (entries : Entries) :
    addFields planned name site entries =
      traverseFields name site planned [] (Content.ofEntries entries) :=
  (traversedAsSteps _ name site planned []).symm

/-- A part of a document is planned as its steps say. -/
theorem traversePart_eq
    (document ns : String) (pointer : Pointer) (planned : List Artifact) (part : Part) :
    traversePart document ns pointer planned part =
      outcome () planned (partSteps document ns pointer part) := by
  cases part with
  | shape place ending fields =>
      exact (traversedAsSteps fields).shape _ _ planned
  | malformed place problem => rfl

/-- A document is planned in one traversal of its parts. -/
theorem addDocument_eq_traverse
    (planned : List Artifact) (document ns : String) (pointer : Pointer) (node : Node) :
    addDocument planned document ns pointer node =
      traverseDocument document ns pointer planned node :=
  (traverse_eq planned (traversePart_eq document ns pointer) _).symm

/-- A schema is planned in one traversal of its documents, from nothing. -/
theorem ofSchema_eq_traverse (schema : Schema) (ns : String) :
    ofSchema schema ns =
      (traverseSchema schema ns).2.map fun _ => (traverseSchema schema ns).1 := by
  have reached : traverseSchema schema ns = outcome () [] (schemaSteps schema ns) :=
    traverse_eq [] (fun planned entry => (addDocument_eq_traverse planned _ _ _ entry.2).symm) _
  rw [reached, outcome, ofSchema]
  rcases perform [] (schemaSteps schema ns) with ⟨classes, _ | error⟩ <;> rfl

end ApiShapes.Plan
