import ApiShapes.Proofs.Plan.Layout
import Mathlib.Data.List.Forall2

/-!
# The root namespace is a label

A schema can be planned in any namespace, also in an empty one or in one that ends like a namespace
of nested classes.  The namespace takes part in the test for names that are taken, but two nested
namespaces of one root agree exactly if they are equally deep, so the test comes out the same in
every root namespace.  `Artifact.Alike` says that two classes differ in the root namespace alone.
Main statement: in two namespaces a schema has plans that are alike class by class, or it fails in
both at the same place and for the same reason.
-/

namespace ApiShapes

open scoped Relator

variable {left right : String}

/-- Two references are one text, or they mean a class equally deep below the two namespaces. -/
def ReferencesAlike (left right first second : String) : Prop :=
  first = second ∨ ∃ depth className,
    first = classReference (namespaceBelow left depth) className ∧
      second = classReference (namespaceBelow right depth) className

/-- Two properties differ at most in the root namespace of the class that they refer to. -/
structure Property.Alike (left right : String) (first second : Property) : Prop where
  name_eq : first.name = second.name
  default_eq : first.default = second.default
  required_eq : first.required = second.required
  type_alike : ReferencesAlike left right first.type second.type

/-- Two classes are of one kind, lie equally deep and differ in the root namespace alone. -/
inductive Artifact.Alike (left right : String) : Artifact → Artifact → Prop where
  | shape {name : String} {dir : Path} {first second : List Property} (depth : Nat)
      (properties : List.Forall₂ (Property.Alike left right) first second) :
      Alike left right (.shape ⟨name, namespaceBelow left depth, dir, first⟩)
        (.shape ⟨name, namespaceBelow right depth, dir, second⟩)
  | collection {name first second : String} {dir : Path} (depth : Nat)
      (elements : ReferencesAlike left right first second) :
      Alike left right (.collection ⟨name, first, namespaceBelow left depth, dir⟩)
        (.collection ⟨name, second, namespaceBelow right depth, dir⟩)

/-- Two problems are one, or a class equally deep below the two namespaces has a taken name. -/
def SchemaProblem.Alike (left right : String) (first second : SchemaProblem) : Prop :=
  first = second ∨ ∃ depth className,
    first = .duplicateClass (namespaceBelow left depth) className ∧
      second = .duplicateClass (namespaceBelow right depth) className

/-- Two errors report problems that are alike at one place. -/
inductive Error.Alike (left right : String) : Error → Error → Prop where
  | invalidSchema {first second : SchemaProblem} (place : String)
      (problems : first.Alike left right second) :
      Alike left right (.invalidSchema place first) (.invalidSchema place second)

/-- Two steps differ in the root namespace alone. -/
inductive Step.Alike (left right : String) : Step → Step → Prop where
  | reserve (depth : Nat) (className : String) (pointer : Pointer) :
      Alike left right (.reserve (namespaceBelow left depth) className pointer)
        (.reserve (namespaceBelow right depth) className pointer)
  | emit {first second : Artifact} (classes : first.Alike left right second) :
      Alike left right (.emit first) (.emit second)
  | reject (pointer : Pointer) (problem : SchemaProblem) :
      Alike left right (.reject pointer problem) (.reject pointer problem)

/-- Properties that are alike are inserted alike, since their names are the same. -/
theorem Property.insert_alike
    {first second : Property} (alike : first.Alike left right second)
    {known others : List Property}
    (knownAlike : List.Forall₂ (Property.Alike left right) known others) :
    List.Forall₂ (Property.Alike left right) (first.insert known) (second.insert others) := by
  induction knownAlike with
  | nil => exact .cons alike .nil
  | @cons old other rest otherRest oldAlike restAlike ih =>
      simp only [Property.insert, oldAlike.name_eq, alike.name_eq]
      split
      · exact .cons alike restAlike
      · exact .cons oldAlike ih

namespace Plan

/-! ## The outlines in two namespaces -/

/-- The property of a field, in classes equally deep below the two namespaces. -/
theorem property?_alike (parent key : String) (content : Content) (depth : Nat) :
    Option.Rel (Property.Alike left right)
      (property? parent (namespaceBelow left depth) key content)
      (property? parent (namespaceBelow right depth) key content) := by
  have reference (className : String) :
      ReferencesAlike left right
        (classReference (nestedNamespace (namespaceBelow left depth)) className)
        (classReference (nestedNamespace (namespaceBelow right depth)) className) := by
    rw [nestedNamespace_below, nestedNamespace_below]
    exact .inr ⟨depth + 1, className, rfl, rfl⟩
  cases content with
  | value type default required => exact .some ⟨rfl, rfl, rfl, .inl rfl⟩
  | shape fields => exact .some ⟨rfl, rfl, rfl, reference _⟩
  | collection fields => exact .some ⟨rfl, rfl, rfl, reference _⟩
  | malformed place problem => exact .none

/-- The same fields below two namespaces have properties that are alike. -/
theorem properties_alike (parent : String) (fields : Fields) (depth : Nat) :
    List.Forall₂ (Property.Alike left right)
      (properties parent (namespaceBelow left depth) fields)
      (properties parent (namespaceBelow right depth) fields) := by
  have inserted : (List.Forall₂ (Property.Alike left right) ⇒ Property.Alike left right ⇒
      List.Forall₂ (Property.Alike left right))
        (fun known property => property.insert known)
        (fun known property => property.insert known) :=
    fun _ _ known _ _ alike => Property.insert_alike alike known
  refine List.rel_foldl inserted .nil (List.rel_filterMap ?_ (@List.forall₂_refl _ Eq _ fields))
  rintro ⟨key, content⟩ _ rfl
  exact property?_alike parent key content depth

section Steps

variable (dir : Path) (depth : Nat) (pointer : Pointer)

/-- The steps for a shape are alike if those for its fields are. -/
theorem shapeSteps_alike
    {name : String} {fields : Fields}
    (inner : List.Forall₂ (Step.Alike left right)
      (fieldSteps name ⟨namespaceBelow left depth, dir, pointer⟩ fields)
      (fieldSteps name ⟨namespaceBelow right depth, dir, pointer⟩ fields)) :
    List.Forall₂ (Step.Alike left right)
      (shapeSteps name ⟨namespaceBelow left depth, dir, pointer⟩ fields)
      (shapeSteps name ⟨namespaceBelow right depth, dir, pointer⟩ fields) := by
  refine .cons (.reserve depth name pointer) (List.rel_append inner (.cons (.emit ?_) .nil))
  exact .shape depth (properties_alike name fields depth)

theorem collectionSteps_alike (element : String) :
    List.Forall₂ (Step.Alike left right)
      (collectionSteps element ⟨namespaceBelow left depth, dir, pointer⟩)
      (collectionSteps element ⟨namespaceBelow right depth, dir, pointer⟩) := by
  refine .cons (.reserve depth _ pointer) (.cons (.emit ?_) .nil)
  exact .collection depth (.inr ⟨depth, element, rfl, rfl⟩)

/-- The same fields below two namespaces have steps that are alike, at every depth. -/
theorem fieldSteps_alike (fields : Fields) (parent : String) :
    List.Forall₂ (Step.Alike left right)
      (fieldSteps parent ⟨namespaceBelow left depth, dir, pointer⟩ fields)
      (fieldSteps parent ⟨namespaceBelow right depth, dir, pointer⟩ fields) := by
  induction fields using Content.fieldsInduction generalizing parent dir depth pointer with
  | nil =>
      rw [fieldSteps_nil, fieldSteps_nil]
      exact .nil
  | value key type default required fields ih =>
      rw [fieldSteps_value, fieldSteps_value]
      exact ih dir depth pointer parent
  | malformed key place problem fields ih =>
      rw [fieldSteps_malformed, fieldSteps_malformed]
      exact .cons (.reject _ problem) (ih dir depth pointer parent)
  | shape key inner fields innerIH fieldsIH =>
      simp only [fieldSteps_shape, Site.nested, nestedNamespace_below]
      apply List.rel_append
      · exact shapeSteps_alike _ _ _ (innerIH _ _ _ _)
      · exact fieldsIH dir depth pointer parent
  | collection key inner fields innerIH fieldsIH =>
      simp only [fieldSteps_collection, Site.element, nestedNamespace_below]
      apply List.rel_append
      · exact shapeSteps_alike _ _ _ (innerIH _ _ _ _)
      · exact List.rel_append (collectionSteps_alike _ _ _ _) (fieldsIH dir depth pointer parent)

end Steps

/-- The same part below two namespaces has steps that are alike. -/
theorem partSteps_alike (document : String) (pointer : Pointer) (part : Part) :
    List.Forall₂ (Step.Alike left right)
      (partSteps document left pointer part) (partSteps document right pointer part) := by
  cases part with
  | malformed place problem => exact .cons (.reject _ problem) .nil
  | shape place ending fields => exact shapeSteps_alike _ 0 _ (fieldSteps_alike _ 0 _ fields _)

/-- The same schema below two namespaces has steps that are alike. -/
theorem schemaSteps_alike (schema : Schema) (left right : String) :
    List.Forall₂ (Step.Alike left right) (schemaSteps schema left) (schemaSteps schema right) := by
  refine List.rel_flatMap (@List.forall₂_refl _ Eq _ schema.documents) ?_
  rintro ⟨document, node⟩ _ rfl
  refine List.rel_flatMap (@List.forall₂_refl _ Eq _ (Part.ofDocument node)) ?_
  rintro part _ rfl
  exact partSteps_alike document (Pointer.root.child document) part

/-! ## Carrying them out -/

/--
A name is taken in both namespaces or in none, as namespaces below one root are told apart by their
depth.
-/
theorem isTaken_alike
    {planned others : List Artifact}
    (alike : List.Forall₂ (Artifact.Alike left right) planned others)
    (depth : Nat) (className : String) :
    isTaken planned (namespaceBelow left depth) className =
      isTaken others (namespaceBelow right depth) className := by
  induction alike with
  | nil => rfl
  | cons first rest ih =>
      rw [isTaken, isTaken, List.any_cons, List.any_cons, ← isTaken, ← isTaken, ih]
      cases first <;> simp only [Artifact.ns, Artifact.name, namespaceBelow_inj]

/-- Steps that are alike, carried out behind plans that are alike, come to the same. -/
theorem perform_alike
    {steps otherSteps : List Step}
    (stepsAlike : List.Forall₂ (Step.Alike left right) steps otherSteps)
    {planned others : List Artifact}
    (plannedAlike : List.Forall₂ (Artifact.Alike left right) planned others) :
    List.Forall₂ (Artifact.Alike left right)
        (perform planned steps).1 (perform others otherSteps).1 ∧
      Option.Rel (Error.Alike left right)
        (perform planned steps).2 (perform others otherSteps).2 := by
  induction stepsAlike generalizing planned others with
  | nil => exact ⟨plannedAlike, .none⟩
  | cons first rest ih =>
      cases first with
      | reserve depth className pointer =>
          rw [perform, perform, isTaken_alike plannedAlike]
          split
          · have problems : SchemaProblem.Alike left right _ _ := .inr ⟨depth, className, rfl, rfl⟩
            exact ⟨plannedAlike, .some (.invalidSchema _ problems)⟩
          · exact ih plannedAlike
      | emit classes => exact ih (List.rel_append plannedAlike (.cons classes .nil))
      | reject pointer problem => exact ⟨plannedAlike, .some (.invalidSchema _ (.inl rfl))⟩

/--
The root namespace is only a label.  In any two namespaces a schema either fails at the same place,
for one reason up to the namespace, or it has plans of one length whose classes agree position by
position: in kind, name and directory, in the names, defaults and required flags of properties, and
in how deep they lie; and two references that stand in the same place are one text or mean the same
class equally deep below the two namespaces.
-/
theorem plans_alike (schema : Schema) (left right : String) :
    (∃ place first second,
      ofSchema schema left = .error (.invalidSchema place first) ∧
        ofSchema schema right = .error (.invalidSchema place second) ∧
        first.Alike left right second) ∨
    ∃ first second,
      ofSchema schema left = .ok first ∧ ofSchema schema right = .ok second ∧
        List.Forall₂ (Artifact.Alike left right) first second := by
  have run := perform_alike (schemaSteps_alike schema left right) .nil
  rw [ofSchema, ofSchema]
  generalize perform [] (schemaSteps schema left) = leftRun at run
  generalize perform [] (schemaSteps schema right) = rightRun at run
  rcases leftRun with ⟨first, leftError⟩
  rcases rightRun with ⟨second, rightError⟩
  rcases run with ⟨classesAlike, errorsAlike⟩
  cases errorsAlike with
  | none => exact .inr ⟨first, second, rfl, rfl, classesAlike⟩
  | some errors =>
      cases errors with
      | invalidSchema place problems => exact .inl ⟨place, _, _, rfl, rfl, problems⟩

end Plan

end ApiShapes
