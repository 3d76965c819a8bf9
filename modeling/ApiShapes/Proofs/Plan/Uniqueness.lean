import ApiShapes.Proofs.Plan.Layout

/-!
# One test for all names

A name is tested before the classes nested in its shape are planned, and the shape joins the plan
behind them; the name of a collection is tested behind its element.  Since nothing nested in a shape
lies in its namespace, no test can miss a class that is planned between it and its own class.  Main
statement: a schema has a plan exactly if its outline rejects no node and emits no two classes of
one name in one namespace.
-/

namespace ApiShapes.Plan

/--
The name of a shape is tested before its fields are planned and its class joins behind them.
Nothing nested in a shape has its namespace.
-/
theorem shapeSteps_checked
    {name : String} {site : Site} {fields : Fields}
    (inner : Checked (fieldSteps name site fields)) :
    Checked (shapeSteps name site fields) := by
  refine .guarded (shapeArtifact name site fields) site.pointer inner ?_
  intro artifact member same
  rcases fieldSteps_layout fields name site artifact member with ⟨⟨depth, below⟩, -⟩
  exact namespaceBelow_succ_ne site.ns depth (below.ns_eq.symm.trans same.1)

/-- Nothing is planned between the test of the name of a collection and its class. -/
theorem collectionSteps_checked (element : String) (site : Site) :
    Checked (collectionSteps element site) :=
  .guarded (collectionArtifact element site) site.pointer .nil (by simp [emitted])

/-- The names of all classes that fields make are tested in time, at every depth. -/
theorem fieldSteps_checked
    (fields : Fields) (parent : String) (site : Site) :
    Checked (fieldSteps parent site fields) := by
  induction fields using Content.fieldsInduction generalizing parent site with
  | nil =>
      rw [fieldSteps_nil]
      exact .nil
  | value key type default required fields ih =>
      rw [fieldSteps_value]
      exact ih parent site
  | malformed key place problem fields ih =>
      rw [fieldSteps_malformed]
      exact .reject _ _ _
  | shape key inner fields innerIH fieldsIH =>
      rw [fieldSteps_shape]
      exact (shapeSteps_checked (innerIH _ _)).append (fieldsIH parent site)
  | collection key inner fields innerIH fieldsIH =>
      rw [fieldSteps_collection]
      exact (shapeSteps_checked (innerIH _ _)).append
        ((collectionSteps_checked _ _).append (fieldsIH parent site))

theorem partSteps_checked (document ns : String) (pointer : Pointer) (part : Part) :
    Checked (partSteps document ns pointer part) := by
  cases part with
  | malformed place problem => exact .reject _ _ _
  | shape place ending fields => exact shapeSteps_checked (fieldSteps_checked _ _ _)

theorem documentSteps_checked (document ns : String) (pointer : Pointer) (node : Node) :
    Checked (documentSteps document ns pointer node) :=
  .flatMap fun part => partSteps_checked document ns pointer part

/-- The names of all classes that a schema makes are tested in time. -/
theorem schemaSteps_checked (schema : Schema) (ns : String) :
    Checked (schemaSteps schema ns) :=
  .flatMap fun (document, node) => documentSteps_checked document ns _ node

/-- A plan is what an outline emits that rejects nothing and repeats no class. -/
theorem ofSchema_eq_ok_iff_accepted
    {schema : Schema} {ns : String} {classes : List Artifact} :
    ofSchema schema ns = .ok classes ↔
      accepted (schemaSteps schema ns) = some classes ∧
        classes.Pairwise (fun left right => ¬ left.SameClass right) := by
  rw [ofSchema_eq_ok, (schemaSteps_checked schema ns).faithful [] classes]
  constructor
  · rintro ⟨added, isAccepted, rfl, apart, -⟩
    exact ⟨isAccepted, apart⟩
  · rintro ⟨isAccepted, apart⟩
    exact ⟨classes, isAccepted, rfl, apart, by simp⟩

end ApiShapes.Plan
