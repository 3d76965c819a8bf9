import ApiShapes.Proofs.Plan.Properties
import ApiShapes.Proofs.Plan.Uniqueness

/-!
# What the shapes of a plan are made of

Every shape of a plan is made of the entries of one map of the schema: of the sections of a request,
of the body of a response, of a map nested in these, or of the element of a list or of a positional
map.  `Describes` says which entries those are, by looking at the nodes of the schema alone.  Main
statements: entries that describe a shape have the steps for it, in one piece, in the outline of the
schema, and every shape that the outline emits is described by some entries.
-/

namespace ApiShapes

/-- The entries of a schema that describe the shape `name` in the namespace `ns` below `root`. -/
inductive Describes (schema : Schema) (root : String) : String → String → Entries → Prop where
  | request {document : String} {node : Node} {entries : Entries}
      (isDocument : (document, node) ∈ schema.documents)
      (isRequest : node.present? "request" = some (.map entries)) :
      Describes schema root root (documentClass document ++ "Request")
        (entries.filter (·.1 ∈ Part.requestSections))
  | response {document status : String} {node : Node} {statuses entries : Entries}
      (isDocument : (document, node) ∈ schema.documents)
      (isResponse : node.present? "response" = some (.map statuses))
      (isStatus : (status, .map entries) ∈ statuses) :
      Describes schema root root (documentClass document ++ ("Response" ++ status)) entries
  | shape {ns name key : String} {node : Node} {entries inner : Entries}
      (outer : Describes schema root ns name entries)
      (isEntry : (key, node) ∈ entries)
      (isShape : node.ShapeEntries inner) :
      Describes schema root (nestedNamespace ns) (fieldClass name key) inner
  | element {ns name key : String} {node : Node} {entries inner : Entries}
      (outer : Describes schema root ns name entries)
      (isEntry : (key, node) ∈ entries)
      (isElement : node.ElementEntries inner) :
      Describes schema root (nestedNamespace ns) (fieldClass name key) inner

namespace Plan

/-! ## From entries to steps -/

/-- What a part of some steps emits stands together among what they all emit. -/
theorem emitted_within {part steps : List Step} (within : part <:+: steps) :
    emitted part <:+: emitted steps := by
  rcases within with ⟨before, after, rfl⟩
  exact ⟨emitted before, emitted after, by rw [emitted_append, emitted_append]⟩

/-- If some steps have no rejection among them, no part of them has. -/
theorem accepted_within
    {part steps : List Step} {classes : List Artifact}
    (within : part <:+: steps) (success : accepted steps = some classes) :
    ∃ partClasses, accepted part = some partClasses := by
  rcases within with ⟨before, after, rfl⟩
  simp only [accepted_append, Option.bind_eq_some_iff, Option.map_eq_some_iff] at success
  rcases success with ⟨_, ⟨_, -, partClasses, isAccepted, -⟩, -⟩
  exact ⟨partClasses, isAccepted⟩

/-- The steps for a field stand together among those for all the fields. -/
theorem contentSteps_within
    {parent key : String} {site : Site} {content : Content} {fields : Fields}
    (member : (key, content) ∈ fields) :
    contentSteps parent site key content <:+: fieldSteps parent site fields := by
  induction fields with
  | nil => cases member
  | cons first others ih =>
      rw [fieldSteps]
      rcases List.mem_cons.mp member with rfl | later
      · exact List.infix_append_left
      · exact List.infix_append_of_infix_right (ih later)

theorem fieldSteps_within (name : String) (site : Site) (fields : Fields) :
    fieldSteps name site fields <:+: shapeSteps name site fields :=
  List.infix_cons List.infix_append_left

theorem flatMap_within
    {α : Type} {item : α} {items : List α} {steps : α → List Step} {part : List Step}
    (member : item ∈ items) (isPart : steps item = part) :
    part <:+: items.flatMap steps := by
  rw [List.flatMap_def, ← isPart]
  exact List.infix_of_mem_flatten (List.mem_map_of_mem member)

/-- The steps for a part stand together in the outline of its schema. -/
theorem partSteps_within
    {schema : Schema} {root document : String} {node : Node} {part : Part}
    (isDocument : (document, node) ∈ schema.documents)
    (isPart : part ∈ Part.ofDocument node) :
    partSteps document root (Pointer.root.child document) part <:+: schemaSteps schema root := by
  have inDocument :
      partSteps document root (Pointer.root.child document) part <:+:
        documentSteps document root (Pointer.root.child document) node :=
    flatMap_within isPart rfl
  exact inDocument.trans (flatMap_within isDocument rfl)

/-- If the steps for fields have no rejection among them, no field is malformed. -/
theorem wellFormed_of_accepted
    {parent : String} {site : Site} {entries : Entries} {classes : List Artifact}
    (success : accepted (fieldSteps parent site (Content.ofEntries entries)) = some classes) :
    ∀ entry ∈ entries, ¬ (Content.ofNode entry.2).IsMalformed := by
  rintro ⟨key, node⟩ member isMalformed
  have inFields := Content.mem_ofEntries.mpr ⟨node, member, rfl⟩
  rcases accepted_within (contentSteps_within inFields) success with ⟨_, isAccepted⟩
  cases reading : Content.ofNode node with
  | malformed place problem => simp [reading, contentSteps, accepted] at isAccepted
  | _ => simp [reading, Content.IsMalformed] at isMalformed

end Plan

open Plan

/-- Entries that describe a shape have the steps for it in the outline of the schema. -/
theorem Describes.steps
    {schema : Schema} {root ns name : String} {entries : Entries}
    (describes : Describes schema root ns name entries) :
    ∃ site : Site, site.ns = ns ∧
      shapeSteps name site (Content.ofEntries entries) <:+: schemaSteps schema root := by
  induction describes with
  | request isDocument isRequest =>
      refine ⟨_, ?_, partSteps_within isDocument (Part.shape_mem_ofDocument.mpr
        (.inl ⟨_, isRequest, rfl, rfl, rfl⟩))⟩
      rfl
  | response isDocument isResponse isStatus =>
      refine ⟨_, ?_, partSteps_within isDocument (Part.shape_mem_ofDocument.mpr
        (.inr ⟨_, _, _, isResponse, isStatus, rfl, rfl, rfl⟩))⟩
      rfl
  | @shape ns name key node entries inner outer isEntry isShape ih =>
      rcases ih with ⟨site, rfl, within⟩
      have reading := Content.ofNode_eq_shape.mpr ⟨inner, isShape, rfl⟩
      have isField := Content.mem_ofEntries.mpr ⟨node, isEntry, reading⟩
      refine ⟨site.nested key, rfl, .trans ?_
        ((contentSteps_within isField).trans ((fieldSteps_within name site _).trans within))⟩
      rw [contentSteps]
      exact List.infix_rfl
  | @element ns name key node entries inner outer isEntry isElement ih =>
      rcases ih with ⟨site, rfl, within⟩
      have reading := Content.ofNode_eq_collection.mpr ⟨inner, isElement, rfl⟩
      have isField := Content.mem_ofEntries.mpr ⟨node, isEntry, reading⟩
      refine ⟨site.element key, rfl, .trans ?_
        ((contentSteps_within isField).trans ((fieldSteps_within name site _).trans within))⟩
      rw [contentSteps]
      exact List.infix_append_left

namespace Plan

/-! ## From classes to entries -/

/--
Every shape that the steps for fields emit is described by entries that are nested in those of the
fields.  The induction keeps the fields that are still to come among them.
-/
theorem fieldSteps_described
    {schema : Schema} {root : String} (fields : Fields) {name : String} {site : Site}
    {entries : Entries}
    (outer : Describes schema root site.ns name entries)
    (fromEntries : fields ⊆ Content.ofEntries entries) :
    ∀ shape, .shape shape ∈ emitted (fieldSteps name site fields) →
      ∃ inner, Describes schema root shape.ns shape.name inner := by
  induction fields using Content.fieldsInduction generalizing name site entries with
  | nil =>
      intro shape member
      simp [emitted] at member
  | value key type default required fields ih =>
      rw [fieldSteps_value]
      exact ih outer (List.cons_subset.mp fromEntries).2
  | malformed key place problem fields ih =>
      rw [fieldSteps_malformed, emitted]
      exact ih outer (List.cons_subset.mp fromEntries).2
  | shape key inner fields innerIH fieldsIH =>
      rcases List.cons_subset.mp fromEntries with ⟨isField, others⟩
      rcases Content.mem_ofEntries.mp isField with ⟨node, isEntry, reading⟩
      rcases Content.ofNode_eq_shape.mp reading with ⟨innerEntries, isShape, rfl⟩
      have described : Describes schema root (site.nested key).ns (fieldClass name key)
          innerEntries :=
        outer.shape isEntry isShape
      intro shape member
      simp only [fieldSteps_shape, emitted_append, emitted_shapeSteps,
        List.mem_append, List.mem_singleton] at member
      rcases member with (nested | isSelf) | later
      · exact innerIH described (List.Subset.refl _) shape nested
      · obtain rfl := Artifact.shape.inj isSelf
        exact ⟨innerEntries, described⟩
      · exact fieldsIH outer others shape later
  | collection key inner fields innerIH fieldsIH =>
      rcases List.cons_subset.mp fromEntries with ⟨isField, others⟩
      rcases Content.mem_ofEntries.mp isField with ⟨node, isEntry, reading⟩
      rcases Content.ofNode_eq_collection.mp reading with ⟨innerEntries, isElement, rfl⟩
      have described : Describes schema root (site.element key).ns (fieldClass name key)
          innerEntries :=
        outer.element isEntry isElement
      intro shape member
      simp only [fieldSteps_collection, emitted_append, emitted_shapeSteps,
        emitted_collectionSteps, List.mem_append, List.mem_singleton] at member
      rcases member with (nested | isSelf) | isWrapper | later
      · exact innerIH described (List.Subset.refl _) shape nested
      · obtain rfl := Artifact.shape.inj isSelf
        exact ⟨innerEntries, described⟩
      · cases isWrapper
      · exact fieldsIH outer others shape later

/-- The fields of a part come from entries that describe its shape. -/
theorem describes_part
    {schema : Schema} {document : String} {node : Node} {place : List String} {ending : String}
    {fields : Fields}
    (isDocument : (document, node) ∈ schema.documents)
    (isPart : .shape place ending fields ∈ Part.ofDocument node) (root : String) :
    ∃ entries, Describes schema root root (documentClass document ++ ending) entries ∧
      fields = Content.ofEntries entries := by
  rcases Part.shape_mem_ofDocument.mp isPart with
    ⟨entries, isRequest, -, rfl, rfl⟩ |
    ⟨statuses, status, entries, isResponse, isStatus, -, rfl, rfl⟩
  · exact ⟨_, .request isDocument isRequest, rfl⟩
  · exact ⟨entries, .response isDocument isResponse isStatus, rfl⟩

/-- Every shape that the outline of a schema emits is described by some of its entries. -/
theorem schemaSteps_described
    {schema : Schema} {root : String} {shape : Shape}
    (member : .shape shape ∈ emitted (schemaSteps schema root)) :
    ∃ entries, Describes schema root shape.ns shape.name entries := by
  simp only [emitted_schemaSteps, List.mem_flatMap] at member
  rcases member with ⟨⟨document, node⟩, isDocument, part, isPart, inPart⟩
  cases part with
  | malformed place problem => simp [partSteps, emitted] at inPart
  | shape place ending fields =>
      rcases describes_part isDocument isPart root with ⟨entries, described, rfl⟩
      rw [partSteps, emitted_shapeSteps, List.mem_append, List.mem_singleton] at inPart
      rcases inPart with nested | isSelf
      · exact fieldSteps_described _ described (List.Subset.refl _) shape nested
      · obtain rfl := Artifact.shape.inj isSelf
        exact ⟨entries, described⟩

end Plan

end ApiShapes
