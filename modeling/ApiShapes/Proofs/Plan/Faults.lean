import ApiShapes.Proofs.Plan.Outline
import ApiShapes.Proofs.Schema.Faults

/-!
# Where the work on a plan fails

Work on a plan fails when a name is taken or a node is rejected, and the error carries the pointer
that the step was given.  The pointers are put together on the way into the schema, one segment at a
time, and the node that is worked on is kept in step with them.  Main statement: the place in the
error of a schema leads, read as a pointer into the documents, to the node that the error is about.
-/

namespace ApiShapes

/-- Where and why a step fails, if it fails. -/
def Step.fault? : Step → Option (Pointer × SchemaProblem)
  | .reserve ns className pointer => some (pointer, .duplicateClass ns className)
  | .emit _ => none
  | .reject pointer problem => some (pointer, problem)

/-- Should the step fail, then at a node of the schema `root` of which its problem holds. -/
def Step.PointsInto (root : Node) (step : Step) : Prop :=
  ∀ pointer problem, step.fault? = some (pointer, problem) →
    ∃ node, root.follow? pointer.segments = some node ∧ problem.HoldsOf node

/-- The nodes of some entries are found below a pointer, and no map in them has a key twice. -/
structure Node.Reaches (root : Node) (pointer : Pointer) (entries : Entries) : Prop where
  found : ∀ entry ∈ entries, root.follow? (pointer.child entry.1).segments = some entry.2
  distinct : ∀ entry ∈ entries, entry.2.hasDistinctKeys = true

namespace Node.Reaches

variable {root : Node} {pointer : Pointer} {entries inner : Entries}

/-- The entries of a map are found below its place. -/
theorem ofMap
    (atPointer : root.follow? pointer.segments = some (.map entries))
    (distinct : (Node.map entries).hasDistinctKeys = true) :
    root.Reaches pointer entries where
  found := by
    intro entry member
    exact (follow?_within atPointer [entry.1]).trans (follow?_of_mem distinct member)
  distinct _ member := distinct_of_mem distinct member

theorem subset (reaches : root.Reaches pointer entries) (fewer : inner ⊆ entries) :
    root.Reaches pointer inner where
  found entry member := reaches.found entry (fewer member)
  distinct entry member := reaches.distinct entry (fewer member)

/-- The fields of a nested shape are reached through the node that describes it. -/
theorem shape
    {key : String} {node : Node}
    (reaches : root.Reaches pointer entries) (isEntry : (key, node) ∈ entries)
    (isShape : node.ShapeEntries inner) :
    root.Reaches (pointer.child key) inner := by
  have atNode := reaches.found _ isEntry
  have distinct := reaches.distinct _ isEntry
  cases isShape with
  | map notExplicit notPositional => exact .ofMap atNode distinct
  | emptyList => exact ⟨by simp, by simp⟩

/-- The element that describes a collection is found at the position zero. -/
theorem element
    {key : String} {node : Node}
    (reaches : root.Reaches pointer entries) (isEntry : (key, node) ∈ entries)
    (isElement : node.ElementEntries inner) :
    root.follow? ((pointer.child key).child Content.elementKey).segments = some (.map inner) ∧
      (Node.map inner).hasDistinctKeys = true := by
  have atNode := reaches.found _ isEntry
  have distinct := reaches.distinct _ isEntry
  cases isElement with
  | map notExplicit positional =>
      exact ⟨(follow?_within atNode _).trans (follow?_of_present? positional),
        distinct_of_present? distinct positional⟩
  | list =>
      rw [hasDistinctKeys, itemsHaveDistinctKeys_iff] at distinct
      exact ⟨(follow?_within atNode _).trans (follow?_first _ _),
        distinct _ List.mem_cons_self⟩

end Node.Reaches

/-- What describes a shape is a map or an empty list. -/
theorem Node.ShapeEntries.canName
    {node : Node} {entries : Entries} (isShape : node.ShapeEntries entries) : node.CanName := by
  cases isShape with
  | map notExplicit notPositional => exact .inl ⟨entries, rfl⟩
  | emptyList => exact .inr rfl

namespace Plan

/-- A failed run ends at one of its steps. -/
theorem perform_error
    {planned classes : List Artifact} {steps : List Step} {error : Error}
    (failure : perform planned steps = (classes, some error)) :
    ∃ step ∈ steps, ∃ pointer problem,
      step.fault? = some (pointer, problem) ∧ error = .atPointer pointer problem := by
  induction steps generalizing planned with
  | nil => simp [perform] at failure
  | cons step steps ih =>
      have later (run : ∃ earlier, perform earlier steps = (classes, some error)) :
          ∃ step' ∈ step :: steps, ∃ pointer problem,
            step'.fault? = some (pointer, problem) ∧ error = .atPointer pointer problem := by
        rcases run with ⟨earlier, failed⟩
        rcases ih failed with ⟨other, member, isFault⟩
        exact ⟨other, List.mem_cons_of_mem step member, isFault⟩
      cases step with
      | reserve ns className pointer =>
          rw [perform] at failure
          split at failure
          · cases failure
            exact ⟨_, List.mem_cons_self, _, _, rfl, rfl⟩
          · exact later ⟨_, failure⟩
      | emit artifact => exact later ⟨_, failure⟩
      | reject pointer problem =>
          cases failure
          exact ⟨_, List.mem_cons_self, _, _, rfl, rfl⟩

variable {root : Node}

/-- A taken name is reported at the node that the class was to be made of. -/
theorem reserve_pointsInto
    {ns className : String} {pointer : Pointer} {node : Node}
    (atPointer : root.follow? pointer.segments = some node) (canName : node.CanName) :
    (Step.reserve ns className pointer).PointsInto root := by
  intro other problem isFault
  cases isFault
  exact ⟨node, atPointer, .inr ⟨trivial, canName⟩⟩

theorem emit_pointsInto (artifact : Artifact) : (Step.emit artifact).PointsInto root := by
  intro pointer problem isFault
  cases isFault

/-- A rejection points to the node in which the kind was found. -/
theorem reject_pointsInto
    {pointer : Pointer} {place : List String} {problem : SchemaProblem} {node inner : Node}
    (atPointer : root.follow? pointer.segments = some node)
    (isFault : node.follow? place = some inner) (isKind : problem.found? = some inner.kind) :
    (Step.reject (pointer.append place) problem).PointsInto root := by
  intro other problem isStep
  cases isStep
  exact ⟨inner, (Node.follow?_within atPointer place).trans isFault, .inl isKind⟩

/-- All that can fail for a shape fails at its node or inside it. -/
theorem shapeSteps_pointInto
    {name : String} {site : Site} {fields : Fields} {node : Node}
    (atSite : root.follow? site.pointer.segments = some node) (canName : node.CanName)
    (inner : ∀ step ∈ fieldSteps name site fields, step.PointsInto root) :
    ∀ step ∈ shapeSteps name site fields, step.PointsInto root := by
  intro step member
  rcases List.mem_cons.mp member with rfl | later
  · exact reserve_pointsInto atSite canName
  · rcases List.mem_append.mp later with isInner | isLast
    · exact inner step isInner
    · rw [List.mem_singleton.mp isLast]
      exact emit_pointsInto _

/-- All that can fail for a collection fails at the node of its element. -/
theorem collectionSteps_pointInto
    {element : String} {site : Site} {node : Node}
    (atSite : root.follow? site.pointer.segments = some node) (canName : node.CanName) :
    ∀ step ∈ collectionSteps element site, step.PointsInto root := by
  intro step member
  rcases List.mem_cons.mp member with rfl | later
  · exact reserve_pointsInto atSite canName
  · rw [List.mem_singleton.mp later]
    exact emit_pointsInto _

/--
All that can fail for fields fails at the nodes that they come from.  The place of a step is the
place of the node whose entries the fields are.
-/
theorem fieldSteps_pointInto
    (fields : Fields) {parent : String} {site : Site} {entries : Entries}
    (reaches : root.Reaches site.pointer entries)
    (fromEntries : fields ⊆ Content.ofEntries entries) :
    ∀ step ∈ fieldSteps parent site fields, step.PointsInto root := by
  induction fields using Content.fieldsInduction generalizing parent site entries with
  | nil =>
      intro step member
      simp at member
  | value key type default required fields ih =>
      rw [fieldSteps_value]
      exact ih reaches (List.cons_subset.mp fromEntries).2
  | malformed key place problem fields ih =>
      rcases List.cons_subset.mp fromEntries with ⟨isField, others⟩
      rcases Content.mem_ofEntries.mp isField with ⟨node, isEntry, reading⟩
      rcases Content.ofNode_fault reading with ⟨inner, isFault, isKind⟩
      rw [fieldSteps_malformed, List.forall_mem_cons]
      exact ⟨reject_pointsInto (reaches.found _ isEntry) isFault isKind, ih reaches others⟩
  | shape key inner fields innerIH fieldsIH =>
      rcases List.cons_subset.mp fromEntries with ⟨isField, others⟩
      rcases Content.mem_ofEntries.mp isField with ⟨node, isEntry, reading⟩
      rcases Content.ofNode_eq_shape.mp reading with ⟨innerEntries, isShape, rfl⟩
      rw [fieldSteps_shape, List.forall_mem_append]
      constructor
      · apply shapeSteps_pointInto (reaches.found _ isEntry) isShape.canName
        exact innerIH (reaches.shape isEntry isShape) (List.Subset.refl _)
      · exact fieldsIH reaches others
  | collection key inner fields innerIH fieldsIH =>
      rcases List.cons_subset.mp fromEntries with ⟨isField, others⟩
      rcases Content.mem_ofEntries.mp isField with ⟨node, isEntry, reading⟩
      rcases Content.ofNode_eq_collection.mp reading with ⟨innerEntries, isElement, rfl⟩
      rcases reaches.element isEntry isElement with ⟨atElement, distinct⟩
      have canName : (Node.map innerEntries).CanName := .inl ⟨innerEntries, rfl⟩
      rw [fieldSteps_collection, List.forall_mem_append, List.forall_mem_append]
      refine ⟨?_, collectionSteps_pointInto atElement canName, fieldsIH reaches others⟩
      apply shapeSteps_pointInto atElement canName
      exact innerIH (.ofMap atElement distinct) (List.Subset.refl _)

/-- The fields of a part are entries of a map that is found at the place of the part. -/
theorem part_reaches
    {pointer : Pointer} {node : Node} {place : List String} {ending : String} {fields : Fields}
    (atPointer : root.follow? pointer.segments = some node)
    (distinct : node.hasDistinctKeys = true)
    (isPart : .shape place ending fields ∈ Part.ofDocument node) :
    ∃ outer entries, root.follow? (pointer.append place).segments = some (.map outer) ∧
      root.Reaches (pointer.append place) entries ∧ fields = Content.ofEntries entries := by
  rcases Part.shape_mem_ofDocument.mp isPart with
    ⟨entries, isRequest, rfl, -, rfl⟩ |
    ⟨statuses, status, entries, isResponse, isStatus, rfl, -, rfl⟩
  · have atRequest := (Node.follow?_within atPointer _).trans (Node.follow?_of_present? isRequest)
    have reaches := Node.Reaches.ofMap atRequest (Node.distinct_of_present? distinct isRequest)
    exact ⟨entries, _, atRequest, reaches.subset List.filter_sublist.subset, rfl⟩
  · have atResponse := (Node.follow?_within atPointer _).trans (Node.follow?_of_present? isResponse)
    have statusesReached :=
      Node.Reaches.ofMap atResponse (Node.distinct_of_present? distinct isResponse)
    have atStatus := statusesReached.found _ isStatus
    rw [Pointer.child, List.append_assoc] at atStatus
    exact ⟨entries, entries, atStatus, .ofMap atStatus (statusesReached.distinct _ isStatus), rfl⟩

/-- All that can fail for a schema fails at a node of it. -/
theorem schemaSteps_pointInto
    {schema : Schema} (distinct : (Node.map schema.documents).hasDistinctKeys = true)
    (ns : String) :
    ∀ step ∈ schemaSteps schema ns, step.PointsInto (.map schema.documents) := by
  intro step member
  simp only [schemaSteps, documentSteps, List.mem_flatMap] at member
  rcases member with ⟨⟨document, node⟩, isDocument, part, isPart, inPart⟩
  have documentsReached : (Node.map schema.documents).Reaches .root schema.documents :=
    .ofMap rfl distinct
  have atDocument := documentsReached.found _ isDocument
  have distinctDocument := documentsReached.distinct _ isDocument
  cases part with
  | malformed place problem =>
      rcases Part.fault_of_mem distinctDocument isPart with ⟨inner, isFault, isKind⟩
      rw [List.mem_singleton.mp inPart]
      exact reject_pointsInto atDocument isFault isKind
  | shape place ending fields =>
      rcases part_reaches atDocument distinctDocument isPart with
        ⟨outer, entries, atPart, reaches, rfl⟩
      refine shapeSteps_pointInto atPart (.inl ⟨outer, rfl⟩) ?_ step inPart
      exact fieldSteps_pointInto _ reaches (List.Subset.refl _)

/--
The error of a schema names the node that it is about.  In a schema whose documents have different
names and whose maps have different keys, the place in the error leads to a node.  A class with a
taken name was to be made of a map or of an empty list; its wording ends in that name, so how it
ends is left open.  Any other problem found a kind: the wording ends in the name of that kind and of
no other, and the node is of that kind.
-/
theorem error_names_node
    {schema : Schema} {ns : String} {error : Error}
    (distinct : (Node.map schema.documents).hasDistinctKeys = true)
    (failure : ofSchema schema ns = .error error) :
    ∃ place problem node,
      error = .invalidSchema place problem ∧
      (Node.map schema.documents).at? place = some node ∧
      (problem.IsDuplicate → node.CanName) ∧
      (¬ problem.IsDuplicate → ∀ kind : Kind,
        ("found " ++ kind.name).toList <:+ problem.message.toList ↔ kind = node.kind) := by
  obtain ⟨classes, run⟩ :
      ∃ classes, perform [] (schemaSteps schema ns) = (classes, some error) := by
    rw [ofSchema] at failure
    split at failure
    · cases failure
    · rename_i classes other run
      cases failure
      exact ⟨classes, run⟩
  rcases perform_error run with ⟨step, member, pointer, problem, isFault, rfl⟩
  rcases schemaSteps_pointInto distinct ns step member pointer problem isFault with
    ⟨node, atPointer, holds⟩
  refine ⟨pointer.text, problem, node, rfl, (Node.at?_text _ _).trans atPointer, ?_⟩
  rcases holds with isKind | ⟨isDuplicate, canName⟩
  · exact ⟨fun isDuplicate => absurd isDuplicate (SchemaProblem.not_isDuplicate_of_found? isKind),
      fun _ => SchemaProblem.message_endsIn_iff isKind⟩
  · exact ⟨fun _ => canName, fun notDuplicate => absurd isDuplicate notDuplicate⟩

/-- A schema with a list of integers, under keys that have to be escaped. -/
def faultySchema : Schema :=
  ⟨none, [("a/b", .map [("response", .map [("~1", .map [("", .list [.integer 5])])])])]⟩

set_option maxRecDepth 20000 in
theorem faulty_error_names_node :
    ofSchema faultySchema "App" =
        .error (.invalidSchema "/a~1b/response/~01//0" (.elementNotMap .integer)) ∧
      ∃ node, (Node.map faultySchema.documents).at? "/a~1b/response/~01//0" = some node ∧
        .integer = node.kind := by
  have failure : ofSchema faultySchema "App" =
      .error (.invalidSchema "/a~1b/response/~01//0" (.elementNotMap .integer)) := by
    rfl
  refine ⟨failure, ?_⟩
  rcases error_names_node (by decide) failure with
    ⟨place, problem, node, isError, atPlace, -, endsIn⟩
  cases isError
  refine ⟨node, atPlace, (endsIn id .integer).mp ?_⟩
  decide

/-- A schema of two documents with one class, for a status that is worded like a found kind. -/
def wordedSchema : Schema :=
  ⟨none,
    [("order", .map [("response", .map [("found string", .map [])])]),
      ("Order", .map [("response", .map [("found string", .map [])])])]⟩

set_option maxRecDepth 20000 in
/-- The wording of a taken name may end like that of a found kind, at a node of another kind. -/
theorem taken_name_ends_in_kind :
    (Node.map wordedSchema.documents).hasDistinctKeys = true ∧
      ∃ problem node,
        ofSchema wordedSchema "App" =
            .error (.invalidSchema "/Order/response/found string" problem) ∧
          (Node.map wordedSchema.documents).at? "/Order/response/found string" = some node ∧
          ("found " ++ Kind.string.name).toList <:+ problem.message.toList ∧
          node.kind ≠ .string := by
  refine ⟨by decide, .duplicateClass "App" "OrderDtoResponsefound string", .map [], ?_⟩
  refine ⟨by rfl, by rfl, by decide, by decide⟩

end Plan

end ApiShapes
