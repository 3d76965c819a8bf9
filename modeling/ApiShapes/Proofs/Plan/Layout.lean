import ApiShapes.Proofs.Plan.Outline

/-!
# Where the classes of a plan belong

Class files are found by their namespace, so namespace and directory of a class must go down
together: a class that is nested `depth` levels deep has the root namespace with `\Nested` behind it
and the root directory joined with `Nested`, both `depth` times.  The main statement says this of
everything that is ever added to a plan, also when the work on it fails half-way, and that a
collection class stands directly behind the shape it collects.  In the plan of a schema the classes
of depth zero are the shapes of requests and responses.
-/

namespace ApiShapes

/-- A namespace with `\Nested` behind it, `depth` times. -/
def namespaceBelow (ns : String) : Nat → String
  | 0 => ns
  | depth + 1 => namespaceBelow ns depth ++ "\\Nested"

/-- A directory joined with `Nested`, `depth` times. -/
def directoryBelow (dir : Path) : Nat → Path
  | 0 => dir
  | depth + 1 => (directoryBelow dir depth).join ⟨"Nested"⟩

/-- One level down and `depth` levels further are `depth + 1` levels. -/
theorem namespaceBelow_nested (ns : String) (depth : Nat) :
    namespaceBelow (nestedNamespace ns) depth = namespaceBelow ns (depth + 1) := by
  induction depth with
  | zero =>
      simp only [namespaceBelow, nestedNamespace, nestedSegment, String.append_assoc]
      rfl
  | succ depth ih => exact congrArg (· ++ "\\Nested") ih

theorem nestedNamespace_below (ns : String) (depth : Nat) :
    nestedNamespace (namespaceBelow ns depth) = namespaceBelow ns (depth + 1) :=
  namespaceBelow_nested (namespaceBelow ns depth) 0

/-- One directory down and `depth` directories further are `depth + 1` directories. -/
theorem directoryBelow_nested (dir : Path) (depth : Nat) :
    directoryBelow (dir.join ⟨nestedSegment⟩) depth = directoryBelow dir (depth + 1) := by
  induction depth with
  | zero => rfl
  | succ depth ih => exact congrArg (·.join ⟨"Nested"⟩) ih

/-- Every level adds the seven characters of its segment. -/
theorem namespaceBelow_length (ns : String) (depth : Nat) :
    (namespaceBelow ns depth).length = ns.length + 7 * depth := by
  induction depth with
  | zero => rfl
  | succ depth ih =>
      have segment : "\\Nested".length = 7 := by decide
      simp only [namespaceBelow, String.length_append, ih, segment]
      omega

/--
A namespace below another one gives away how deep it is, since it is longer the deeper it lies.
-/
theorem namespaceBelow_inj {ns : String} {left right : Nat} :
    namespaceBelow ns left = namespaceBelow ns right ↔ left = right := by
  constructor
  · intro equal
    have lengths := congrArg String.length equal
    simp only [namespaceBelow_length] at lengths
    omega
  · rintro rfl
    rfl

theorem namespaceBelow_eq_self {ns : String} {depth : Nat} :
    namespaceBelow ns depth = ns ↔ depth = 0 :=
  @namespaceBelow_inj ns depth 0

/-- No namespace below another one is that one. -/
theorem namespaceBelow_succ_ne (ns : String) (depth : Nat) :
    namespaceBelow ns (depth + 1) ≠ ns :=
  fun equal => Nat.succ_ne_zero depth (namespaceBelow_eq_self.mp equal)

/-- A class lies `depth` levels below a namespace and a directory. -/
structure Artifact.LiesBelow
    (artifact : Artifact) (ns : String) (dir : Path) (depth : Nat) : Prop where
  ns_eq : artifact.ns = namespaceBelow ns depth
  dir_eq : artifact.dir = directoryBelow dir depth

/-- What lies `depth` levels below a nested place lies one level more below the place around it. -/
theorem Artifact.LiesBelow.outward
    {artifact : Artifact} {ns : String} {dir : Path} {depth : Nat}
    (below : artifact.LiesBelow (nestedNamespace ns) (dir.join ⟨nestedSegment⟩) depth) :
    artifact.LiesBelow ns dir (depth + 1) where
  ns_eq := below.ns_eq.trans (namespaceBelow_nested ns depth)
  dir_eq := below.dir_eq.trans (directoryBelow_nested dir depth)

/-- A class carries the name of the class `parent` in front of its own. -/
def Artifact.NamedAfter (artifact : Artifact) (parent : String) : Prop :=
  ∃ own, artifact.name = parent ++ own

/-- What is named after the class of a field is named after the class that has the field. -/
theorem Artifact.NamedAfter.outward
    {artifact : Artifact} {parent key : String}
    (named : artifact.NamedAfter (fieldClass parent key)) :
    artifact.NamedAfter parent := by
  rcases named with ⟨own, name⟩
  refine ⟨Text.upperCamel (Text.lowerCamel (fieldName key)) ++ own, ?_⟩
  rw [name, fieldClass, nestedClass, String.append_assoc]

/-- A collection class collects a shape: it is named after it, lies beside it and refers to it. -/
structure Collection.Collects (collection : Collection) (shape : Shape) : Prop where
  name_eq : collection.name = shape.name ++ "Collection"
  ns_eq : collection.ns = shape.ns
  dir_eq : collection.dir = shape.dir
  element_eq : collection.element = classReference shape.ns shape.name

/-- Every collection class stands directly behind the shape that it collects. -/
def CollectionsFollow (classes : List Artifact) : Prop :=
  ∀ before collection after, classes = before ++ .collection collection :: after →
    ∃ earlier shape, before = earlier ++ [.shape shape] ∧ collection.Collects shape

namespace CollectionsFollow

theorem nil : CollectionsFollow [] := by
  intro before collection after split
  simp at split

theorem shape (shape : Shape) : CollectionsFollow [.shape shape] := by
  intro before collection after split
  rcases before with _ | ⟨first, others⟩ <;> simp at split

/--
Lists that may be put together: a collection that opens the second one would have no shape before it
there.
-/
theorem append
    {first second : List Artifact}
    (firstFollow : CollectionsFollow first)
    (secondFollow : CollectionsFollow second) :
    CollectionsFollow (first ++ second) := by
  intro before collection after split
  rcases List.append_eq_append_iff.mp split with
    ⟨middle, rfl, inSecond⟩ | ⟨middle, inFirst, rest⟩
  · rcases secondFollow middle collection after inSecond with ⟨earlier, shape, rfl, collects⟩
    exact ⟨first ++ earlier, shape, (List.append_assoc _ _ _).symm, collects⟩
  · rcases middle with _ | ⟨head, tail⟩
    · rcases secondFollow [] collection after (by simpa using rest.symm) with
        ⟨earlier, shape, impossible, _⟩
      simp at impossible
    · simp only [List.cons_append, List.cons.injEq] at rest
      rcases rest with ⟨rfl, rfl⟩
      exact firstFollow before collection tail inFirst

/-- A collection may join behind the shape that it collects. -/
theorem concat
    {classes : List Artifact} {shape : Shape} {collection : Collection}
    (follow : CollectionsFollow (classes ++ [.shape shape]))
    (collects : collection.Collects shape) :
    CollectionsFollow (classes ++ [.shape shape] ++ [.collection collection]) := by
  intro before other after split
  rcases List.append_eq_append_iff.mp split with
    ⟨middle, rfl, atEnd⟩ | ⟨middle, inside, rest⟩
  · rcases middle with _ | ⟨head, tail⟩
    · simp only [List.nil_append, List.cons.injEq, Artifact.collection.injEq] at atEnd
      rcases atEnd with ⟨rfl, rfl⟩
      exact ⟨classes, shape, List.append_nil _, collects⟩
    · simp at atEnd
  · rcases middle with _ | ⟨head, tail⟩
    · simp only [List.nil_append, List.cons.injEq, Artifact.collection.injEq] at rest
      rcases rest with ⟨rfl, rfl⟩
      exact ⟨classes, shape, by simpa using inside.symm, collects⟩
    · simp only [List.cons_append, List.cons.injEq] at rest
      rcases rest with ⟨rfl, rfl⟩
      exact follow before other tail inside

/-- Whatever is cut off behind some classes, the collections among them keep their shapes. -/
theorem beginning
    {classes first : List Artifact}
    (follow : CollectionsFollow classes)
    (isBeginning : first <+: classes) :
    CollectionsFollow first := by
  intro before collection after split
  rcases isBeginning with ⟨rest, rfl⟩
  exact follow before collection (after ++ rest) (by simp [split])

theorem flatMap
    {α : Type} {items : List α} {classes : α → List Artifact}
    (follow : ∀ item, CollectionsFollow (classes item)) :
    CollectionsFollow (items.flatMap classes) := by
  induction items with
  | nil => exact .nil
  | cons item items ih =>
      rw [List.flatMap_cons]
      exact (follow item).append ih

/-- A collection among the classes has its shape among them. -/
theorem exists_collected
    {classes : List Artifact} (follow : CollectionsFollow classes)
    {collection : Collection} (member : .collection collection ∈ classes) :
    ∃ shape, .shape shape ∈ classes ∧ collection.Collects shape := by
  rcases List.append_of_mem member with ⟨before, after, split⟩
  rcases follow before collection after split with ⟨earlier, shape, rfl, collects⟩
  refine ⟨shape, ?_, collects⟩
  rw [split]
  simp

end CollectionsFollow

namespace Plan

/-- What the fields of a class emit lies at least one level deeper, and is named after the class. -/
theorem fieldSteps_layout
    (fields : Fields) (parent : String) (site : Site) :
    ∀ artifact ∈ emitted (fieldSteps parent site fields),
      (∃ depth, artifact.LiesBelow site.ns site.dir (depth + 1)) ∧
        artifact.NamedAfter parent := by
  induction fields using Content.fieldsInduction generalizing parent site with
  | nil =>
      intro artifact member
      simp [emitted] at member
  | value key type default required fields ih =>
      simpa using ih parent site
  | malformed key place problem fields ih =>
      simpa [emitted] using ih parent site
  | shape key inner fields innerIH fieldsIH =>
      intro artifact member
      simp only [fieldSteps_shape, emitted_append, emitted_shapeSteps,
        List.mem_append, List.mem_singleton] at member
      rcases member with (deeper | rfl) | later
      · rcases innerIH _ (site.nested key) artifact deeper with ⟨⟨depth, below⟩, named⟩
        exact ⟨⟨depth + 1, below.outward⟩, named.outward⟩
      · exact ⟨⟨0, Artifact.LiesBelow.outward ⟨rfl, rfl⟩⟩,
          Artifact.NamedAfter.outward ⟨"", (String.append_empty).symm⟩⟩
      · exact fieldsIH parent site artifact later
  | collection key inner fields innerIH fieldsIH =>
      intro artifact member
      simp only [fieldSteps_collection, emitted_append, emitted_shapeSteps,
        emitted_collectionSteps, List.mem_append, List.mem_singleton] at member
      rcases member with (deeper | rfl) | rfl | later
      · rcases innerIH _ (site.element key) artifact deeper with ⟨⟨depth, below⟩, named⟩
        exact ⟨⟨depth + 1, below.outward⟩, named.outward⟩
      · exact ⟨⟨0, Artifact.LiesBelow.outward ⟨rfl, rfl⟩⟩,
          Artifact.NamedAfter.outward ⟨"", (String.append_empty).symm⟩⟩
      · exact ⟨⟨0, Artifact.LiesBelow.outward ⟨rfl, rfl⟩⟩,
          Artifact.NamedAfter.outward ⟨"Collection", rfl⟩⟩
      · exact fieldsIH parent site artifact later

/-- The collections that fields make stand directly behind their shapes, at every depth. -/
theorem fieldSteps_collectionsFollow
    (fields : Fields) (parent : String) (site : Site) :
    CollectionsFollow (emitted (fieldSteps parent site fields)) := by
  induction fields using Content.fieldsInduction generalizing parent site with
  | nil => exact .nil
  | value key type default required fields ih =>
      simpa using ih parent site
  | malformed key place problem fields ih =>
      simpa [emitted] using ih parent site
  | shape key inner fields innerIH fieldsIH =>
      rw [fieldSteps_shape, emitted_append, emitted_shapeSteps]
      exact ((innerIH _ _).append (.shape _)).append (fieldsIH parent site)
  | collection key inner fields innerIH fieldsIH =>
      rw [fieldSteps_collection, emitted_append, emitted_append, ← List.append_assoc,
        emitted_shapeSteps, emitted_collectionSteps]
      refine .append (.concat ((innerIH _ _).append (.shape _)) ?_) (fieldsIH parent site)
      exact ⟨rfl, rfl, rfl, rfl⟩

/-- The shape of a part of a document, unless the part is malformed. -/
def partShape? (document ns : String) (pointer : Pointer) : Part → Option Artifact
  | .shape place ending fields =>
      some (shapeArtifact (documentClass document ++ ending)
        ⟨ns, .empty, pointer.append place⟩ fields)
  | .malformed _ _ => none

/-- The shapes of the requests and responses of a schema, in order. -/
def rootShapes (schema : Schema) (ns : String) : List Artifact :=
  schema.documents.flatMap fun (document, node) =>
    (Part.ofDocument node).flatMap fun part =>
      (partShape? document ns (Pointer.root.child document) part).toList

/-- A part emits the classes nested in its shape, all of them deeper, and then the shape. -/
theorem emitted_partSteps
    (document ns : String) (pointer : Pointer) (part : Part) :
    ∃ nested, emitted (partSteps document ns pointer part) =
        nested ++ (partShape? document ns pointer part).toList ∧
      CollectionsFollow nested ∧
      ∀ artifact ∈ nested, ∃ depth, artifact.LiesBelow ns .empty (depth + 1) := by
  cases part with
  | malformed place problem =>
      exact ⟨[], rfl, .nil, by simp⟩
  | shape place ending fields =>
      refine ⟨_, emitted_shapeSteps _ _ _, fieldSteps_collectionsFollow _ _ _, ?_⟩
      intro artifact member
      exact (fieldSteps_layout _ _ _ artifact member).1

/-- In the outline of a schema exactly the shapes of requests and responses lie in its namespace. -/
theorem schemaSteps_rootShapes (schema : Schema) (ns : String) :
    (emitted (schemaSteps schema ns)).filter (fun artifact => artifact.ns = ns) =
      rootShapes schema ns := by
  rw [emitted_schemaSteps, List.filter_flatMap]
  refine congrArg (List.flatMap · _) (funext fun (document, node) => ?_)
  rw [List.filter_flatMap]
  refine congrArg (List.flatMap · _) (funext fun part => ?_)
  rcases emitted_partSteps document ns (Pointer.root.child document) part with
    ⟨nested, split, -, deeper⟩
  have noneNested : nested.filter (fun artifact => artifact.ns = ns) = [] := by
    rw [List.filter_eq_nil_iff]
    intro artifact member inRoot
    rcases deeper artifact member with ⟨depth, below⟩
    exact namespaceBelow_succ_ne ns depth (below.ns_eq.symm.trans (of_decide_eq_true inRoot))
  rw [split, List.filter_append, noneNested, List.nil_append]
  cases part <;> simp [partShape?, shapeArtifact, Artifact.ns]

/--
All that the outline of a schema emits lies some levels below the root, in namespace and directory
alike.
-/
theorem schemaSteps_layout
    (schema : Schema) (ns : String) :
    ∀ artifact ∈ emitted (schemaSteps schema ns),
      ∃ depth, artifact.LiesBelow ns .empty depth := by
  intro artifact member
  simp only [emitted_schemaSteps, List.mem_flatMap] at member
  rcases member with ⟨⟨document, node⟩, -, part, -, inPart⟩
  rcases emitted_partSteps document ns (Pointer.root.child document) part with
    ⟨nested, split, -, deeper⟩
  rw [split, List.mem_append] at inPart
  rcases inPart with inner | isShape
  · rcases deeper artifact inner with ⟨depth, below⟩
    exact ⟨depth + 1, below⟩
  · cases part with
    | malformed place problem => simp [partShape?] at isShape
    | shape place ending fields =>
        simp only [partShape?, Option.toList_some, List.mem_singleton] at isShape
        subst artifact
        exact ⟨0, rfl, rfl⟩

/-- The collections that a schema makes stand directly behind their shapes. -/
theorem schemaSteps_collectionsFollow (schema : Schema) (ns : String) :
    CollectionsFollow (emitted (schemaSteps schema ns)) := by
  rw [emitted_schemaSteps]
  refine .flatMap fun (document, node) => .flatMap fun part => ?_
  rcases emitted_partSteps document ns (Pointer.root.child document) part with
    ⟨nested, split, follow, -⟩
  rw [split]
  cases part with
  | malformed place problem => simpa [partShape?] using follow
  | shape place ending fields => exact follow.append (.shape _)

/--
Namespace and directory go down in lockstep.  Whatever is added to a plan for the fields of a class,
also by work that fails, lies one or more levels below the class, equally deep by namespace and by
directory, is named after the class, and has every collection directly behind its shape.  In the
plan of a schema exactly the shapes of requests and responses lie at depth zero.
-/
theorem classes_in_lockstep :
    (∀ (planned : List Artifact) (name : String) (site : Site) (entries : Entries),
      ∃ added, (addFields planned name site entries).1 = planned ++ added ∧
        (∀ artifact ∈ added,
          (∃ depth, 1 ≤ depth ∧ artifact.LiesBelow site.ns site.dir depth) ∧
            artifact.NamedAfter name) ∧
        CollectionsFollow added) ∧
    (∀ (schema : Schema) (ns : String) (classes : List Artifact),
      ofSchema schema ns = .ok classes →
        (∀ artifact ∈ classes, ∃ depth, artifact.LiesBelow ns .empty depth ∧
          (depth = 0 ↔ artifact ∈ rootShapes schema ns)) ∧
        classes.filter (fun artifact => artifact.ns = ns) = rootShapes schema ns ∧
        CollectionsFollow classes) := by
  constructor
  · intro planned name site entries
    rcases perform_added planned (fieldSteps name site (Content.ofEntries entries)) with
      ⟨added, isBeginning, grown⟩
    refine ⟨added, ?_, ?_, ?_⟩
    · simpa [addFields, outcome_fst] using grown
    · intro artifact member
      rcases fieldSteps_layout _ name site artifact (isBeginning.subset member) with
        ⟨⟨depth, below⟩, named⟩
      exact ⟨⟨depth + 1, Nat.succ_le_succ (Nat.zero_le depth), below⟩, named⟩
    · exact (fieldSteps_collectionsFollow _ name site).beginning isBeginning
  · intro schema ns classes success
    obtain rfl := ofSchema_emitted success
    refine ⟨?_, schemaSteps_rootShapes schema ns, schemaSteps_collectionsFollow schema ns⟩
    intro artifact member
    rcases schemaSteps_layout schema ns artifact member with ⟨depth, below⟩
    refine ⟨depth, below, ?_⟩
    rw [← schemaSteps_rootShapes, List.mem_filter, decide_eq_true_iff, below.ns_eq,
      namespaceBelow_eq_self]
    exact ⟨fun isZero => ⟨member, isZero⟩, fun both => both.2⟩

theorem order_classes_in_lockstep :
    (∀ artifact ∈ orderClasses, ∃ depth, artifact.LiesBelow "App" .empty depth ∧
      (depth = 0 ↔ artifact ∈ rootShapes orderSchema "App")) ∧
    orderClasses.filter (fun artifact => artifact.ns = "App") = rootShapes orderSchema "App" ∧
    CollectionsFollow orderClasses :=
  classes_in_lockstep.2 orderSchema "App" orderClasses ofSchema_orderSchema

end Plan

end ApiShapes
