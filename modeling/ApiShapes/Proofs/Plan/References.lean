import ApiShapes.Proofs.Plan.Names
import ApiShapes.Proofs.Plan.Sources
import ApiShapes.Settings

/-!
# No reference to a class that is not generated

A property whose entry describes nested classes refers to the class that its entry makes, and a
collection refers to its element class.  The reference is put together where it is used, the
declaration in the file of the class that is meant.  Main statement: in a plan both agree, the class
that is meant is the only one of its reference, and it stands before the class that refers to it.
-/

namespace ApiShapes

/-- A file declares the class `name` in the namespace `ns`. -/
def Php.Declares (text ns name : String) : Prop :=
  ∃ imported base body,
    text = unlines
      (["<?php",
        "",
        "// Generated by api-dto-gen. Do not edit manually.",
        "",
        "declare(strict_types=1);",
        "",
        "namespace " ++ ns ++ ";",
        "",
        "use " ++ imported ++ ";",
        "",
        "class " ++ name ++ " extends " ++ base] ++ body)

theorem Php.declares_of_preamble (ns name baseClass : String) (body : List String) :
    Declares (unlines (preamble ns baseClass ++ (classLine name baseClass :: body)))
      (Text.trimStart '\\' ns) name := by
  refine ⟨Text.trimStart '\\' baseClass, shortClassName baseClass, body, ?_⟩
  rw [preamble, classLine]
  simp only [List.cons_append, List.nil_append]

/-- The file of a class declares the class in the namespace that is shown for it. -/
theorem Settings.file_declares (settings : Settings) (artifact : Artifact) :
    Php.Declares (settings.file artifact) artifact.declaredNs artifact.name := by
  cases artifact with
  | shape shape =>
      rw [Settings.file, Php.shapeFile]
      simp only [List.append_assoc, List.cons_append, List.nil_append]
      exact Php.declares_of_preamble _ _ _ _
  | collection collection =>
      rw [Settings.file, Php.collectionFile]
      exact Php.declares_of_preamble _ _ _ _

namespace Plan

variable {schema : Schema} {ns : String} {classes : List Artifact}

/-- A reference means the class at `position`, and no class at any other place. -/
def RefersTo (classes : List Artifact) (reference : String) (position : Nat) : Prop :=
  (∃ target, classes[position]? = some target ∧ reference = target.declaredReference) ∧
    ∀ other class_, classes[other]? = some class_ → reference = class_.declaredReference →
      other = position

/-- A class has one place in a plan. -/
theorem position_unique
    (apart : classes.Pairwise fun left right => ¬ left.SameClass right)
    {left right : Nat} {first second : Artifact}
    (atLeft : classes[left]? = some first) (atRight : classes[right]? = some second)
    (same : first.SameClass second) :
    left = right := by
  rcases List.getElem?_eq_some_iff.mp atLeft with ⟨leftBound, rfl⟩
  rcases List.getElem?_eq_some_iff.mp atRight with ⟨rightBound, rfl⟩
  rw [List.pairwise_iff_getElem] at apart
  rcases Nat.lt_trichotomy left right with less | equal | greater
  · exact absurd same (apart left right leftBound rightBound less)
  · exact equal
  · exact absurd ⟨same.1.symm, same.2.symm⟩ (apart right left rightBound leftBound greater)

/-- In a plan the reference that the file of a class declares means that class. -/
theorem refersTo_declaredReference
    (success : ofSchema schema ns = .ok classes)
    {position : Nat} {target : Artifact} (isTarget : classes[position]? = some target) :
    RefersTo classes target.declaredReference position := by
  refine ⟨⟨target, isTarget, rfl⟩, ?_⟩
  intro other class_ isOther equal
  rcases ofSchema_eq_ok_iff_accepted.mp success with ⟨-, apart⟩
  obtain rfl := ofSchema_emitted success
  have targetMember := List.mem_of_getElem? isTarget
  have otherMember := List.mem_of_getElem? isOther
  rcases schemaSteps_layout schema ns target targetMember with ⟨targetDepth, targetBelow⟩
  rcases schemaSteps_layout schema ns class_ otherMember with ⟨otherDepth, otherBelow⟩
  refine position_unique apart isOther isTarget ?_
  exact sameClass_of_declaredReference otherBelow.ns_eq targetBelow.ns_eq
    (schemaSteps_opensPlainly schema ns class_ otherMember)
    (schemaSteps_opensPlainly schema ns target targetMember) equal.symm

/-- The element of a collection stands before it. -/
theorem collection_refersTo
    (success : ofSchema schema ns = .ok classes)
    {position : Nat} {collection : Collection}
    (isCollection : classes[position]? = some (.collection collection)) :
    ∃ target, target < position ∧ RefersTo classes collection.element target := by
  have follow := schemaSteps_collectionsFollow schema ns
  rw [← ofSchema_emitted success] at follow
  rcases List.getElem?_eq_some_iff.mp isCollection with ⟨bound, atPosition⟩
  have split : classes =
      classes.take position ++ .collection collection :: classes.drop (position + 1) := by
    rw [← atPosition, ← List.drop_eq_getElem_cons bound, List.take_append_drop]
  rcases follow _ collection _ split with ⟨earlier, shape, before, collects⟩
  have isShape : classes[earlier.length]? = some (.shape shape) := by
    rw [split, before]
    simp
  have positionAfter : position = earlier.length + 1 := by
    have lengths := congrArg List.length before
    simp only [List.length_take, List.length_append, List.length_singleton] at lengths
    omega
  refine ⟨earlier.length, by omega, ?_⟩
  have refers := refersTo_declaredReference success isShape
  rw [Artifact.declaredReference_eq] at refers
  rw [collects.element_eq]
  exact refers

/-- What a field refers to is among the classes that are made for it, nested in its class. -/
theorem property?_reference
    {parent key : String} {site : Site} {content : Content} {property : Property}
    (isProperty : property? parent site.ns key content = some property)
    (holdsFields : ∃ fields, content = .shape fields ∨ content = .collection fields) :
    ∃ target ∈ emitted (contentSteps parent site key content),
      property.type = target.declaredReference ∧ target.ns = nestedNamespace site.ns ∧
        ((∃ collection, target = .collection collection) ↔
          ∃ fields, content = .collection fields) := by
  rcases holdsFields with ⟨fields, rfl | rfl⟩
  · obtain rfl := Option.some.inj isProperty
    refine ⟨shapeArtifact (fieldClass parent key) (site.nested key) fields, ?_, rfl, rfl, ?_⟩
    · rw [contentSteps]
      simp [aroundFields, emitted, fieldClass]
    · simp [shapeArtifact]
  · obtain rfl := Option.some.inj isProperty
    refine ⟨collectionArtifact (fieldClass parent key) (site.element key), ?_, rfl, rfl, ?_⟩
    · rw [contentSteps]
      simp [collectionSteps, emitted, fieldClass, collectionArtifact, Site.element, Site.nested]
    · simp [collectionArtifact]

/-- The entries that describe a shape give its properties, and what they nest stands before it. -/
theorem described_shape
    (success : ofSchema schema ns = .ok classes)
    {position : Nat} {shape : Shape} {entries : Entries}
    (isShape : classes[position]? = some (.shape shape))
    (described : Describes schema ns shape.ns shape.name entries) :
    (∀ entry ∈ entries, ¬ (Content.ofNode entry.2).IsMalformed) ∧
    ∃ site : Site, site.ns = shape.ns ∧
      shape.properties = properties shape.name site.ns (Content.ofEntries entries) ∧
      ∀ artifact ∈ emitted (fieldSteps shape.name site (Content.ofEntries entries)),
        ∃ target, target < position ∧ classes[target]? = some artifact := by
  rcases ofSchema_eq_ok_iff_accepted.mp success with ⟨isAccepted, apart⟩
  rcases described.steps with ⟨site, siteNs, within⟩
  obtain ⟨_, fieldsAccepted⟩ := accepted_within ((fieldSteps_within _ _ _).trans within) isAccepted
  refine ⟨wellFormed_of_accepted fieldsAccepted, site, siteNs, ?_⟩
  have piece := emitted_within within
  rw [← ofSchema_emitted success, emitted_shapeSteps] at piece
  rcases piece with ⟨before, after, split⟩
  generalize emitted (fieldSteps shape.name site (Content.ofEntries entries)) = nested at split ⊢
  have isPlanned : classes[before.length + nested.length]? =
      some (shapeArtifact shape.name site (Content.ofEntries entries)) := by
    rw [← split]
    simp
  have samePosition : position = before.length + nested.length :=
    position_unique apart isShape isPlanned ⟨siteNs.symm, rfl⟩
  have sameShape := Artifact.shape.inj
    (Option.some.inj (isShape.symm.trans (samePosition ▸ isPlanned)))
  refine ⟨congrArg Shape.properties sameShape, ?_⟩
  intro artifact member
  rcases List.getElem_of_mem member with ⟨index, bound, atIndex⟩
  refine ⟨before.length + index, by omega, ?_⟩
  rw [← split, List.append_assoc, List.getElem?_append_right (Nat.le_add_right _ _),
    Nat.add_sub_cancel_left, List.append_assoc, List.getElem?_append_left bound,
    List.getElem?_eq_getElem bound, atIndex]

/--
The type of a property that a nested map or a sequence defines stands before the shape that has the
property.  Only one place of the plan can hold a class of that name and namespace, so it is the
place found among the classes of the field.
-/
theorem property_refersTo
    (success : ofSchema schema ns = .ok classes)
    {position : Nat} {shape : Shape} {entries : Entries} {property : Property}
    (isShape : classes[position]? = some (.shape shape))
    (described : Describes schema ns shape.ns shape.name entries)
    (isProperty : property ∈ shape.properties) :
    ∃ key node, definition? entries property.name = some (key, node) ∧
      (node.IsNested ∨ node.IsSequence →
        ∃ target, target < position ∧ RefersTo classes property.type target ∧
          ((∃ collection, classes[target]? = some (.collection collection)) ↔
            node.IsSequence)) := by
  rcases described_shape success isShape described with
    ⟨wellFormed, site, siteNs, isProperties, before⟩
  rw [isProperties] at isProperty
  rcases mem_properties wellFormed isProperty with ⟨key, node, defines, comesTo⟩
  refine ⟨key, node, defines, ?_⟩
  intro nests
  have isEntry : (key, node) ∈ entries :=
    List.mem_reverse.mp (List.mem_of_find?_eq_some defines)
  have isSequence_iff :
      node.IsSequence ↔ ∃ fields, Content.ofNode node = .collection fields := by
    constructor
    · intro sequence
      exact Content.ofNode_of_isSequence sequence (wellFormed _ isEntry)
    · rintro ⟨fields, reading⟩
      rcases nests with nested | sequence
      · rcases Content.ofNode_of_isNested nested with ⟨_, otherReading⟩
        cases reading.symm.trans otherReading
      · exact sequence
  have holdsFields := Content.ofNode_of_nests nests (wellFormed _ isEntry)
  rcases property?_reference comesTo holdsFields with
    ⟨artifact, made, refers, -, isCollection_iff⟩
  have inFields := Content.mem_ofEntries.mpr ⟨node, isEntry, rfl⟩
  rcases before artifact ((emitted_within (contentSteps_within inFields)).subset made) with
    ⟨target, earlier, atTarget⟩
  refine ⟨target, earlier, ?_, ?_⟩
  · rw [refers]
    exact refersTo_declaredReference success atTarget
  · rw [isSequence_iff, ← isCollection_iff, atTarget]
    simp

/--
No file refers to a class that is not generated.  The files of a plan declare what references to
their classes are made of; the element of every collection, and the type of every property that a
nested map, a list or a positional map defines, is the reference to exactly one class, which stands
earlier and is a collection just where a sequence was described.
-/
theorem references_resolve (success : ofSchema schema ns = .ok classes) :
    (∀ settings : Settings, ∀ artifact ∈ classes,
      Php.Declares (settings.file artifact) artifact.declaredNs artifact.name) ∧
    (∀ position collection, classes[position]? = some (.collection collection) →
      ∃ target, target < position ∧ RefersTo classes collection.element target) ∧
    (∀ position shape, classes[position]? = some (.shape shape) →
      (∃ entries, Describes schema ns shape.ns shape.name entries) ∧
      ∀ entries, Describes schema ns shape.ns shape.name entries →
        ∀ property ∈ shape.properties,
          ∃ key node, definition? entries property.name = some (key, node) ∧
            (node.IsNested ∨ node.IsSequence →
              ∃ target, target < position ∧ RefersTo classes property.type target ∧
                ((∃ collection, classes[target]? = some (.collection collection)) ↔
                  node.IsSequence))) := by
  refine ⟨fun settings artifact _ => settings.file_declares artifact, ?_, ?_⟩
  · intro position collection isCollection
    exact collection_refersTo success isCollection
  · intro position shape isShape
    constructor
    · have member := List.mem_of_getElem? isShape
      rw [ofSchema_emitted success] at member
      exact schemaSteps_described member
    · intro entries described property isProperty
      exact property_refersTo success isShape described isProperty

theorem order_references_resolve :
    (∃ target, target < 1 ∧
      RefersTo orderClasses "\\App\\Nested\\OrderDtoRequestBody" target) ∧
    ∃ target, target < 2 ∧
      RefersTo orderClasses "\\App\\Nested\\OrderDtoRequestBodyCollection" target := by
  rcases references_resolve ofSchema_orderSchema with ⟨-, collections, shapes⟩
  refine ⟨collections 1 _ rfl, ?_⟩
  rcases shapes 2 _ rfl with ⟨⟨entries, described⟩, resolve⟩
  have isRequest : Describes orderSchema "App" "App" (documentClass "order" ++ "Request")
      [("body", .list [.map []])] :=
    @Describes.request orderSchema "App" "order" _ _ List.mem_cons_self rfl
  have name_eq : documentClass "order" ++ "Request" = "OrderDtoRequest" := by rfl
  rw [name_eq] at isRequest
  rcases resolve _ isRequest _ List.mem_cons_self with ⟨key, node, defines, resolves⟩
  obtain ⟨rfl, rfl⟩ : "body" = key ∧ .list [.map []] = node :=
    Prod.mk.inj (Option.some.inj defines)
  rcases resolves (.inr (List.cons_ne_nil _ _)) with ⟨target, earlier, refers, -⟩
  exact ⟨target, earlier, refers⟩

end Plan

end ApiShapes
