import ApiShapes.Proofs.Plan.Sources
import Mathlib.Data.List.Induction

/-!
# How the properties of a class are defined

The entries of a shape are gone through one by one, and each puts its property into the list: in the
place of the one with its name, or else at the end.  So the list has the field names in the order in
which they first occur, and of every name the last entry decides.  What it decides, it decides alone:
`Defines` says by the node of one entry what the type, the default and the requirement are.  Clashes
of field names cannot hide a class either, because a class that is nested for one of two such entries
takes the name that the other one would need.  Main statement: the properties that are planned for
entries are determined by them in this way.
-/

namespace ApiShapes

/-- The property that the entry `key` with the node `node` defines in the class `parent`. -/
inductive Defines (parent ns key : String) (node : Node) : Property → Prop where
  | value {type : String} {default : Option Literal} {required : Option Bool}
      (given : node.GivesValue type default required) :
      Defines parent ns key node ⟨fieldName key, type, default, required⟩
  | shape {inner : Entries} (isShape : node.ShapeEntries inner) :
      Defines parent ns key node
        ⟨fieldName key, classReference (nestedNamespace ns) (fieldClass parent key), none, none⟩
  | collection {inner : Entries} (isElement : node.ElementEntries inner) :
      Defines parent ns key node
        ⟨fieldName key,
          classReference (nestedNamespace ns) (collectionClass (fieldClass parent key)), none, none⟩

namespace Plan

variable {parent ns key : String} {node : Node} {property : Property}

/-- A field gives a property if its node defines it. -/
theorem property?_eq_some :
    property? parent ns key (Content.ofNode node) = some property ↔
      Defines parent ns key node property := by
  constructor
  · intro comesTo
    cases reading : Content.ofNode node with
    | value type default required =>
        rw [reading] at comesTo
        obtain rfl := Option.some.inj comesTo
        exact .value (Content.ofNode_eq_value.mp reading)
    | shape fields =>
        rw [reading] at comesTo
        obtain rfl := Option.some.inj comesTo
        rcases Content.ofNode_eq_shape.mp reading with ⟨inner, isShape, -⟩
        exact .shape isShape
    | collection fields =>
        rw [reading] at comesTo
        obtain rfl := Option.some.inj comesTo
        rcases Content.ofNode_eq_collection.mp reading with ⟨inner, isElement, -⟩
        exact .collection isElement
    | malformed place problem => simp [reading, property?] at comesTo
  · intro defines
    cases defines with
    | value given =>
        rw [Content.ofNode_eq_value.mpr given]
        rfl
    | shape isShape =>
        rw [Content.ofNode_eq_shape.mpr ⟨_, isShape, rfl⟩]
        rfl
    | collection isElement =>
        rw [Content.ofNode_eq_collection.mpr ⟨_, isElement, rfl⟩]
        rfl

/-! ## Names -/

/-- An item that was met before is dropped, a new one comes last. -/
theorem eraseDups_concat {α : Type} [DecidableEq α] (items : List α) (item : α) :
    (items ++ [item]).eraseDups =
      if item ∈ items then items.eraseDups else items.eraseDups ++ [item] := by
  rw [List.eraseDups_append]
  by_cases known : item ∈ items <;> simp [List.removeAll, List.eraseDups_cons, known]

/-- The properties of a class are named in the order in which the field names first occur. -/
theorem map_name_properties
    {entries : Entries} (wellFormed : ∀ entry ∈ entries, ¬ (Content.ofNode entry.2).IsMalformed) :
    (properties parent ns (Content.ofEntries entries)).map (·.name) =
      (entries.map fun entry => fieldName entry.1).eraseDups := by
  induction entries using List.reverseRecOn with
  | nil => rfl
  | append_singleton entries entry ih =>
      have known := ih fun other member => wellFormed other (List.mem_append_left _ member)
      obtain ⟨property, comesTo⟩ :=
        property?_isSome parent ns entry.1 (wellFormed entry (by simp))
      have last : properties parent ns (Content.ofEntries (entries ++ [entry])) =
          property.insert (properties parent ns (Content.ofEntries entries)) := by
        simp [properties, Content.ofEntries_eq_map, comesTo]
      rw [last, Property.map_name_insert, known, List.map_append, List.map_singleton,
        eraseDups_concat, property?_name comesTo]
      simp only [List.mem_eraseDups]

/-- No two properties of a shape have one name. -/
theorem nodup_properties (parent ns : String) (fields : Fields) :
    ((properties parent ns fields).map (·.name)).Nodup := by
  rw [properties, List.foldl_eq_foldr_reverse]
  exact Property.nodup_foldr_insert _

/-- The last entry with a field name has the property of that name. -/
theorem mem_properties_iff
    {entries : Entries} (wellFormed : ∀ entry ∈ entries, ¬ (Content.ofNode entry.2).IsMalformed) :
    property ∈ properties parent ns (Content.ofEntries entries) ↔
      ∃ key node, definition? entries property.name = some (key, node) ∧
        Defines parent ns key node property := by
  constructor
  · intro member
    rcases mem_properties wellFormed member with ⟨key, node, isLast, comesTo⟩
    exact ⟨key, node, isLast, property?_eq_some.mp comesTo⟩
  · rintro ⟨key, node, isLast, defines⟩
    have isEntry : (key, node) ∈ entries :=
      List.mem_reverse.mp (List.mem_of_find?_eq_some isLast)
    have isNamed : fieldName key = property.name := by
      simpa using List.find?_some isLast
    have named : property.name ∈
        (properties parent ns (Content.ofEntries entries)).map (·.name) := by
      rw [map_name_properties wellFormed, List.mem_eraseDups, ← isNamed]
      exact List.mem_map_of_mem (f := fun entry => fieldName entry.1) isEntry
    rcases List.mem_map.mp named with ⟨other, otherMember, sameName⟩
    rcases mem_properties wellFormed otherMember with ⟨otherKey, otherNode, otherLast, comesTo⟩
    rw [sameName, isLast] at otherLast
    obtain ⟨rfl, rfl⟩ := Prod.mk.inj (Option.some.inj otherLast)
    rw [property?_eq_some.mpr defines] at comesTo
    rwa [Option.some.inj comesTo]

/-! ## Classes -/

/-- Fields emit their classes one after the other. -/
theorem emitted_fieldSteps (parent : String) (site : Site) (fields : Fields) :
    emitted (fieldSteps parent site fields) =
      fields.flatMap fun field => emitted (contentSteps parent site field.1 field.2) := by
  induction fields with
  | nil => rw [fieldSteps_nil, emitted, List.flatMap_nil]
  | cons field fields ih => rw [fieldSteps, emitted_append, ih, List.flatMap_cons]

/-- A field that needs a class has the one that is named after the field. -/
theorem exists_fieldClass
    {content : Content} (site : Site)
    (needsClass : ∃ fields, content = .shape fields ∨ content = .collection fields) :
    ∃ artifact ∈ emitted (contentSteps parent site key content),
      artifact.ns = nestedNamespace site.ns ∧ artifact.name = fieldClass parent key := by
  rcases needsClass with ⟨fields, rfl | rfl⟩
  · refine ⟨shapeArtifact (fieldClass parent key) (site.nested key) fields, ?_, rfl, rfl⟩
    rw [contentSteps]
    simp [aroundFields, emitted, fieldClass]
  · refine ⟨shapeArtifact (fieldClass parent key) (site.element key) fields, ?_, rfl, rfl⟩
    rw [contentSteps]
    simp [aroundFields, emitted, fieldClass, Site.element, Site.nested]

/-- Of two fields with one name, at most one can have a class. -/
theorem pairwise_of_accepted
    {entries : Entries} {site : Site} {classes : List Artifact}
    (isAccepted : accepted (fieldSteps parent site (Content.ofEntries entries)) = some classes)
    (apart : classes.Pairwise fun left right => ¬ left.SameClass right) :
    entries.Pairwise fun first second => fieldName first.1 = fieldName second.1 →
      ¬ ((first.2.IsNested ∨ first.2.IsSequence) ∧
        (second.2.IsNested ∨ second.2.IsSequence)) := by
  have wellFormed := wellFormed_of_accepted isAccepted
  rw [eq_emitted_of_accepted isAccepted, emitted_fieldSteps, Content.ofEntries_eq_map,
    List.flatMap_map, List.pairwise_flatMap] at apart
  refine apart.2.imp_of_mem ?_
  rintro ⟨firstKey, first⟩ ⟨secondKey, second⟩ isFirst isSecond across sameName ⟨nests, nestsToo⟩
  rcases exists_fieldClass site (Content.ofNode_of_nests nests (wellFormed _ isFirst)) with
    ⟨left, leftMember, leftNs, leftName⟩
  rcases exists_fieldClass site (Content.ofNode_of_nests nestsToo (wellFormed _ isSecond)) with
    ⟨right, rightMember, rightNs, rightName⟩
  refine across left leftMember right rightMember ⟨leftNs.trans rightNs.symm, ?_⟩
  rw [leftName, rightName, fieldClass, fieldClass, sameName]

/-- What is planned with others in one list can be planned alone. -/
theorem addFields_singleton
    {entries : Entries} {site : Site} {classes : List Artifact}
    (isAccepted : accepted (fieldSteps parent site (Content.ofEntries entries)) = some classes)
    (apart : classes.Pairwise fun left right => ¬ left.SameClass right)
    (isEntry : (key, node) ∈ entries) (defines : Defines parent site.ns key node property) :
    ∃ nested, addFields [] parent site [(key, node)] = (nested, .ok [property]) := by
  have isField := Content.mem_ofEntries.mpr ⟨node, isEntry, rfl⟩
  have within := @contentSteps_within parent key site _ _ isField
  rcases accepted_within within isAccepted with ⟨nested, nestedAccepted⟩
  have nestedApart : nested.Pairwise fun left right => ¬ left.SameClass right := by
    rw [eq_emitted_of_accepted nestedAccepted]
    rw [eq_emitted_of_accepted isAccepted] at apart
    exact apart.sublist (emitted_within within).sublist
  have alone : fieldSteps parent site (Content.ofEntries [(key, node)]) =
      contentSteps parent site key (Content.ofNode node) := by
    rw [Content.ofEntries, Content.ofEntries, fieldSteps, fieldSteps_nil, List.append_nil]
  refine ⟨nested, outcome_eq_ok.mpr ⟨?_, ?_⟩⟩
  · refine ((fieldSteps_checked _ parent site).faithful [] nested).mpr
      ⟨nested, ?_, rfl, nestedApart, by simp⟩
    rw [alone, nestedAccepted]
  · simp [Content.ofEntries, properties, property?_eq_some.mpr defines, Property.insert]

/--
The entries of a class determine its properties.  The field names stand in the order in which they
first occur, each once; of every name the last entry defines the property, as it would if it were
the only entry; and of two entries with one field name at most one nests a shape or describes a
collection.
-/
theorem entries_determine_properties
    {planned classes : List Artifact} {name : String} {site : Site} {entries : Entries}
    {properties : List Property}
    (success : addFields planned name site entries = (classes, .ok properties)) :
    properties.map (·.name) = (entries.map fun entry => fieldName entry.1).eraseDups ∧
    (properties.map (·.name)).Nodup ∧
    (∀ property, property ∈ properties ↔
      ∃ key node, definition? entries property.name = some (key, node) ∧
        Defines name site.ns key node property) ∧
    (∀ property ∈ properties, ∀ entry, definition? entries property.name = some entry →
      ∃ nested, addFields [] name site [entry] = (nested, .ok [property])) ∧
    entries.Pairwise fun first second => fieldName first.1 = fieldName second.1 →
      ¬ ((first.2.IsNested ∨ first.2.IsSequence) ∧
        (second.2.IsNested ∨ second.2.IsSequence)) := by
  rcases outcome_eq_ok.mp success with ⟨run, rfl⟩
  rcases ((fieldSteps_checked _ name site).faithful planned classes).mp run with
    ⟨added, isAccepted, -, apart, -⟩
  have wellFormed := wellFormed_of_accepted isAccepted
  have mem_iff {property : Property} :=
    @mem_properties_iff name site.ns property entries wellFormed
  refine ⟨map_name_properties wellFormed, nodup_properties _ _ _, fun property => mem_iff, ?_,
    pairwise_of_accepted isAccepted apart⟩
  rintro property member ⟨key, node⟩ isLast
  rcases mem_iff.mp member with ⟨_, _, found, defines⟩
  obtain ⟨rfl, rfl⟩ := Prod.mk.inj (Option.some.inj (found.symm.trans isLast))
  have isEntry := List.mem_reverse.mp (List.mem_of_find?_eq_some isLast)
  exact addFields_singleton isAccepted apart isEntry defines

/-- Entries of two field names, of which the first nests a shape before a scalar takes its place. -/
def clashingEntries : Entries :=
  [("first-name", .map []), ("age", .integer 1), ("firstName", .string "b")]

set_option maxRecDepth 20000 in
theorem clashing_entries_determine_properties :
    ∃ properties, (addFields [] "User" ⟨"App", .empty, .root⟩ clashingEntries).2 = .ok properties ∧
      properties.map (·.name) = ["firstName", "age"] ∧
      ⟨"firstName", "string", some (.string "b"), none⟩ ∈ properties := by
  have success : addFields [] "User" ⟨"App", .empty, .root⟩ clashingEntries =
      ([.shape ⟨"UserFirstName", "App\\Nested", ⟨"Nested"⟩, []⟩],
        .ok [⟨"firstName", "string", some (.string "b"), none⟩,
          ⟨"age", "int", some (.integer 1), none⟩]) := by
    rfl
  rcases entries_determine_properties success with ⟨names, -, defined, -⟩
  refine ⟨_, congrArg Prod.snd success, names, ?_⟩
  exact (defined _).mpr ⟨"firstName", .string "b", by rfl, .value (.string "b")⟩

end Plan

end ApiShapes
