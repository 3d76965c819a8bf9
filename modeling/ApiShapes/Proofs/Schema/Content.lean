import ApiShapes.Schema.Content

/-!
# What a node describes

`Content.ofNode` reads the node of an entry.  This module says by the node alone which values it
gives, which of its maps and lists nest a shape and which describe the elements of a collection, and
what the entries of that shape are.  Main statements: reading a node gives a value, a shape or a
collection exactly if the node describes it, and else a fault.
-/

namespace ApiShapes

/-- The node of a default value. -/
def Literal.toNode : Literal → Node
  | .bool b => .bool b
  | .integer i => .integer i
  | .float x => .float x
  | .string s => .string s

/-- The default value of a scalar is the scalar itself. -/
theorem Literal.ofNode?_eq_some {node : Node} {literal : Literal} :
    Literal.ofNode? node = some literal ↔ node = literal.toNode := by
  constructor
  · intro isLiteral
    cases node <;> cases isLiteral <;> rfl
  · rintro rfl
    cases literal <;> rfl

namespace Node

/--
The type, the default and the requirement of the value that a node describes: a scalar has the type
of its kind and is its own default, and a map spells all three out.
-/
inductive GivesValue : Node → String → Option Literal → Option Bool → Prop where
  | null : GivesValue .null "null" none none
  | bool (b : Bool) : GivesValue (.bool b) "bool" (some (.bool b)) none
  | integer (i : Int64) : GivesValue (.integer i) "int" (some (.integer i)) none
  | float (x : Binary64) : GivesValue (.float x) "float" (some (.float x)) none
  | string (s : String) : GivesValue (.string s) "string" (some (.string s)) none
  | explicit {entries : Entries} {type : String} {default : Option Literal}
      {required : Option Bool}
      (spelledOut : (Node.map entries).present? "type" = some (.string type))
      (hasDefault : (Node.map entries).present? "default" = default.map Literal.toNode)
      (hasRequired : (Node.map entries).present? "required" = required.map Node.bool) :
      GivesValue (.map entries) type default required

/-- The node is a map that is neither spelled out nor positional, or an empty list. -/
def IsNested : Node → Prop
  | .map entries =>
      (Node.map entries).present? "type" = none ∧ (Node.map entries).present? "0" = none
  | .list items => items = []
  | _ => False

/-- The node is a positional map that is not spelled out, or a list with elements. -/
def IsSequence : Node → Prop
  | .map entries =>
      (Node.map entries).present? "type" = none ∧ (Node.map entries).present? "0" ≠ none
  | .list items => items ≠ []
  | _ => False

/-- The entries of the shape that a node describes. -/
inductive ShapeEntries : Node → Entries → Prop where
  | map {entries : Entries}
      (notExplicit : (Node.map entries).present? "type" = none)
      (notPositional : (Node.map entries).present? "0" = none) :
      ShapeEntries (.map entries) entries
  | emptyList : ShapeEntries (.list []) []

/-- The entries of the elements of the collection that a node describes. -/
inductive ElementEntries : Node → Entries → Prop where
  | map {entries elements : Entries}
      (notExplicit : (Node.map entries).present? "type" = none)
      (positional : (Node.map entries).present? "0" = some (.map elements)) :
      ElementEntries (.map entries) elements
  | list {elements : Entries} {others : List Node} :
      ElementEntries (.list (.map elements :: others)) elements

end Node

namespace Content

theorem ofEntries_eq_map (entries : Entries) :
    ofEntries entries = entries.map fun entry => (entry.1, ofNode entry.2) := by
  induction entries with
  | nil => rw [ofEntries, List.map_nil]
  | cons entry entries ih => rw [ofEntries, ih, List.map_cons]

/-- Every field comes from an entry, and every entry makes a field. -/
theorem mem_ofEntries {key : String} {content : Content} {entries : Entries} :
    (key, content) ∈ ofEntries entries ↔
      ∃ node, (key, node) ∈ entries ∧ ofNode node = content := by
  rw [ofEntries_eq_map, List.mem_map]
  constructor
  · rintro ⟨⟨key, node⟩, member, equal⟩
    rcases Prod.mk.inj equal with ⟨rfl, rfl⟩
    exact ⟨node, member, rfl⟩
  · rintro ⟨node, member, rfl⟩
    exact ⟨(key, node), member, rfl⟩

/-- Whether the node of an entry cannot be read. -/
def IsMalformed : Content → Prop
  | malformed _ _ => True
  | _ => False

/-- A map is positional if it has an entry `0` that is not null. -/
theorem ofPositional_eq (entries : Entries) :
    ofPositional entries = ((Node.map entries).present? "0").map ofElement := by
  induction entries with
  | nil => rw [ofPositional]; rfl
  | cons entry entries ih =>
      rcases entry with ⟨key, node⟩
      rw [ofPositional]
      by_cases isElement : key = elementKey
      · subst key
        rw [if_pos rfl]
        cases node <;> simp [Node.present?, Node.get?, Node.isNull, elementKey, Option.filter]
      · have notElement : ("0" == key) = false := by
          simpa using fun equal => isElement equal.symm
        rw [if_neg isElement, ih]
        simp only [Node.present?, Node.get?, List.lookup_cons, notElement]

/-- A map that is not spelled out describes a collection if it is positional, and else a shape. -/
theorem ofNode_map
    {entries : Entries} (notExplicit : (Node.map entries).present? "type" = none) :
    ofNode (.map entries) =
      match (Node.map entries).present? "0" with
      | some element => ofElement element
      | none => .shape (ofEntries entries) := by
  rw [ofNode, notExplicit, ofPositional_eq]
  cases (Node.map entries).present? "0" <;> rfl

theorem explicitType_eq_ok {node : Node} {type : String} :
    explicitType node = .ok type ↔ node = .string type := by
  cases node <;> simp [explicitType]

/-- A default that is spelled out is a scalar, or it is null or left out. -/
theorem explicitDefault_eq_ok {entries : Entries} {default : Option Literal} :
    explicitDefault entries = .ok default ↔
      (Node.map entries).present? "default" = default.map Literal.toNode := by
  rw [explicitDefault, Node.present?, Node.get?]
  cases entries.lookup "default" with
  | none => cases default <;> simp
  | some node =>
      cases node <;> cases default <;>
        simp [Literal.ofNode?, Node.isNull, Option.filter, ← Literal.ofNode?_eq_some]

/-- A requirement that is spelled out is a truth value, or it is null or left out. -/
theorem explicitRequired_eq_ok {entries : Entries} {required : Option Bool} :
    explicitRequired entries = .ok required ↔
      (Node.map entries).present? "required" = required.map Node.bool := by
  rw [explicitRequired, Node.present?, Node.get?]
  cases entries.lookup "required" with
  | none => cases required <;> simp
  | some node => cases node <;> cases required <;> simp [Node.isNull, Option.filter]

theorem explicitType_malformed
    {node : Node} {fault : Content} (failed : explicitType node = .error fault) :
    ∃ place problem, fault = .malformed place problem := by
  cases node <;> cases failed <;> exact ⟨_, _, rfl⟩

theorem explicitDefault_malformed
    {entries : Entries} {fault : Content} (failed : explicitDefault entries = .error fault) :
    ∃ place problem, fault = .malformed place problem := by
  rw [explicitDefault] at failed
  split at failed
  · cases failed
  · cases failed
  · split at failed
    · cases failed
    · exact ⟨_, _, (Except.error.inj failed).symm⟩

theorem explicitRequired_malformed
    {entries : Entries} {fault : Content} (failed : explicitRequired entries = .error fault) :
    ∃ place problem, fault = .malformed place problem := by
  rw [explicitRequired] at failed
  split at failed
  · cases failed
  · cases failed
  · cases failed
  · exact ⟨_, _, (Except.error.inj failed).symm⟩

/-- A field that is spelled out is a value with all three parts, or one part is at fault. -/
theorem ofExplicit_cases (type : Node) (entries : Entries) :
    (∃ name default required,
        (explicitType type = .ok name ∧ explicitDefault entries = .ok default ∧
          explicitRequired entries = .ok required) ∧
        ofExplicit type entries = .value name default required) ∨
      ∃ place problem, ofExplicit type entries = .malformed place problem := by
  rw [ofExplicit]
  split
  · rename_i hasType hasDefault hasRequired
    exact .inl ⟨_, _, _, ⟨hasType, hasDefault, hasRequired⟩, rfl⟩
  · rename_i fault failed
    exact .inr (explicitType_malformed failed)
  · rename_i fault failed _
    exact .inr (explicitDefault_malformed failed)
  · rename_i fault failed _ _
    exact .inr (explicitRequired_malformed failed)

/-- A field that is spelled out is a value exactly if its three parts can be read. -/
theorem ofExplicit_eq_value
    {type : Node} {entries : Entries}
    {name : String} {default : Option Literal} {required : Option Bool} :
    ofExplicit type entries = .value name default required ↔
      explicitType type = .ok name ∧ explicitDefault entries = .ok default ∧
        explicitRequired entries = .ok required := by
  constructor
  · intro isValue
    rcases ofExplicit_cases type entries with ⟨_, _, _, parts, result⟩ | ⟨_, _, result⟩
    · cases result.symm.trans isValue
      exact parts
    · cases result.symm.trans isValue
  · rintro ⟨hasType, hasDefault, hasRequired⟩
    rw [ofExplicit, hasType, hasDefault, hasRequired]

/-- The element of a collection is a map, or the collection is malformed. -/
theorem ofElement_cases (node : Node) :
    (∃ inner, node = .map inner ∧ ofElement node = .collection (ofEntries inner)) ∨
      ∃ place problem, ofElement node = .malformed place problem := by
  cases node with
  | map inner => exact .inl ⟨inner, rfl, by rw [ofElement]⟩
  | _ => exact .inr ⟨_, _, by rw [ofElement]; simp⟩

/-- A node describes a shape, a collection, or no fields at all. -/
theorem ofNode_cases (node : Node) :
    (∃ inner, node.ShapeEntries inner ∧ ofNode node = .shape (ofEntries inner)) ∨
      (∃ inner, node.ElementEntries inner ∧ ofNode node = .collection (ofEntries inner)) ∨
      (∃ type default required, ofNode node = .value type default required) ∨
      ∃ place problem, ofNode node = .malformed place problem := by
  match node with
  | .map entries =>
      cases explicit : (Node.map entries).present? "type" with
      | some type =>
          rw [ofNode, explicit]
          rcases ofExplicit_cases type entries with ⟨name, _, _, -, result⟩ | isMalformed
          · exact .inr (.inr (.inl ⟨name, _, _, result⟩))
          · exact .inr (.inr (.inr isMalformed))
      | none =>
          rw [ofNode_map explicit]
          cases positional : (Node.map entries).present? "0" with
          | none => exact .inl ⟨entries, .map explicit positional, rfl⟩
          | some element =>
              rcases ofElement_cases element with ⟨inner, rfl, result⟩ | isMalformed
              · exact .inr (.inl ⟨inner, .map explicit positional, result⟩)
              · exact .inr (.inr (.inr isMalformed))
  | .list [] => exact .inl ⟨[], .emptyList, by rw [ofNode, ofEntries]⟩
  | .list (element :: others) =>
      rw [ofNode]
      rcases ofElement_cases element with ⟨inner, rfl, result⟩ | isMalformed
      · exact .inr (.inl ⟨inner, .list, result⟩)
      · exact .inr (.inr (.inr isMalformed))
  | .null | .bool _ | .integer _ | .float _ | .string _ =>
      exact .inr (.inr (.inl ⟨_, _, _, by simp only [ofNode]; rfl⟩))

/-- A node describes a shape exactly if it nests one, with the fields of its entries. -/
theorem ofNode_eq_shape {node : Node} {fields : Fields} :
    ofNode node = .shape fields ↔
      ∃ inner, node.ShapeEntries inner ∧ fields = ofEntries inner := by
  constructor
  · intro isShape
    rcases ofNode_cases node with ⟨inner, entries, result⟩ | ⟨_, _, result⟩ |
      ⟨_, _, _, result⟩ | ⟨_, _, result⟩
    · exact ⟨inner, entries, Content.shape.inj (isShape.symm.trans result)⟩
    all_goals cases isShape.symm.trans result
  · rintro ⟨inner, isShape, rfl⟩
    cases isShape with
    | map notExplicit notPositional => rw [ofNode_map notExplicit, notPositional]
    | emptyList => rw [ofNode, ofEntries]

/-- A node describes a collection exactly if it has an element that is a map. -/
theorem ofNode_eq_collection {node : Node} {fields : Fields} :
    ofNode node = .collection fields ↔
      ∃ inner, node.ElementEntries inner ∧ fields = ofEntries inner := by
  constructor
  · intro isCollection
    rcases ofNode_cases node with ⟨_, _, result⟩ | ⟨inner, entries, result⟩ |
      ⟨_, _, _, result⟩ | ⟨_, _, result⟩
    · cases isCollection.symm.trans result
    · exact ⟨inner, entries, Content.collection.inj (isCollection.symm.trans result)⟩
    all_goals cases isCollection.symm.trans result
  · rintro ⟨inner, isCollection, rfl⟩
    cases isCollection with
    | map notExplicit positional => simp only [ofNode_map notExplicit, positional, ofElement]
    | list => rw [ofNode, ofElement]

/-- A node describes a value exactly if it is a scalar or spells one out. -/
theorem ofNode_eq_value
    {node : Node} {type : String} {default : Option Literal} {required : Option Bool} :
    ofNode node = .value type default required ↔ node.GivesValue type default required := by
  have notElement : ∀ element, ofElement element ≠ .value type default required := by
    intro element isValue
    rcases ofElement_cases element with ⟨_, -, result⟩ | ⟨_, _, result⟩
    all_goals cases result.symm.trans isValue
  constructor
  · intro reading
    match node with
    | .map entries =>
        cases explicit : (Node.map entries).present? "type" with
        | some spelled =>
            rw [ofNode, explicit, ofExplicit_eq_value, explicitType_eq_ok, explicitDefault_eq_ok,
              explicitRequired_eq_ok] at reading
            rcases reading with ⟨rfl, hasDefault, hasRequired⟩
            exact .explicit explicit hasDefault hasRequired
        | none =>
            rw [ofNode_map explicit] at reading
            cases positional : (Node.map entries).present? "0" with
            | none => simp [positional] at reading
            | some element =>
                rw [positional] at reading
                exact absurd reading (notElement element)
    | .list [] => simp [ofNode] at reading
    | .list (element :: others) =>
        rw [ofNode] at reading
        exact absurd reading (notElement element)
    | .null | .bool _ | .integer _ | .float _ | .string _ =>
        simp only [ofNode, ofScalar, value.injEq] at reading
        rcases reading with ⟨rfl, rfl, rfl⟩
        constructor
  · intro given
    cases given with
    | explicit spelledOut hasDefault hasRequired =>
        rw [ofNode, spelledOut, ofExplicit_eq_value, explicitType_eq_ok, explicitDefault_eq_ok,
          explicitRequired_eq_ok]
        exact ⟨rfl, hasDefault, hasRequired⟩
    | _ =>
        simp only [ofNode, ofScalar]
        rfl

/-- The type of a field is the one that is spelled out, or that of a scalar. -/
theorem type_of_ofNode
    {node : Node} {type : String} {default : Option Literal} {required : Option Bool}
    (reading : ofNode node = .value type default required) :
    type = inferredType node ∨
      ∃ entries, node = .map entries ∧
        (Node.map entries).present? "type" = some (.string type) := by
  cases ofNode_eq_value.mp reading with
  | explicit spelledOut hasDefault hasRequired => exact .inr ⟨_, rfl, spelledOut⟩
  | _ => exact .inl rfl

/-- A node that nests a shape can always be read. -/
theorem ofNode_of_isNested {node : Node} (nested : node.IsNested) :
    ∃ fields, ofNode node = .shape fields := by
  cases node with
  | map entries => exact ⟨_, ofNode_eq_shape.mpr ⟨entries, .map nested.1 nested.2, rfl⟩⟩
  | list items =>
      obtain rfl : items = [] := nested
      exact ⟨_, ofNode_eq_shape.mpr ⟨[], .emptyList, rfl⟩⟩
  | _ => exact nested.elim

theorem ofNode_of_isSequence
    {node : Node} (sequence : node.IsSequence)
    (wellFormed : ¬ (ofNode node).IsMalformed) :
    ∃ fields, ofNode node = .collection fields := by
  have ofElementNode : ∀ element, ofNode node = ofElement element →
      ∃ fields, ofNode node = .collection fields := by
    intro element isElement
    rw [isElement] at wellFormed ⊢
    rcases ofElement_cases element with ⟨inner, -, result⟩ | ⟨place, problem, result⟩
    · exact ⟨_, result⟩
    · rw [result] at wellFormed
      exact absurd trivial wellFormed
  cases node with
  | map entries =>
      rcases Option.ne_none_iff_exists'.mp sequence.2 with ⟨element, positional⟩
      exact ofElementNode element (by rw [ofNode_map sequence.1, positional])
  | list items =>
      cases items with
      | nil => exact absurd rfl sequence
      | cons element others => exact ofElementNode element (by rw [ofNode])
  | _ => exact sequence.elim

/-- A node that nests a shape or describes a collection gives the fields of a shape. -/
theorem ofNode_of_nests
    {node : Node} (nests : node.IsNested ∨ node.IsSequence)
    (wellFormed : ¬ (ofNode node).IsMalformed) :
    ∃ fields, ofNode node = .shape fields ∨ ofNode node = .collection fields := by
  rcases nests with nested | sequence
  · rcases ofNode_of_isNested nested with ⟨fields, reading⟩
    exact ⟨fields, .inl reading⟩
  · rcases ofNode_of_isSequence sequence wellFormed with ⟨fields, reading⟩
    exact ⟨fields, .inr reading⟩

end Content

end ApiShapes
