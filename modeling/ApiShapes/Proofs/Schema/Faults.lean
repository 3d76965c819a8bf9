import ApiShapes.Proofs.Schema.Content
import ApiShapes.Proofs.Schema.Resolution
import ApiShapes.Schema.Part

/-!
# The nodes that faults are about

A node that cannot be read stays in what a document describes as a malformed content or part, with
the place of the fault from there on.  `SchemaProblem.HoldsOf` says what a problem asserts of the
node at its place: that it has the kind that was found, or that a class whose name is taken was to
be made of it.  Main statements: every malformed content or part has its fault at a node of which
the problem holds, and the wording of a problem that found a kind ends in that kind and no other.
-/

namespace ApiShapes

/-- A node of which a class can be named: a map, or an empty list. -/
def Node.CanName (node : Node) : Prop :=
  (∃ entries, node = .map entries) ∨ node = .list []

namespace SchemaProblem

/-- The problem is that a class name is taken. -/
def IsDuplicate : SchemaProblem → Prop
  | duplicateClass _ _ => True
  | _ => False

/-- The kind that was found in the place of the one that was expected. -/
def found? : SchemaProblem → Option Kind
  | notMap found => some found
  | elementNotMap found => some found
  | typeNotString found => some found
  | defaultNotScalar found => some found
  | requiredNotBoolean found => some found
  | _ => none

/-- What a problem asserts of the node at its place. -/
def HoldsOf (problem : SchemaProblem) (node : Node) : Prop :=
  problem.found? = some node.kind ∨ (problem.IsDuplicate ∧ node.CanName)

/-- A problem that found a kind is not about a class name. -/
theorem not_isDuplicate_of_found?
    {problem : SchemaProblem} {kind : Kind} (found : problem.found? = some kind) :
    ¬ problem.IsDuplicate := by
  cases problem with
  | duplicateClass ns className => cases found
  | _ => exact id

/-- The wording of a problem that found a kind ends in the word `found` and the name of the kind. -/
theorem message_of_found?
    {problem : SchemaProblem} {kind : Kind} (found : problem.found? = some kind) :
    ∃ cause, "found ".toList <:+ cause.toList ∧ problem.message = cause ++ kind.name := by
  cases problem <;> simp only [found?, Option.some.injEq, reduceCtorEq] at found <;> subst found
  · exact ⟨"expected a map, found ", by decide, rfl⟩
  · exact ⟨"collection element must be a map of properties, found ", by decide, rfl⟩
  · exact ⟨"type must be a string, found ", by decide, rfl⟩
  · exact ⟨"default must be a scalar, found ", by decide, rfl⟩
  · exact ⟨"required must be a boolean, found ", by decide, rfl⟩

/-- No wording of a found kind is the ending of another one. -/
theorem eq_of_found_suffix
    {left right : Kind}
    (isSuffix : ("found " ++ left.name).toList <:+ ("found " ++ right.name).toList) :
    left = right := by
  revert isSuffix
  cases left <;> cases right <;> decide

/-- The wording of a problem that found a kind ends in the name of exactly that kind. -/
theorem message_endsIn_iff
    {problem : SchemaProblem} {found : Kind} (isFound : problem.found? = some found) (kind : Kind) :
    ("found " ++ kind.name).toList <:+ problem.message.toList ↔ kind = found := by
  rcases message_of_found? isFound with ⟨cause, ⟨opening, cause_eq⟩, message_eq⟩
  have endsIn : ("found " ++ found.name).toList <:+ problem.message.toList := by
    refine ⟨opening, ?_⟩
    rw [message_eq, String.toList_append, String.toList_append, ← cause_eq, List.append_assoc]
  constructor
  · intro alsoEndsIn
    rcases List.suffix_or_suffix_of_suffix alsoEndsIn endsIn with shorter | longer
    · exact eq_of_found_suffix shorter
    · exact (eq_of_found_suffix longer).symm
  · rintro rfl
    exact endsIn

end SchemaProblem

namespace Content

variable {place : List String} {problem : SchemaProblem}

/-- A type at fault is found at the key `type`, with its kind. -/
theorem explicitType_fault
    {type : Node} (failed : explicitType type = .error (.malformed place problem)) :
    place = ["type"] ∧ problem.found? = some type.kind := by
  cases type <;> cases failed <;> exact ⟨rfl, rfl⟩

/-- A default at fault is found at the key `default`, with its kind. -/
theorem explicitDefault_fault
    {entries : Entries} (failed : explicitDefault entries = .error (.malformed place problem)) :
    place = ["default"] ∧ ∃ node, entries.lookup "default" = some node ∧
      problem.found? = some node.kind := by
  rw [explicitDefault] at failed
  split at failed
  · cases failed
  · cases failed
  · rename_i node _ found
    split at failed
    · cases failed
    · cases failed
      exact ⟨rfl, node, found, rfl⟩

theorem explicitRequired_fault
    {entries : Entries} (failed : explicitRequired entries = .error (.malformed place problem)) :
    place = ["required"] ∧ ∃ node, entries.lookup "required" = some node ∧
      problem.found? = some node.kind := by
  rw [explicitRequired] at failed
  split at failed
  · cases failed
  · cases failed
  · cases failed
  · rename_i node _ _ found
    cases failed
    exact ⟨rfl, node, found, rfl⟩

/-- An element at fault is found at the position zero, with its kind. -/
theorem ofElement_fault
    {element : Node} (reading : ofElement element = .malformed place problem) :
    place = ["0"] ∧ problem.found? = some element.kind := by
  cases element with
  | map entries =>
      rw [ofElement] at reading
      cases reading
  | _ =>
      simp only [ofElement, malformed.injEq] at reading
      rcases reading with ⟨rfl, rfl⟩
      exact ⟨rfl, rfl⟩

/-- A fault in a field that is spelled out is at one of its three parts. -/
theorem ofExplicit_fault
    {type : Node} {entries : Entries}
    (explicit : (Node.map entries).present? "type" = some type)
    (reading : ofExplicit type entries = .malformed place problem) :
    ∃ inner, (Node.map entries).follow? place = some inner ∧
      problem.found? = some inner.kind := by
  rw [ofExplicit] at reading
  split at reading
  · cases reading
  · rename_i fault failed
    subst reading
    rcases explicitType_fault failed with ⟨rfl, found⟩
    exact ⟨type, Node.follow?_of_present? explicit, found⟩
  · rename_i fault failed _
    subst reading
    rcases explicitDefault_fault failed with ⟨rfl, node, isEntry, found⟩
    exact ⟨node, Node.follow?_of_get? isEntry, found⟩
  · rename_i fault failed _ _
    subst reading
    rcases explicitRequired_fault failed with ⟨rfl, node, isEntry, found⟩
    exact ⟨node, Node.follow?_of_get? isEntry, found⟩

/-- The fault of an entry lies at a node of the kind that was found. -/
theorem ofNode_fault
    {node : Node} (reading : ofNode node = .malformed place problem) :
    ∃ inner, node.follow? place = some inner ∧ problem.found? = some inner.kind := by
  match node with
  | .map entries =>
      cases explicit : (Node.map entries).present? "type" with
      | some type =>
          rw [ofNode, explicit] at reading
          exact ofExplicit_fault explicit reading
      | none =>
          rw [ofNode_map explicit] at reading
          cases positional : (Node.map entries).present? "0" with
          | none => simp [positional] at reading
          | some element =>
              rw [positional] at reading
              rcases ofElement_fault reading with ⟨rfl, found⟩
              exact ⟨element, Node.follow?_of_present? positional, found⟩
  | .list [] =>
      rw [ofNode] at reading
      cases reading
  | .list (element :: others) =>
      rw [ofNode] at reading
      rcases ofElement_fault reading with ⟨rfl, found⟩
      exact ⟨element, Node.follow?_first element others, found⟩
  | .null | .bool _ | .integer _ | .float _ | .string _ =>
      simp [ofNode, ofScalar] at reading

end Content

namespace Part

variable {place : List String} {problem : SchemaProblem}

theorem ofRequest_fault
    {request : Node} (reading : ofRequest request = .malformed place problem) :
    place = ["request"] ∧ problem.found? = some request.kind := by
  cases request <;> cases reading <;> exact ⟨rfl, rfl⟩

/-- A response at fault is found at its status, with its kind. -/
theorem ofStatus_fault
    {status : String} {response : Node}
    (reading : ofStatus status response = .malformed place problem) :
    place = ["response", status] ∧ problem.found? = some response.kind := by
  cases response <;> cases reading <;> exact ⟨rfl, rfl⟩

/-- The fault of a part of a document lies at a node of the kind that was found. -/
theorem fault_of_mem
    {node : Node} (distinct : node.hasDistinctKeys = true)
    (member : .malformed place problem ∈ ofDocument node) :
    ∃ inner, node.follow? place = some inner ∧ problem.found? = some inner.kind := by
  rw [ofDocument, List.mem_append] at member
  rcases member with isRequest | isResponse
  · rcases Option.map_eq_some_iff.mp (Option.mem_toList.mp isRequest) with
      ⟨request, found, reading⟩
    rcases ofRequest_fault reading with ⟨rfl, isKind⟩
    exact ⟨request, Node.follow?_of_present? found, isKind⟩
  · cases found : node.present? "response" with
    | none => simp [found] at isResponse
    | some response =>
        rw [found, Option.map_some, Option.getD_some] at isResponse
        have atResponse := Node.follow?_of_present? found
        by_cases isMap : ∃ statuses, response = .map statuses
        · rcases isMap with ⟨statuses, rfl⟩
          rw [ofResponse, List.mem_map] at isResponse
          rcases isResponse with ⟨⟨status, inner⟩, isStatus, reading⟩
          rcases ofStatus_fault reading with ⟨rfl, isKind⟩
          refine ⟨inner, ?_, isKind⟩
          have distinctStatuses := Node.distinct_of_present? distinct found
          exact (Node.follow?_within atResponse [status]).trans
            (Node.follow?_of_mem distinctStatuses (List.mem_filter.mp isStatus).1)
        · have isFault : Part.malformed place problem =
              .malformed ["response"] (.notMap response.kind) := by
            cases response with
            | map statuses => exact absurd ⟨statuses, rfl⟩ isMap
            | _ => exact List.mem_singleton.mp isResponse
          cases isFault
          exact ⟨response, atResponse, rfl⟩

end Part

end ApiShapes
