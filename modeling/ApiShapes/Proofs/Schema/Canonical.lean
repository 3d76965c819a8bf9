import ApiShapes.Plan.Basic
import ApiShapes.Proofs.Schema.Content

/-!
# Canonical schemas

Much of a schema means nothing: entries of a document besides its request and its response, sections
that no request has, null statuses, entries beside those of a field that is spelled out, all items
of a list but the first.  The canonical form of a schema is without them, and it writes a list as
the positional map that means the same.  What a node means depends on where it stands, so a property
value, an element, a request and a response have canonical forms of their own.  Main statement: the
canonical form of a schema has the same plan, or fails with the same error at the same place.
-/

namespace ApiShapes

namespace Node

/-- The first entry of each of the keys, in the order of the entries. -/
def firstEntries (keys : List String) : Entries → Entries
  | [] => []
  | (key, node) :: entries =>
      if key ∈ keys then (key, node) :: firstEntries (keys.filter (· ≠ key)) entries
      else firstEntries keys entries

mutual

/-- The canonical form of a property value. -/
def canonical : Node → Node
  | map entries =>
      match (map entries).present? "type" with
      | some _ => map (firstEntries ["type", "default", "required"] entries)
      | none =>
          match canonicalElement? entries with
          | some element => map [("0", element)]
          | none => map (canonicalEntries entries)
  | list [] => list []
  | list (element :: _) =>
      if element.isNull then list [null]
      else map [("0", canonicalFields element)]
  | scalar => scalar

/-- The canonical form of the first entry `0`, unless that is null. -/
def canonicalElement? : Entries → Option Node
  | [] => none
  | (key, node) :: entries =>
      if key = "0" then
        if node.isNull then none else some (canonicalFields node)
      else
        canonicalElement? entries

/-- The canonical form of a node that is read as the fields of a shape, if it is a map. -/
def canonicalFields : Node → Node
  | map entries => map (canonicalEntries entries)
  | other => other

/-- The canonical forms of property values. -/
def canonicalEntries : Entries → Entries
  | [] => []
  | (key, node) :: entries => (key, canonical node) :: canonicalEntries entries

end

/-- The canonical form of a request. -/
def canonicalRequest : Node → Node
  | map entries => map (canonicalEntries (entries.filter (·.1 ∈ Part.requestSections)))
  | other => other

/-- The canonical form of the responses of a document. -/
def canonicalResponse : Node → Node
  | map entries =>
      map ((entries.filter (!·.2.isNull)).map fun (status, node) => (status, canonicalFields node))
  | other => other

/-- The canonical form of an entry of a document. -/
def canonicalPart (key : String) (node : Node) : Node :=
  if key = "request" then canonicalRequest node else canonicalResponse node

/-- The canonical form of a document. -/
def canonicalDocument : Node → Node
  | map entries =>
      map ((firstEntries ["request", "response"] entries).map fun (key, node) =>
        (key, canonicalPart key node))
  | other => other

end Node

/-- The canonical form of a schema. -/
def Schema.canonical (schema : Schema) : Schema :=
  { schema with
    documents := schema.documents.map fun (document, node) => (document, node.canonicalDocument) }

namespace Node

/-! ## Looking up entries of canonical forms -/

/-- Keeping the first entries of some keys keeps what is found under them. -/
theorem lookup_firstEntries
    {key : String} {keys : List String} (isKept : key ∈ keys) (entries : Entries) :
    (firstEntries keys entries).lookup key = entries.lookup key := by
  induction entries generalizing keys with
  | nil => rfl
  | cons entry entries ih =>
      rcases entry with ⟨first, node⟩
      rw [firstEntries]
      by_cases isFirst : key = first
      · subst first
        rw [if_pos isKept, List.lookup_cons_self, List.lookup_cons_self]
      · have notFirst : (key == first) = false := beq_false_of_ne isFirst
        rw [List.lookup_cons, notFirst]
        split
        · rw [List.lookup_cons, notFirst]
          exact ih (List.mem_filter.mpr ⟨isKept, decide_eq_true isFirst⟩)
        · exact ih isKept

theorem lookup_map (change : String → Node → Node) (entries : Entries) (key : String) :
    (entries.map fun (key, node) => (key, change key node)).lookup key =
      (entries.lookup key).map (change key) := by
  induction entries with
  | nil => rfl
  | cons entry entries ih =>
      rcases entry with ⟨first, node⟩
      rw [List.map_cons, List.lookup_cons, List.lookup_cons, ih]
      by_cases isFirst : key = first
      · subst first
        rw [beq_self_eq_true]
        rfl
      · rw [beq_false_of_ne isFirst]

/-- Entries are brought into canonical form one by one. -/
theorem canonicalEntries_eq_map (entries : Entries) :
    canonicalEntries entries = entries.map fun (key, node) => (key, canonical node) := by
  induction entries with
  | nil => rw [canonicalEntries, List.map_nil]
  | cons entry entries ih => rw [canonicalEntries, ih, List.map_cons]

theorem isNull_canonicalFields (node : Node) : (canonicalFields node).isNull = node.isNull := by
  cases node <;> simp [canonicalFields, isNull]

/-- The canonical form of a node is null exactly if the node is. -/
theorem isNull_canonical (node : Node) : (canonical node).isNull = node.isNull := by
  match node with
  | .map entries =>
      rw [canonical]
      split
      · rfl
      · split <;> rfl
  | .list [] => rw [canonical]
  | .list (element :: others) =>
      rw [canonical]
      split <;> rfl
  | .null | .bool _ | .integer _ | .float _ | .string _ => simp [canonical]

theorem isNull_canonicalPart (key : String) (node : Node) :
    (canonicalPart key node).isNull = node.isNull := by
  rw [canonicalPart]
  split <;> cases node <;> rfl

/-- A change that keeps null apart commutes with looking up what is present. -/
theorem present?_map
    {change : String → Node → Node}
    (keepsNull : ∀ key node, (change key node).isNull = node.isNull)
    (entries : Entries) (key : String) :
    (map (entries.map fun (key, node) => (key, change key node))).present? key =
      ((map entries).present? key).map (change key) := by
  rw [present?, present?, get?, get?, lookup_map]
  cases entries.lookup key with
  | none => rfl
  | some node =>
      simp only [Option.map_some, Option.filter_some, keepsNull]
      split <;> rfl

/-- What is present under a key is found there in canonical form. -/
theorem present?_canonicalEntries (entries : Entries) (key : String) :
    (map (canonicalEntries entries)).present? key = ((map entries).present? key).map canonical := by
  rw [canonicalEntries_eq_map]
  exact present?_map (fun _ => isNull_canonical) entries key

/-- What is present under a key that is kept stays present. -/
theorem present?_firstEntries
    {key : String} {keys : List String} (isKept : key ∈ keys) (entries : Entries) :
    (map (firstEntries keys entries)).present? key = (map entries).present? key := by
  rw [present?, present?, get?, get?, lookup_firstEntries isKept]

theorem isNull_of_canonicalElement?
    {entries : Entries} {element : Node} (found : canonicalElement? entries = some element) :
    element.isNull = false := by
  induction entries with
  | nil => simp [canonicalElement?] at found
  | cons entry entries ih =>
      rw [canonicalElement?] at found
      split at found
      · split at found
        · cases found
        · rename_i notNull
          obtain rfl := Option.some.inj found
          rw [isNull_canonicalFields]
          exact eq_false_of_ne_true notNull
      · exact ih found

end Node

/-! ## Reading canonical forms -/

namespace Content

open Node

/-- Of a field that is spelled out only three entries are read. -/
theorem ofExplicit_firstEntries (type : Node) (entries : Entries) :
    ofExplicit type (firstEntries ["type", "default", "required"] entries) =
      ofExplicit type entries := by
  simp only [ofExplicit, explicitDefault, explicitRequired,
    lookup_firstEntries (show "default" ∈ ["type", "default", "required"] by decide),
    lookup_firstEntries (show "required" ∈ ["type", "default", "required"] by decide)]

/-- A map with an element alone is read as a list of that element. -/
theorem ofNode_positional {element : Node} (notNull : element.isNull = false) :
    ofNode (.map [("0", element)]) = ofElement element := by
  have notExplicit : (Node.map [("0", element)]).present? "type" = none := rfl
  have positional : (Node.map [("0", element)]).present? "0" = some element := by
    simp [present?, get?, notNull]
  rw [ofNode_map notExplicit, positional]

mutual

/-- A property value is read as its canonical form is. -/
theorem ofNode_canonical : ∀ node : Node, ofNode node.canonical = ofNode node
  | .map entries => by
      rw [canonical]
      cases explicit : (Node.map entries).present? "type" with
      | some type =>
          simp only [ofNode, explicit, ofExplicit_firstEntries,
            present?_firstEntries (show "type" ∈ ["type", "default", "required"] by decide)]
      | none =>
          have positional := map_ofElement_canonicalElement? entries
          rw [ofPositional_eq] at positional
          rw [ofNode_map explicit]
          cases found : canonicalElement? entries with
          | some element =>
              rw [found] at positional
              rcases Option.map_eq_some_iff.mp positional.symm with ⟨source, isSource, reading⟩
              simp only [isSource, reading,
                ofNode_positional (isNull_of_canonicalElement? found)]
          | none =>
              rw [found] at positional
              have notPositional := Option.map_eq_none_iff.mp positional.symm
              have stillNotExplicit :
                  (Node.map (canonicalEntries entries)).present? "type" = none := by
                rw [present?_canonicalEntries, explicit, Option.map_none]
              simp only [ofNode_map stillNotExplicit, present?_canonicalEntries, notPositional,
                Option.map_none, ofEntries_canonicalEntries entries]
  | .list [] => by rw [canonical]
  | .list (element :: others) => by
      rw [canonical]
      split
      · rename_i isNull
        cases element with
        | null => rw [ofNode, ofNode]
        | _ => cases isNull
      · rename_i notNull
        rw [ofNode_positional, ofNode]
        · exact ofElement_canonicalFields element
        · rw [isNull_canonicalFields]
          exact eq_false_of_ne_true notNull
  | .null | .bool _ | .integer _ | .float _ | .string _ => by simp [canonical]

/-- The element of a positional map is read as its canonical form is. -/
theorem map_ofElement_canonicalElement? :
    ∀ entries : Entries, (canonicalElement? entries).map ofElement = ofPositional entries
  | [] => by
      rw [canonicalElement?, ofPositional]
      rfl
  | (key, node) :: entries => by
      rw [canonicalElement?, ofPositional, elementKey]
      split
      · split
        · rfl
        · rw [Option.map_some, ofElement_canonicalFields node]
      · exact map_ofElement_canonicalElement? entries

/-- The element of a collection is read as its canonical form is. -/
theorem ofElement_canonicalFields : ∀ node : Node, ofElement (canonicalFields node) = ofElement node
  | .map entries => by
      rw [canonicalFields, ofElement, ofElement, ofEntries_canonicalEntries entries]
  | .null | .bool _ | .integer _ | .float _ | .string _ | .list _ => by rw [canonicalFields]; simp

/-- The fields of a shape are read as their canonical forms are. -/
theorem ofEntries_canonicalEntries :
    ∀ entries : Entries, ofEntries (canonicalEntries entries) = ofEntries entries
  | [] => by rw [canonicalEntries]
  | (key, node) :: entries => by
      rw [canonicalEntries, ofEntries, ofEntries, ofNode_canonical node,
        ofEntries_canonicalEntries entries]

end

end Content

namespace Part

open Node

/-- The canonical form of a request describes the same part. -/
theorem ofRequest_canonicalRequest (request : Node) :
    ofRequest request.canonicalRequest = ofRequest request := by
  cases request with
  | map entries =>
      have onlySections :
          (canonicalEntries (entries.filter (·.1 ∈ requestSections))).filter
              (·.1 ∈ requestSections) =
            canonicalEntries (entries.filter (·.1 ∈ requestSections)) := by
        rw [canonicalEntries_eq_map, List.filter_eq_self]
        intro entry member
        rcases List.mem_map.mp member with ⟨source, isSource, rfl⟩
        exact (List.mem_filter.mp isSource).2
      rw [canonicalRequest, ofRequest, ofRequest, onlySections,
        Content.ofEntries_canonicalEntries]
  | _ => rfl

theorem ofStatus_canonicalFields (status : String) (node : Node) :
    ofStatus status node.canonicalFields = ofStatus status node := by
  cases node with
  | map entries =>
      rw [canonicalFields, ofStatus, ofStatus, Content.ofEntries_canonicalEntries]
  | _ => simp [canonicalFields]

/-- The canonical form of the responses describes the same parts. -/
theorem ofResponse_canonicalResponse (response : Node) :
    ofResponse response.canonicalResponse = ofResponse response := by
  cases response with
  | map entries =>
      have noneNull :
          (((entries.filter (!·.2.isNull)).map fun (status, node) =>
              (status, canonicalFields node)).filter (!·.2.isNull)) =
            (entries.filter (!·.2.isNull)).map fun (status, node) =>
              (status, canonicalFields node) := by
        rw [List.filter_eq_self]
        intro entry member
        rcases List.mem_map.mp member with ⟨source, isSource, rfl⟩
        rw [isNull_canonicalFields]
        exact (List.mem_filter.mp isSource).2
      rw [canonicalResponse, ofResponse, ofResponse, noneNull, List.map_map]
      refine List.map_congr_left fun entry _ => ?_
      exact ofStatus_canonicalFields entry.1 entry.2
  | _ => rfl

theorem present?_canonicalDocument
    (node : Node) {key : String} (isRead : key ∈ ["request", "response"]) :
    node.canonicalDocument.present? key = (node.present? key).map (canonicalPart key) := by
  cases node with
  | map entries =>
      rw [canonicalDocument, present?_map isNull_canonicalPart, present?_firstEntries isRead]
  | _ => rfl

/-- A document has the parts that its canonical form has. -/
theorem ofDocument_canonicalDocument (node : Node) :
    ofDocument node.canonicalDocument = ofDocument node := by
  rw [ofDocument, ofDocument, present?_canonicalDocument node (by decide),
    present?_canonicalDocument node (by decide)]
  cases node.present? "request" <;> cases node.present? "response" <;>
    simp [canonicalPart, ofRequest_canonicalRequest, ofResponse_canonicalResponse]

end Part

namespace Plan

/--
Only what a schema says about requests, responses and their fields matters.  A schema and its
canonical form have the same plan in every namespace, or fail with the same error.
-/
theorem ofSchema_canonical (schema : Schema) (ns : String) :
    ofSchema schema.canonical ns = ofSchema schema ns := by
  have sameSteps : schemaSteps schema.canonical ns = schemaSteps schema ns := by
    simp only [schemaSteps, documentSteps, Schema.canonical, List.flatMap_map,
      Part.ofDocument_canonicalDocument]
  rw [ofSchema, ofSchema, sameSteps]

/-- A list is written as a positional map, and what nothing reads is gone. -/
example :
    Schema.canonical ⟨none, [("order", .map [("note", .null), ("request",
        .map [("body", .list [.map [("id", .integer 1)], .null]), ("cookies", .map [])])])]⟩ =
      ⟨none, [("order", .map [
        ("request", .map [("body", .map [("0", .map [("id", .integer 1)])])])])]⟩ := by
  rfl

end Plan

end ApiShapes
