import ApiShapes.Schema.Content

/-!
# The parts of a document

A document describes a request and the responses to it.  The request is one shape with a field for
each section, and every status has a shape of its own.
-/

namespace ApiShapes

/--
A part of a document, at its place in the document: the fields of a shape, and the ending of its
class name; or a node that should be a map and is none.
-/
inductive Part where
  | shape (place : List String) (ending : String) (fields : Fields)
  | malformed (place : List String) (problem : SchemaProblem)
  deriving Repr

namespace Part

/-- The sections of a request that become fields. -/
def requestSections : List String := ["headers", "params", "body"]

/-- The request of a document. -/
def ofRequest : Node → Part
  | .map entries =>
      .shape ["request"] "Request"
        (Content.ofEntries (entries.filter (·.1 ∈ requestSections)))
  | other => .malformed ["request"] (.notMap other.kind)

/-- The response of a status. -/
def ofStatus (status : String) : Node → Part
  | .map entries => .shape ["response", status] ("Response" ++ status) (Content.ofEntries entries)
  | other => .malformed ["response", status] (.notMap other.kind)

/-- The responses of a document, without the statuses that are null. -/
def ofResponse : Node → List Part
  | .map entries =>
      (entries.filter (!·.2.isNull)).map fun (status, node) => ofStatus status node
  | other => [.malformed ["response"] (.notMap other.kind)]

/-- The parts of a document: its request and then its responses, as far as it has them. -/
def ofDocument (document : Node) : List Part :=
  ((document.present? "request").map ofRequest).toList ++
    ((document.present? "response").map ofResponse).getD []

end Part

end ApiShapes
