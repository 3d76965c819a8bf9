import ApiShapes.Plan.Properties
import ApiShapes.Plan.Step
import ApiShapes.Schema.Basic
import ApiShapes.Schema.Part

/-!
# The outline of a plan

The steps that make the classes of a schema, written down without looking at any class planned
before.  The name of a shape is reserved before its fields are gone through, and the class is
emitted after them, so nested classes come before the class that refers to them.
-/

namespace ApiShapes

/-- Where the classes of a shape belong, and where the schema describes it. -/
structure Site where
  ns : String
  dir : Path
  pointer : Pointer
  deriving Repr, DecidableEq

/-- The site of what `segment` describes, in the namespace and directory of nested classes. -/
def Site.nested (site : Site) (segment : String) : Site :=
  ⟨nestedNamespace site.ns, site.dir.join ⟨nestedSegment⟩, site.pointer.child segment⟩

namespace Plan

/-- The class of a shape. -/
def shapeArtifact (name : String) (site : Site) (fields : Fields) : Artifact :=
  .shape ⟨name, site.ns, site.dir, properties name site.ns fields⟩

/-- The steps around those of the fields of a shape. -/
def aroundFields (name : String) (site : Site) (fields : Fields) (steps : List Step) : List Step :=
  .reserve site.ns name site.pointer :: (steps ++ [.emit (shapeArtifact name site fields)])

/-- The steps that make the collection class over the shape `element` of the same site. -/
def collectionSteps (element : String) (site : Site) : List Step :=
  [.reserve site.ns (collectionClass element) site.pointer,
    .emit (.collection
      ⟨collectionClass element, classReference site.ns element, site.ns, site.dir⟩)]

mutual

/-- The steps for what a field of the class `parent` describes; `site` is that of the class. -/
def contentSteps (parent : String) (site : Site) (key : String) : Content → List Step
  | .value _ _ _ => []
  | .malformed place problem => [.reject ((site.pointer.child key).append place) problem]
  | .shape fields =>
      let name := nestedClass parent (fieldName key)
      let inner := site.nested key
      aroundFields name inner fields (fieldSteps name inner fields)
  | .collection fields =>
      let name := nestedClass parent (fieldName key)
      let inner : Site := { site.nested key with
        pointer := (site.pointer.child key).child Content.elementKey }
      aroundFields name inner fields (fieldSteps name inner fields) ++ collectionSteps name inner

/-- The steps for the fields of the class `parent`, in order. -/
def fieldSteps (parent : String) (site : Site) : Fields → List Step
  | [] => []
  | (key, content) :: fields =>
      contentSteps parent site key content ++ fieldSteps parent site fields

end

/-- The steps for a shape and all that is nested in it. -/
def shapeSteps (name : String) (site : Site) (fields : Fields) : List Step :=
  aroundFields name site fields (fieldSteps name site fields)

/-- The steps for a part of the document `document`, which the schema describes at `pointer`. -/
def partSteps (document ns : String) (pointer : Pointer) : Part → List Step
  | .shape place ending fields =>
      shapeSteps (documentClass document ++ ending) ⟨ns, .empty, pointer.append place⟩ fields
  | .malformed place problem => [.reject (pointer.append place) problem]

/-- The steps for a document. -/
def documentSteps (document ns : String) (pointer : Pointer) (node : Node) : List Step :=
  (Part.ofDocument node).flatMap (partSteps document ns pointer)

/-- The steps for the documents of a schema. -/
def schemaSteps (schema : Schema) (ns : String) : List Step :=
  schema.documents.flatMap fun (document, node) =>
    documentSteps document ns (Pointer.root.child document) node

end Plan

end ApiShapes
