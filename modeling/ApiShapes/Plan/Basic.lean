import ApiShapes.Plan.Outline

/-!
# Plans

The plan of a schema is the list of classes that are generated for it, nested ones first.  It comes
about in two passes: the outline writes the steps down, and `perform` carries them out.  A plan can
also be continued, class by class or document by document; what was planned before then only matters
for names that are taken.
-/

namespace ApiShapes

namespace Plan

/-- Plans the nested classes of a class, and gives its properties. -/
def addFields (planned : List Artifact) (name : String) (site : Site) (entries : Entries) :
    List Artifact × Except Error (List Property) :=
  let fields := Content.ofEntries entries
  outcome (properties name site.ns fields) planned (fieldSteps name site fields)

/-- Plans the classes of a document. -/
def addDocument (planned : List Artifact) (document ns : String) (pointer : Pointer)
    (node : Node) : List Artifact × Except Error Unit :=
  outcome () planned (documentSteps document ns pointer node)

/-- The classes of a schema in the namespace `ns`, nested ones first. -/
def ofSchema (schema : Schema) (ns : String) : Except Error (List Artifact) :=
  match perform [] (schemaSteps schema ns) with
  | (artifacts, none) => .ok artifacts
  | (_, some error) => .error error

end Plan

end ApiShapes
