import ApiShapes.ClassName
import ApiShapes.Schema.Content

/-!
# Properties of a class

Every field of a shape becomes a property, whose type is the one that is spelled out or inferred, or
else the reference to the class that the field is planned to have.
-/

namespace ApiShapes.Plan

/-- The property that a field becomes in the class `parent`. -/
def property? (parent ns key : String) : Content → Option Property
  | .value type default required => some ⟨fieldName key, type, default, required⟩
  | .shape _ =>
      some ⟨fieldName key,
        classReference (nestedNamespace ns) (nestedClass parent (fieldName key)), none, none⟩
  | .collection _ =>
      some ⟨fieldName key,
        classReference (nestedNamespace ns)
          (collectionClass (nestedClass parent (fieldName key))), none, none⟩
  | .malformed _ _ => none

/--
The properties of a class.  Keys with the same field name make one property, which stands at the
place of the first and is defined by the last.
-/
def properties (parent ns : String) (fields : Fields) : List Property :=
  (fields.filterMap fun (key, content) => property? parent ns key content).foldl
    (fun known property => property.insert known) []

end ApiShapes.Plan
