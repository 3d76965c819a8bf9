import ApiShapes.Text.CamelCase
import ApiShapes.Text.Trim

/-!
# Names of classes, fields and namespaces

A document gives its classes the camel-cased name with the ending `Dto`; a nested class carries the
name of the class that holds it in front of its own field name; a collection class carries the name
of its element class.  Nested classes live in a namespace of their own below the namespace of the
class that holds them.
-/

namespace ApiShapes

/-- The last segment of the namespace and of the directory of nested classes. -/
def nestedSegment : String := "Nested"

/-- The common start of the class names of a document: `user-profile` gives `UserProfileDto`. -/
def documentClass (document : String) : String :=
  Text.upperCamel document ++ "Dto"

/-- The field name of a key: a key with a hyphen is camel-cased, any other key stays as it is. -/
def fieldName (key : String) : String :=
  if '-' ∈ key.toList then Text.lowerCamel key else key

/-- The class of a nested field: `Order` and `shipping_address` give `OrderShippingAddress`. -/
def nestedClass (parent field : String) : String :=
  parent ++ Text.upperCamel (Text.lowerCamel field)

/-- The collection class over an element class. -/
def collectionClass (element : String) : String :=
  element ++ "Collection"

/-- The namespace of the classes nested in the classes of `ns`. -/
def nestedNamespace (ns : String) : String :=
  ns ++ "\\" ++ nestedSegment

/-- The absolute reference to a class; backslashes in front of the namespace count for nothing. -/
def classReference (ns className : String) : String :=
  "\\" ++ Text.trimStart '\\' ns ++ "\\" ++ className

end ApiShapes
