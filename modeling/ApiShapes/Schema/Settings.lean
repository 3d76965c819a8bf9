import ApiShapes.Decimal.Layout
import ApiShapes.Json.Value
import ApiShapes.Schema.Problem

/-!
# Settings in a schema

A schema can say in which directory and in which namespace its classes go.  It does so in an object
with the keys `path` and `namespace`, or in an array of the two values; a value of another kind is
described in the error.
-/

namespace ApiShapes

/-- What a schema asks for: an output directory below the base directory, and a namespace. -/
structure SchemaSettings where
  path : Option String
  ns : Option String
  deriving Repr, DecidableEq

namespace SchemaSettings

/-- Floating-point numbers in the descriptions of unsuitable values. -/
def floatLayout : Decimal.Layout := ⟨-5, 15, true, .even⟩

/-- The integer that a number is described by, unless it is a floating-point number. -/
def describeNumber : Json.Number → String
  | .natural n => "integer `" ++ toString n.toNat ++ "`"
  | .negative i => "integer `" ++ toString i.toInt ++ "`"
  | .real x => "floating point `" ++ floatLayout.text x ++ "`"

/-- How an unsuitable value is described. -/
def describe : Json.Value → String
  | .null => "null"
  | .bool b => "boolean `" ++ toString b ++ "`"
  | .number n => describeNumber n
  | .string s => "string " ++ Text.quoted s
  | .array _ => "sequence"
  | .object _ => "map"

/-- A setting is a string, or null for none. -/
def optionalText : Json.Value → Except SchemaProblem (Option String)
  | .null => .ok none
  | .string s => .ok (some s)
  | other => .error (.settingsMismatch (describe other) "a string")

/-- Reads the entries of a settings object in order; entries of other keys mean nothing. -/
def ofEntries (settings : SchemaSettings) :
    List (String × Json.Value) → Except SchemaProblem SchemaSettings
  | [] => .ok settings
  | (key, value) :: entries =>
      if key = "path" then do
        let path ← optionalText value
        ofEntries ⟨path, settings.ns⟩ entries
      else if key = "namespace" then do
        let ns ← optionalText value
        ofEntries ⟨settings.path, ns⟩ entries
      else
        ofEntries settings entries

/-- The settings of a JSON value: an object, or an array of the path and the namespace. -/
def ofJson : Json.Value → Except SchemaProblem SchemaSettings
  | .object entries => ofEntries ⟨none, none⟩ entries
  | .array items => do
      let path ← optionalText (items[0]?.getD .null)
      let ns ← optionalText (items[1]?.getD .null)
      if 2 < items.length then throw (.settingsLength items.length)
      pure ⟨path, ns⟩
  | other => .error (.settingsMismatch (describe other) "struct DocSettings")

end SchemaSettings

end ApiShapes
