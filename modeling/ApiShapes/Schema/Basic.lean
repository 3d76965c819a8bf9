import ApiShapes.Error
import ApiShapes.Json.Assembly
import ApiShapes.Schema.Settings

/-!
# Schemas

A schema is a JSON object.  Its entry `settings`, if there is one, chooses where and in which
namespace the classes go; every other entry is a document, the description of one request and its
responses.
-/

namespace ApiShapes

/-- A schema: its settings, and its documents by name. -/
structure Schema where
  settings : Option SchemaSettings
  documents : Entries
  deriving Repr

namespace Schema

/-- The key of the settings. -/
def settingsKey : String := "settings"

/-- The pointer to the settings. -/
def settingsPointer : Pointer := Pointer.root.child settingsKey

/-- The schema of a JSON value. -/
def ofJson : Json.Value → Except Error Schema
  | .object entries => do
      let documents := (Node.ofEntries entries).filter (·.1 ≠ settingsKey)
      match entries.lookup settingsKey with
      | none => pure ⟨none, documents⟩
      | some value =>
          let settings ← (SchemaSettings.ofJson value).mapError (.atPointer settingsPointer)
          pure ⟨some settings, documents⟩
  | _ => .error (.atPointer .root .rootNotObject)

/-- The schema of a JSON text. -/
def ofText (text : String) : Except Error Schema := do
  let value ← (Json.parse text).mapError .json
  ofJson value

end Schema

end ApiShapes
