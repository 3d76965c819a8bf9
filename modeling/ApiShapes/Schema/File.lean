import ApiShapes.Schema.Basic
import ApiShapes.Storage.Basic

/-!
# Schemas in files

A schema is read from a file of a workspace, whose bytes must be text in UTF-8.
-/

namespace ApiShapes.Schema

/-- Reads the schema in a file. -/
def ofFile {m : Type → Type} [Monad m] [Workspace m] (path : Path) : ExceptT Error m Schema := do
  let content ← Storage.attempt path (Workspace.read path)
  match String.fromUTF8? content with
  | some text => Schema.ofText text
  | none => throw (.storage path .invalidText)

end ApiShapes.Schema
