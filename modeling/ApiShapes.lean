import ApiShapes.Main
import ApiShapes.Storage.FileTree
import ApiShapes.Proofs.Command.Choice
import ApiShapes.Proofs.Command.Clearing
import ApiShapes.Proofs.Command.Files
import ApiShapes.Proofs.Command.InputErrors
import ApiShapes.Proofs.Json.NumberText
import ApiShapes.Proofs.Json.Reading
import ApiShapes.Proofs.Json.StringText
import ApiShapes.Proofs.Json.Text
import ApiShapes.Proofs.Output.Clearing
import ApiShapes.Proofs.Output.Interruption
import ApiShapes.Proofs.Output.Removal
import ApiShapes.Proofs.Output.Session
import ApiShapes.Proofs.Path.Below
import ApiShapes.Proofs.Path.Lexical
import ApiShapes.Proofs.Php.ClassFile
import ApiShapes.Proofs.Php.CollectionFile
import ApiShapes.Proofs.Php.DefaultLiteral
import ApiShapes.Proofs.Php.ShapeFile
import ApiShapes.Proofs.Php.StringLiteral
import ApiShapes.Proofs.Plan.Continuation
import ApiShapes.Proofs.Plan.Definitions
import ApiShapes.Proofs.Plan.Elements
import ApiShapes.Proofs.Plan.Faults
import ApiShapes.Proofs.Plan.Files
import ApiShapes.Proofs.Plan.Order
import ApiShapes.Proofs.Plan.RootNamespace
import ApiShapes.Proofs.Plan.Usage
import ApiShapes.Proofs.Pointer.Reading
import ApiShapes.Proofs.Schema.Canonical
import ApiShapes.Proofs.Schema.Faults
import ApiShapes.Proofs.Schema.Reading
import ApiShapes.Proofs.Schema.Resolution
import ApiShapes.Proofs.Settings.Enclosure
import ApiShapes.Proofs.Settings.Namespace
import ApiShapes.Proofs.Settings.OutputDir
import ApiShapes.Proofs.Binary64.Rounding
import ApiShapes.Proofs.Decimal.Shortest
import ApiShapes.Proofs.Pointer.Descent
import ApiShapes.Proofs.Decimal.Numeral
import ApiShapes.Proofs.Decimal.Layout
import ApiShapes.Proofs.Php.Constant
import ApiShapes.Proofs.Plan.Defaults
import ApiShapes.Proofs.Plan.Traversal
