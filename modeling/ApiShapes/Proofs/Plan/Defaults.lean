import ApiShapes.Proofs.Php.ClassFile
import ApiShapes.Proofs.Php.Constant
import ApiShapes.Proofs.Plan.Definitions

/-!
# Inferred types and their defaults

A scalar of a schema becomes a property that is declared with the type of the scalar and has the
scalar as its default.  PHP finds out the type of the default for itself, from the literal, and it
refuses a class in which that is not the declared one.  Main statement: for truth values, integers
and finite floating-point numbers the default is read as the value of the scalar, and so has the
declared type, exactly if the scalar is not the lowest integer, which is read as a floating-point
number.
-/

namespace ApiShapes

/-- The value that a scalar stands for, if it is a truth value, an integer or a finite number. -/
def Node.constant? : Node → Option Php.Constant
  | .bool b => some (.bool b)
  | .integer i => some (.int i)
  | .float x => if x.IsFinite then some (.float x) else none
  | _ => none

namespace Plan

open Php

variable {node : Node} {constant : Constant}

/-- A scalar gives the type of its value, and the scalar itself as the default. -/
theorem givesValue_of_constant (isConstant : node.constant? = some constant) :
    ∃ default, node.GivesValue constant.type (some default) none ∧
      (∃ read, Constant.read? (literal default).toList = some read ∧
        (read = constant ↔ node ≠ .integer Int64.minValue) ∧
        (read.type = constant.type ↔ node ≠ .integer Int64.minValue)) ∧
      ∀ x, constant = .float x → Constant.IsFloatLiteral (literal default).toList := by
  cases node with
  | bool b =>
      obtain rfl := Option.some.inj isConstant
      refine ⟨.bool b, .bool b, ⟨_, Constant.read?_bool b, ?_, ?_⟩, nofun⟩
      · exact iff_of_true rfl nofun
      · exact iff_of_true rfl nofun
  | integer i =>
      obtain rfl := Option.some.inj isConstant
      have read := Constant.read?_integer i
      by_cases isLowest : i = Int64.minValue
      · have excluded : ¬ Node.integer i ≠ .integer Int64.minValue :=
          not_not_intro (congrArg Node.integer isLowest)
        rw [if_pos isLowest] at read
        refine ⟨.integer i, .integer i, ⟨_, read, ?_, ?_⟩, nofun⟩
        · exact iff_of_false nofun excluded
        · exact iff_of_false (by decide : "float" ≠ "int") excluded
      · have notExcluded : Node.integer i ≠ .integer Int64.minValue := fun sameNode =>
          isLowest (Node.integer.inj sameNode)
        rw [if_neg isLowest] at read
        refine ⟨.integer i, .integer i, ⟨_, read, ?_, ?_⟩, nofun⟩
        · exact iff_of_true rfl notExcluded
        · exact iff_of_true rfl notExcluded
  | float x =>
      rw [Node.constant?] at isConstant
      split at isConstant
      · rename_i finite
        obtain rfl := Option.some.inj isConstant
        rcases Constant.read?_float finite with ⟨read, isFloat⟩
        refine ⟨.float x, .float x, ⟨_, read, ?_, ?_⟩, fun _ _ => isFloat⟩
        · exact iff_of_true rfl nofun
        · exact iff_of_true rfl nofun
      · cases isConstant
  | _ => cases isConstant

/--
A scalar that is the last entry of its field name becomes a property of its type, with itself as the
default, in a line of its own in the file of the class.  PHP reads the default as the value of the
scalar, and so as one of the declared type, exactly if the scalar is not the lowest integer.  The
default of a floating-point number is a literal of such a number.
-/
theorem inferred_defaults_agree_iff
    {planned classes : List Artifact} {name key : String} {site : Site} {entries : Entries}
    {properties : List Property}
    (success : addFields planned name site entries = (classes, .ok properties))
    (isLast : definition? entries (fieldName key) = some (key, node))
    (isConstant : node.constant? = some constant) :
    ∃ default, ⟨fieldName key, constant.type, some default, none⟩ ∈ properties ∧
      (∀ dir baseClass, ∃ before after,
        shapeFile ⟨name, site.ns, dir, properties⟩ baseClass =
          unlines (before ++
            declaration constant.type (fieldName key) (literal default) :: after)) ∧
      (∃ read, Constant.read? (literal default).toList = some read ∧
        (read = constant ↔ node ≠ .integer Int64.minValue) ∧
        (read.type = constant.type ↔ node ≠ .integer Int64.minValue)) ∧
      ∀ x, constant = .float x → Constant.IsFloatLiteral (literal default).toList := by
  rcases givesValue_of_constant isConstant with ⟨default, given, read, isFloat⟩
  rcases outcome_eq_ok.mp success with ⟨run, rfl⟩
  rcases ((fieldSteps_checked _ name site).faithful planned classes).mp run with
    ⟨added, isAccepted, -⟩
  have member : (⟨fieldName key, constant.type, some default, none⟩ : Property) ∈
      properties name site.ns (Content.ofEntries entries) :=
    (mem_properties_iff (wellFormed_of_accepted isAccepted)).mpr
      ⟨key, node, isLast, .value given⟩
  refine ⟨default, member, fun dir baseClass => ?_, read, isFloat⟩
  rw [← propertyLine_eq _ _ _ none]
  exact exists_lines_around member baseClass

/-- The smallest positive number, the lowest integer but one, and a truth value. -/
def extremeEntries : Entries :=
  [("rate", .float ⟨1⟩), ("low", .integer (-9223372036854775807)), ("paid", .bool false)]

/-- The properties that `extremeEntries` become. -/
def extremeProperties : List Property :=
  [⟨"rate", "float", some (.float ⟨1⟩), none⟩,
    ⟨"low", "int", some (.integer (-9223372036854775807)), none⟩,
    ⟨"paid", "bool", some (.bool false), none⟩]

set_option maxRecDepth 20000 in
/-- One above the lowest integer, a default is read back as it was. -/
theorem low_integer_default_agrees :
    addFields [] "Order" ⟨"App", .empty, .root⟩ extremeEntries = ([], .ok extremeProperties) ∧
      definition? extremeEntries "low" = some ("low", .integer (-9223372036854775807)) ∧
      ∃ default, ⟨"low", "int", some default, none⟩ ∈ extremeProperties ∧
        Constant.read? (literal default).toList = some (.int (-9223372036854775807)) := by
  have success : addFields [] "Order" ⟨"App", .empty, .root⟩ extremeEntries =
      ([], .ok extremeProperties) := by
    rfl
  have isLast : definition? extremeEntries (fieldName "low") =
      some ("low", .integer (-9223372036854775807)) := by
    rfl
  have isConstant : (Node.integer (-9223372036854775807)).constant? =
      some (.int (-9223372036854775807)) := by
    rfl
  have notLowest : Node.integer (-9223372036854775807) ≠ .integer Int64.minValue := by
    intro sameNode
    exact absurd (Node.integer.inj sameNode) (by decide)
  rcases inferred_defaults_agree_iff success isLast isConstant with
    ⟨default, member, -, ⟨read, isRead, sameValue, -⟩, -⟩
  rw [sameValue.mpr notLowest] at isRead
  exact ⟨success, isLast, default, member, isRead⟩

/-- A schema of one request with the lowest integer in it. -/
def lowestSchema : Schema :=
  ⟨none, [("order", .map [("request", .map [("body", .map [("n", .integer Int64.minValue)])])])]⟩

/-- The shape that is planned for the body of `lowestSchema` in the namespace `App`. -/
def lowestShape : Shape :=
  ⟨"OrderDtoRequestBody", "App\\Nested", ⟨"Nested"⟩,
    [⟨"n", "int", some (.integer Int64.minValue), none⟩]⟩

set_option maxRecDepth 20000 in
/-- The lowest integer is declared as an integer and read as a floating-point number. -/
theorem lowest_integer_read_as_float :
    ∃ classes, ofSchema lowestSchema "App" = .ok classes ∧ .shape lowestShape ∈ classes ∧
      lowestShape.properties.map propertyLine =
        [declaration "int" "n" "-9223372036854775808"] ∧
      (Constant.read? "-9223372036854775808".toList).map Constant.type = some "float" := by
  exact ⟨emitted (schemaSteps lowestSchema "App"), by rfl, by decide, by decide, by decide⟩

end Plan

end ApiShapes
