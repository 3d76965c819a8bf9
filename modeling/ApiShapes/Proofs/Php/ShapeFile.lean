import ApiShapes.Proofs.Php.DefaultLiteral
import ApiShapes.Proofs.Text.Trim
import Mathlib.Data.List.Forall2
import Mathlib.Data.List.Nodup

/-!
# What the file of a shape shows

The file of a shape is read back part by part: the header up to the list of excluded properties, the
names in this list, and then the properties line by line.  A string in a default value can hold
anything, also what looks like the lines of other properties, but it is read as a literal and so
left as a whole.  Main statement: two shapes with one base class have one file exactly if they have the
same name, the same namespace except for backslashes in front of it, and properties that agree one
by one in their types, names and default values and in whether they are excluded.
-/

namespace ApiShapes

open Text Text.Reader

/-- What the line of a property shows. -/
structure PropertyText where
  type : String
  name : String
  default : Option String
  deriving Repr, DecidableEq

/-- What the file of a shape shows. -/
structure ShapeText where
  ns : String
  name : String
  excluded : List String
  properties : List PropertyText
  deriving Repr, DecidableEq

/-- What is to be read from the line of a property. -/
def Property.shown (property : Property) : PropertyText :=
  ⟨property.type, property.name, property.default.map Php.literal⟩

/-- What is to be read from the file of a shape. -/
def Shape.shown (shape : Shape) : ShapeText :=
  ⟨Text.trimStart '\\' shape.ns, shape.name, (shape.properties.filter (·.isExcluded)).map (·.name),
    shape.properties.map (·.shown)⟩

/-- Two properties agree in all that a file shows of them. -/
structure Property.DeclaredAlike (first second : Property) : Prop where
  type_eq : first.type = second.type
  name_eq : first.name = second.name
  default_shown : Option.Rel Literal.SameShown first.default second.default
  excluded_eq : first.isExcluded = second.isExcluded

/--
No name in a shape has the character that ends it in the file, and the names of properties are
distinct.  Names without white space and semicolons are such names.
-/
@[mk_iff]
structure Shape.Readable (shape : Shape) : Prop where
  ns : ';' ∉ shape.ns.toList
  name : ' ' ∉ shape.name.toList
  types : ∀ property ∈ shape.properties, ' ' ∉ property.type.toList
  names : ∀ property ∈ shape.properties,
    ' ' ∉ property.name.toList ∧ ';' ∉ property.name.toList
  distinct : (shape.properties.map (·.name)).Nodup

instance (shape : Shape) : Decidable shape.Readable :=
  decidable_of_iff' _ (shape.readable_iff)

namespace Php

/-- Reads the default value of a property, if there is one behind the character after its name. -/
def readDefault (stop : Char) : Reader (Option String) :=
  if stop = ' ' then do
    expect "= "
    let text ← readLiteral
    pure (some text)
  else pure none

/-- Reads the line of a property. -/
def readProperty : Reader PropertyText := do
  expect "    public "
  let type ← untilStop (· = ' ')
  expect "$"
  let name ← untilStop fun c => c = ' ' || c = ';'
  let default ← readDefault name.2
  expect "\n"
  pure ⟨type.1, name.1, default⟩

/-- Reads the lines of properties up to the end of the file. -/
def readProperties : Reader (List PropertyText) := do
  let properties ← many readProperty
  expect "\x7d\n"
  pure properties

/-- Reads what stands behind the list of excluded properties. -/
def readBlock : Reader (List PropertyText) :=
  (do expect "\n"; readProperties) <|> readProperties

/-- Reads the file of a shape, with the class that it extends. -/
def readShape (baseClass : String) : Reader ShapeText := do
  expect opening
  let ns ← untilStop (· = ';')
  expect (importing baseClass)
  let name ← untilStop (· = ' ')
  expect (extending baseClass)
  let excluded ← readExclusions
  expect "\n"
  let properties ← readBlock
  pure ⟨ns.1, name.1, excluded, properties⟩

/-! ## Properties -/

/-- What stands between the name of a property and the line break. -/
def defaultText (property : Property) : List Char :=
  match property.default with
  | some default => ' ' :: ("= ".toList ++ ((literal default).toList ++ [';']))
  | none => [';']

/-- The default is read with what stands in front of it, or found to be missing. -/
theorem reads_default (property : Property) :
    ∃ stop text, defaultText property = stop :: text ∧ (stop = ' ' ∨ stop = ';') ∧
      Reads (readDefault stop) text (property.default.map literal) := by
  rw [defaultText]
  cases property.default with
  | none => exact ⟨';', [], rfl, .inr rfl, .pure none⟩
  | some default =>
      refine ⟨' ', _, rfl, .inl rfl, ?_⟩
      exact .bind (.expect "= ") (.bind_pure (reads_literal default) some)

theorem toList_propertyLine (property : Property) :
    (propertyLine property).toList = "    public ".toList ++ ((property.type.toList ++ [' ']) ++
      ("$".toList ++ (property.name.toList ++ defaultText property))) := by
  unfold defaultText propertyLine
  cases property.default <;> simp

/--
The line of a property is read as what it shows, if no type has a space and no name a space or a
semicolon.
-/
theorem reads_propertyLine
    {property : Property} (type : ' ' ∉ property.type.toList)
    (name : ' ' ∉ property.name.toList ∧ ';' ∉ property.name.toList) :
    Reads readProperty ((propertyLine property).toList ++ ['\n']) property.shown := by
  have inType : ∀ c ∈ property.type.toList, decide (c = ' ') = false := by
    intro c member
    exact decide_eq_false fun isBlank => type (isBlank ▸ member)
  have inName : ∀ c ∈ property.name.toList, (decide (c = ' ') || decide (c = ';')) = false := by
    intro c member
    rw [Bool.or_eq_false_iff, decide_eq_false_iff_not, decide_eq_false_iff_not]
    exact ⟨fun isBlank => name.1 (isBlank ▸ member), fun isEnd => name.2 (isEnd ▸ member)⟩
  rcases reads_default property with ⟨stop, text, isText, stops, readsText⟩
  have isStop : (decide (stop = ' ') || decide (stop = ';')) = true := by
    rwa [Bool.or_eq_true, decide_eq_true_iff, decide_eq_true_iff]
  have line : (propertyLine property).toList ++ ['\n'] =
      "    public ".toList ++ ((property.type.toList ++ [' ']) ++ ("$".toList ++
        ((property.name.toList ++ [stop]) ++ (text ++ "\n".toList)))) := by
    rw [toList_propertyLine, isText]
    simp only [List.append_assoc, List.cons_append, List.nil_append]
    rfl
  rw [line]
  refine .bind (.expect _) (.bind (.untilStop inType rfl) (.bind (.expect _) ?_))
  exact .bind (.untilStop inName isStop) (.bind readsText (.bind_pure (.expect "\n") _))

/-- Where no property line begins, no property is read. -/
theorem readProperty_run_of_not_line
    {input : List Char} (different : ¬ "    public ".toList <+: input) :
    readProperty.run input = none := by
  rw [readProperty, StateT.run_bind, expect_run_of_not_prefix different]
  rfl

theorem reads_properties
    {properties : List Property} (types : ∀ property ∈ properties, ' ' ∉ property.type.toList)
    (names : ∀ property ∈ properties,
      ' ' ∉ property.name.toList ∧ ';' ∉ property.name.toList) :
    Reads readProperties
      (properties.flatMap (fun property => (propertyLine property).toList ++ ['\n']) ++
        "\x7d\n".toList)
      (properties.map (·.shown)) := by
  refine .many_bind ?_ ?_ ?_ (.bind_pure (.expect "\x7d\n") _)
  · intro property member
    exact reads_propertyLine (types property member) (names property member)
  · intro property member
    exact List.append_ne_nil_of_right_ne_nil _ (List.cons_ne_nil _ _)
  · intro rest
    exact readProperty_run_of_not_line (by simp)

/-- The properties of a shape are read one by one, up to the closing brace. -/
theorem reads_propertyBlock
    {properties : List Property} (types : ∀ property ∈ properties, ' ' ∉ property.type.toList)
    (names : ∀ property ∈ properties,
      ' ' ∉ property.name.toList ∧ ';' ∉ property.name.toList) :
    Reads readBlock (propertyBlock properties).toList (properties.map (·.shown)) := by
  have readsLines := reads_properties types names
  cases properties with
  | nil =>
      refine .orElse_right (fun rest => ?_) readsLines
      rw [StateT.run_bind, expect_run_of_not_prefix]
      · rfl
      · simp [propertyBlock, toList_unlines]
  | cons first others =>
      have text : (propertyBlock (first :: others)).toList = "\n".toList ++
          ((first :: others).flatMap (fun property => (propertyLine property).toList ++ ['\n']) ++
            "\x7d\n".toList) := by
        simp [propertyBlock, toList_unlines, List.flatMap_def, Function.comp_def]
      rw [text]
      exact .orElse_left (.bind (.expect "\n") readsLines)

/-! ## Files -/

/-- The file of a shape is read as what it shows of the shape. -/
theorem reads_shapeFile {shape : Shape} (readable : shape.Readable) (baseClass : String) :
    Reads (readShape baseClass) (shapeFile shape baseClass).toList shape.shown := by
  have inNs : ∀ c ∈ (Text.trimStart '\\' shape.ns).toList, decide (c = ';') = false := by
    intro c member
    have inWhole := Text.trimStart_subset '\\' shape.ns member
    exact decide_eq_false fun isEnd => readable.ns (isEnd ▸ inWhole)
  have inName : ∀ c ∈ shape.name.toList, decide (c = ' ') = false := by
    intro c member
    exact decide_eq_false fun isBlank => readable.name (isBlank ▸ member)
  have text : (shapeFile shape baseClass).toList =
      opening.toList ++ (((Text.trimStart '\\' shape.ns).toList ++ [';']) ++
        ((importing baseClass).toList ++ ((shape.name.toList ++ [' ']) ++
          ((extending baseClass).toList ++ ((exclusionLine shape.properties).toList ++
            ("\n".toList ++ (propertyBlock shape.properties).toList)))))) := by
    rw [shapeFile_eq, classOpening]
    simp only [String.toList_append, List.append_assoc]
    rfl
  rw [text]
  refine .bind (.expect _) (.bind (.untilStop inNs rfl) (.bind (.expect _) ?_))
  refine .bind (.untilStop inName rfl) (.bind (.expect _) ?_)
  refine .bind (reads_exclusionLine _) (.bind (.expect _) ?_)
  exact .bind_pure (reads_propertyBlock readable.types readable.names) _

/-- The list of excluded names says which properties are excluded. -/
theorem isExcluded_eq_mem
    {properties : List Property} (distinct : (properties.map (·.name)).Nodup) :
    ∀ property ∈ properties, property.isExcluded =
      decide (property.name ∈ (properties.filter (·.isExcluded)).map (·.name)) := by
  intro property member
  rw [Bool.eq_iff_iff, decide_eq_true_iff, List.mem_map]
  constructor
  · intro excluded
    exact ⟨property, List.mem_filter.mpr ⟨member, excluded⟩, rfl⟩
  · rintro ⟨other, isExcluded, sameName⟩
    rcases List.mem_filter.mp isExcluded with ⟨otherMember, otherExcluded⟩
    obtain rfl := List.inj_on_of_nodup_map distinct otherMember member sameName
    exact otherExcluded

/-- Properties that are shown alike and excluded alike are declared alike. -/
theorem declaredAlike_of_shown
    {first second : Property} (sameShown : first.shown = second.shown)
    (sameExcluded : first.isExcluded = second.isExcluded) : first.DeclaredAlike second := by
  rw [Property.shown, Property.shown, PropertyText.mk.injEq] at sameShown
  rcases sameShown with ⟨sameType, sameName, sameDefault⟩
  exact ⟨sameType, sameName, map_literal_eq_iff.mp sameDefault, sameExcluded⟩

/-- What is read from the file of a shape tells the excluded properties from the others. -/
theorem shown_with_exclusion
    {properties : List Property} (distinct : (properties.map (·.name)).Nodup) :
    properties.map (fun property => (property.shown, property.isExcluded)) =
      (properties.map (·.shown)).map fun shown =>
        (shown, decide (shown.name ∈ (properties.filter (·.isExcluded)).map (·.name))) := by
  rw [List.map_map]
  refine List.map_congr_left fun property member => ?_
  rw [isExcluded_eq_mem distinct property member]
  rfl

/-- Shapes that are shown alike have properties that are declared alike, one by one. -/
theorem properties_declaredAlike
    {first second : Shape} (firstReadable : first.Readable) (secondReadable : second.Readable)
    (sameShown : first.shown = second.shown) :
    List.Forall₂ Property.DeclaredAlike first.properties second.properties := by
  rw [Shape.shown, Shape.shown, ShapeText.mk.injEq] at sameShown
  rcases sameShown with ⟨-, -, sameExcluded, sameProperties⟩
  have sameBoth :
      first.properties.map (fun property => (property.shown, property.isExcluded)) =
        second.properties.map fun property => (property.shown, property.isExcluded) := by
    rw [shown_with_exclusion firstReadable.distinct, shown_with_exclusion secondReadable.distinct,
      sameExcluded, sameProperties]
  rw [← List.forall₂_eq_eq_eq, List.forall₂_map_left_iff, List.forall₂_map_right_iff] at sameBoth
  refine sameBoth.imp fun first second same => ?_
  exact declaredAlike_of_shown (Prod.mk.inj same).1 (Prod.mk.inj same).2

/-- Shapes with one file are shown alike, since what they show can be read back from it. -/
theorem shown_eq_of_same_file
    {first second : Shape} (firstReadable : first.Readable) (secondReadable : second.Readable)
    {baseClass : String} (sameFile : shapeFile first baseClass = shapeFile second baseClass) :
    first.shown = second.shown := by
  have read := reads_shapeFile firstReadable baseClass []
  rw [sameFile, reads_shapeFile secondReadable baseClass []] at read
  exact (Prod.mk.inj (Option.some.inj read)).1.symm

/-! ## Shapes that are shown alike -/

/-- Properties that are declared alike have the same line. -/
theorem propertyLine_eq_of_alike
    {first second : Property} (alike : first.DeclaredAlike second) :
    propertyLine first = propertyLine second := by
  have sameDefault := map_literal_eq_iff.mpr alike.default_shown
  have sameLine (property : Property) : propertyLine property =
      "    public " ++ property.type ++ " $" ++ property.name ++
        ((property.default.map literal).elim "" (" = " ++ ·)) ++ ";" := by
    unfold propertyLine
    cases property.default <;> rfl
  rw [sameLine, sameLine, alike.type_eq, alike.name_eq, sameDefault]

section Alike

variable {first second : List Property} (alike : List.Forall₂ Property.DeclaredAlike first second)

include alike

theorem exclusionLine_eq_of_alike : exclusionLine first = exclusionLine second := by
  have sameNames : (first.filter (·.isExcluded)).map (fun each => stringLiteral each.name) =
      (second.filter (·.isExcluded)).map fun each => stringLiteral each.name := by
    induction alike with
    | nil => rfl
    | cons head _ ih =>
        rw [List.filter_cons, List.filter_cons, head.excluded_eq]
        split
        · rw [List.map_cons, List.map_cons, head.name_eq, ih]
        · exact ih
  unfold exclusionLine
  rw [sameNames]

theorem propertyBlock_eq_of_alike : propertyBlock first = propertyBlock second := by
  have sameLines : first.map propertyLine = second.map propertyLine := by
    rw [← List.forall₂_eq_eq_eq, List.forall₂_map_left_iff, List.forall₂_map_right_iff]
    exact alike.imp fun _ _ => propertyLine_eq_of_alike
  have sameEmpty : first.isEmpty = second.isEmpty := by
    cases alike <;> rfl
  rw [propertyBlock, propertyBlock, sameLines, sameEmpty]

end Alike

/--
Two shapes that extend the same class have the same file exactly if they agree in everything that
the file is to show.
-/
theorem same_file_iff
    {first second : Shape} (firstReadable : first.Readable) (secondReadable : second.Readable)
    (baseClass : String) :
    shapeFile first baseClass = shapeFile second baseClass ↔
      Text.trimStart '\\' first.ns = Text.trimStart '\\' second.ns ∧ first.name = second.name ∧
        List.Forall₂ Property.DeclaredAlike first.properties second.properties := by
  constructor
  · intro sameFile
    have sameShown := shown_eq_of_same_file firstReadable secondReadable sameFile
    refine ⟨congrArg ShapeText.ns sameShown, congrArg ShapeText.name sameShown, ?_⟩
    exact properties_declaredAlike firstReadable secondReadable sameShown
  · rintro ⟨sameNs, sameName, alike⟩
    rw [shapeFile_eq, shapeFile_eq, classOpening, classOpening, sameNs, sameName,
      exclusionLine_eq_of_alike alike, propertyBlock_eq_of_alike alike]

/-- A shape with a default value that looks like the end of its line and like one more property. -/
def misleadingShape (ns : String) (required : Option Bool) : Shape :=
  ⟨"Order", ns, .empty,
    [⟨"note", "string", some (.string "\x27;\n    public int $total = 1;\n"), some false⟩,
      ⟨"paid", "bool", some (.bool true), required⟩]⟩

set_option maxRecDepth 20000 in
theorem misleading_shapes_same_file :
    (misleadingShape "\\App" none).Readable ∧ (misleadingShape "App" (some true)).Readable ∧
      shapeFile (misleadingShape "\\App" none) "App\\Base" =
        shapeFile (misleadingShape "App" (some true)) "App\\Base" ∧
      Text.trimStart '\\' "\\App" = Text.trimStart '\\' "App" ∧
      (misleadingShape "\\App" none).name = (misleadingShape "App" (some true)).name ∧
      List.Forall₂ Property.DeclaredAlike (misleadingShape "\\App" none).properties
        (misleadingShape "App" (some true)).properties := by
  have firstReadable : (misleadingShape "\\App" none).Readable := by decide
  have secondReadable : (misleadingShape "App" (some true)).Readable := by decide
  have sameFile : shapeFile (misleadingShape "\\App" none) "App\\Base" =
      shapeFile (misleadingShape "App" (some true)) "App\\Base" := by rfl
  exact ⟨firstReadable, secondReadable, sameFile,
    (same_file_iff firstReadable secondReadable "App\\Base").mp sameFile⟩

end Php

end ApiShapes
