import ApiShapes.Php.ClassFile

/-!
# The parts of class files

Both kinds of files open in the same way, up to the brace behind the name of the class.  What
follows is taken apart here as the readers of the files take it: in the file of a shape the list of
excluded properties and the properties, in the file of a collection the element between two quotes.
-/

namespace ApiShapes.Php

/-- Every line ends with a line feed, the last one too. -/
theorem toList_unlines (lines : List String) :
    (unlines lines).toList = lines.flatMap fun line => line.toList ++ ['\n'] := by
  simp [unlines, List.flatMap_def, Function.comp_def]

/-- What stands in a file before its namespace. -/
def opening : String :=
  unlines
    ["<?php",
      "",
      "// Generated by api-dto-gen. Do not edit manually.",
      "",
      "declare(strict_types=1);",
      ""] ++ "namespace "

/-- What stands in a file between its namespace and the name of the class. -/
def importing (baseClass : String) : String :=
  "\n\nuse " ++ Text.trimStart '\\' baseClass ++ ";\n\nclass "

/-- What stands in a file between the name of the class and the first line of the class. -/
def extending (baseClass : String) : String :=
  "extends " ++ shortClassName baseClass ++ "\n\x7b\n"

/-- What stands in a file before the first line of the class. -/
def classOpening (ns name baseClass : String) : String :=
  opening ++ (Text.trimStart '\\' ns ++ ";") ++ importing baseClass ++ (name ++ " ") ++
    extending baseClass

/-- All class files open alike, up to the brace behind the name of the class. -/
theorem unlines_class (ns name baseClass : String) (body : List String) :
    unlines (preamble ns baseClass ++ classLine name baseClass :: "\x7b" :: body) =
      classOpening ns name baseClass ++ unlines body := by
  rw [← String.toList_inj]
  simp [preamble, classLine, classOpening, opening, importing, extending, toList_unlines]

/-- What stands in the file of a shape behind the list of excluded properties. -/
def propertyBlock (properties : List Property) : String :=
  unlines ((if properties.isEmpty then [] else [""]) ++ properties.map propertyLine ++ ["\x7d"])

/-- The file of a shape is its opening, the list of excluded properties and the properties. -/
theorem shapeFile_eq (shape : Shape) (baseClass : String) :
    shapeFile shape baseClass =
      classOpening shape.ns shape.name baseClass ++ (exclusionLine shape.properties ++ "\n") ++
        propertyBlock shape.properties := by
  simp only [shapeFile, List.append_assoc, List.cons_append, List.nil_append, unlines_class]
  rw [String.append_assoc, unlines, List.map_cons, String.join_cons, propertyBlock, unlines,
    List.append_assoc]

/-- The line that declares a property with a default. -/
def declaration (type name default : String) : String :=
  "    public " ++ type ++ " $" ++ name ++ " = " ++ default ++ ";"

theorem propertyLine_eq (name type : String) (default : Literal) (required : Option Bool) :
    propertyLine ⟨name, type, some default, required⟩ =
      declaration type name (literal default) := by
  unfold propertyLine declaration
  simp only [String.append_assoc]

/-- The line of every property stands in the file of its class. -/
theorem exists_lines_around
    {properties : List Property} {property : Property} (member : property ∈ properties)
    {name ns : String} {dir : Path} (baseClass : String) :
    ∃ before after, shapeFile ⟨name, ns, dir, properties⟩ baseClass =
      unlines (before ++ propertyLine property :: after) := by
  have isLine : propertyLine property ∈ properties.map propertyLine :=
    List.mem_map_of_mem member
  rcases List.append_of_mem (List.mem_append_left ["\x7d"] isLine) with ⟨before, after, lines⟩
  rw [shapeFile, List.append_assoc, lines, ← List.append_assoc]
  exact ⟨_, after, rfl⟩

/-- What stands in the file of a collection in front of the element. -/
def constructorOpening : String :=
  unlines ["    public function __construct(array $collection)", "    \x7b"] ++
    "        parent::__construct("

/-- What stands in the file of a collection behind the element. -/
def constructorEnd : String :=
  ", $collection);" ++ unlines ["", "    \x7d", "\x7d"]

/--
The file of a collection has its element between two quotes, and nothing else of its own but the
opening.
-/
theorem collectionFile_eq (collection : Collection) (baseClass : String) :
    collectionFile collection baseClass =
      classOpening collection.ns collection.name baseClass ++ constructorOpening ++
        ("\x27" ++ collection.element ++ "\x27") ++ constructorEnd := by
  rw [collectionFile, unlines_class, ← String.toList_inj]
  simp [constructorOpening, constructorEnd, toList_unlines]

end ApiShapes.Php
