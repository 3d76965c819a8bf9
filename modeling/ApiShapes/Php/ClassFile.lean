import ApiShapes.Php.Literal
import ApiShapes.Text.Trim

/-!
# PHP class files

The text of the file that declares a class.  A file has a preamble with the namespace and the import
of the base class, then the class itself, and every line ends with a line break.
-/

namespace ApiShapes.Php

/-- The extension of the files. -/
def fileExtension : String := "php"

/-- The last segment of the name of a class. -/
def shortClassName (className : String) : String :=
  String.ofList (className.toList.reverse.takeWhile (· ≠ '\\')).reverse

/-- Lines as a text. -/
def unlines (lines : List String) : String :=
  String.join (lines.map (· ++ "\n"))

/-- The lines before the class. -/
def preamble (ns baseClass : String) : List String :=
  ["<?php",
    "",
    "// Generated by api-dto-gen. Do not edit manually.",
    "",
    "declare(strict_types=1);",
    "",
    "namespace " ++ Text.trimStart '\\' ns ++ ";",
    "",
    "use " ++ Text.trimStart '\\' baseClass ++ ";",
    ""]

/-- The line that opens a class. -/
def classLine (name baseClass : String) : String :=
  "class " ++ name ++ " extends " ++ shortClassName baseClass

/-- The line that lists the names of the excluded properties. -/
def exclusionLine (properties : List Property) : String :=
  "    protected const EXCLUDE_PROPERTIES = [" ++
    ", ".intercalate
      ((properties.filter (·.isExcluded)).map fun property => stringLiteral property.name) ++ "];"

/-- The line that declares a property. -/
def propertyLine (property : Property) : String :=
  "    public " ++ property.type ++ " $" ++ property.name ++
    (match property.default with
      | some default => " = " ++ literal default
      | none => "") ++ ";"

/-- The file of a shape, with the class that it extends. -/
def shapeFile (shape : Shape) (baseClass : String) : String :=
  unlines
    (preamble shape.ns baseClass ++
      [classLine shape.name baseClass, "\x7b", exclusionLine shape.properties] ++
      (if shape.properties.isEmpty then [] else [""]) ++
      shape.properties.map propertyLine ++ ["\x7d"])

/-- The file of a collection, with the class that it extends. -/
def collectionFile (collection : Collection) (baseClass : String) : String :=
  unlines
    (preamble collection.ns baseClass ++
      [classLine collection.name baseClass,
        "\x7b",
        "    public function __construct(array $collection)",
        "    \x7b",
        "        parent::__construct('" ++ collection.element ++ "', $collection);",
        "    \x7d",
        "\x7d"])

end ApiShapes.Php
