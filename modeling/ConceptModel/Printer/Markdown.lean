import ConceptModel.Printer.Basic

/-!
# Markdown texts

Models as Markdown documentation: an overview of the namespace, its imports, and a
section for each declaration, with a table of the fields of a concept or the values of
an enumeration.
-/

namespace ConceptModel.Printer.Markdown

/-- The type of a field; a declared type is shown with its namespace. -/
def fieldType (m : Model) (f : Field) : String :=
  let name :=
    if f.type.isPrimitive then f.type.name
    else m.namespaceName.plain ++ "." ++ f.type.name
  if f.isArray then name ++ "[]" else name

/-- What a decorator means, if it has a meaning here. -/
def decoratorMeaning? (d : Decorator) : Option String :=
  if d.name = "StringifiedJson" then some "Stringified JSON value"
  else if d.name = "StringifiedUnionType" then
    some ("Union of " ++ ", ".intercalate d.arguments ++ " stored as a string")
  else none

/-- What decorators mean. -/
def description (decorators : List Decorator) : String :=
  "<br>".intercalate (decorators.filterMap decoratorMeaning?)

/-- A row of a table. -/
def row (cells : List String) : String :=
  "|" ++ String.join (cells.map fun cell => " " ++ cell ++ " |")

/-- The mark of a required field. -/
def requiredMark : String := "\u2714\ufe0f"

/-- The row of a field: its name, its type, whether it is required, what its decorators
mean, and its constraints. -/
def fieldRow (m : Model) (f : Field) : String :=
  row
    [f.name, "<code>" ++ fieldType m f ++ "</code>",
      if f.isOptional then "" else requiredMark, description f.decorators,
      "<br>".intercalate (constraints f.validator)]

/-- The lines of the table of fields. -/
def fieldTable (m : Model) (fields : List Field) : List String :=
  if fields.isEmpty then ["No fields."]
  else
    ["| Field | Type | Required | Description | Constraints |",
      "| ------ | ------------------- | --- | ------------ | --------- |"]
      ++ fields.map (fieldRow m)

/-- The row of a value of an enumeration. -/
def valueRow (value : String) : String := "| " ++ value ++ " | |"

/-- The lines of the table of values. -/
def valueTable (values : List String) : List String :=
  if values.isEmpty then ["No values."]
  else ["| Value | Description |", "| ------ | ------------------- |"] ++ values.map valueRow

/-- The lines of a declaration, from the empty line before it. -/
def declaration (m : Model) : Declaration → List String
  | .concept name _ fields =>
    ["", "### " ++ name ++ " (Concept)", ""] ++ fieldTable m fields
  | .enumeration name values =>
    ["", "### " ++ name ++ " (Enumeration)", ""] ++ valueTable values
  | .scalar name decorators =>
    let meaning := description decorators
    ["", "### " ++ name ++ " (Scalar)", "", "Extends <code>String</code>."]
      ++ (if meaning = "" then [] else ["", meaning])
  | .plain _ => [""]

/-- The lines of a model. -/
def modelLines (m : Model) : List String :=
  ["# Namespace " ++ m.namespaceName.plain, "", "## Overview",
      "- " ++ toString m.conceptNames.length ++ " concepts",
      "- " ++ toString m.enumerationNames.length ++ " enumerations",
      "- " ++ toString m.scalarNames.length ++ " scalars",
      "- " ++ toString m.declarations.length ++ " total declarations", "", "## Imports"]
    ++ m.imports.map ("- " ++ ·) ++ ["", "## Classes"]
    ++ m.declarations.flatMap (declaration m)

/-- The text of a model under a comment. -/
def model (comment : Option String) (m : Model) : String :=
  commentLine (comment.map fun text => "<!-- " ++ text ++ " -->\n")
    ++ lines (modelLines m)

/-- The text of models under comments. -/
def models (comment : Option String) (ms : Models) : String :=
  joinModels (ms.models.map (model comment))

end ConceptModel.Printer.Markdown
