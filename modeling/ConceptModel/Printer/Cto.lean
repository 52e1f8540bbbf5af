import ConceptModel.Json.Writer
import ConceptModel.Printer.Basic

/-!
# Concerto texts

Models in the Concerto modelling language.  A declaration is preceded by an empty line
and its decorators; a field takes one line after its decorators.
-/

namespace ConceptModel.Printer.Cto

/-- A string literal: in double quotes, in ASCII. -/
def literal (s : String) : String := Json.quote true s

/-- A decorator, with its arguments in parentheses if it has any. -/
def decorator (d : Decorator) : String :=
  if d.arguments.isEmpty then "@" ++ d.name
  else "@" ++ d.name ++ "(" ++ ",".intercalate (d.arguments.map literal) ++ ")"

/-- A default value as a literal. -/
def defaultValue : Literal → String
  | .flag value => if value then "true" else "false"
  | .number value => value.compact
  | .text value => literal value

/-- A bound of a range, empty when there is none. -/
def bound : Option Number → String
  | some x => x.compact
  | none => ""

/-- A validator as a modifier. -/
def validator : Validator → String
  | .regex pattern flags => "regex=/" ++ pattern.plain ++ "/" ++ flags
  | .doubleRange lower upper | .integerRange lower upper =>
    "range=[" ++ bound lower ++ "," ++ bound upper ++ "]"

/-- The modifiers at the end of a field's line: its default value, its validator, and
whether it is optional. -/
def modifiers (f : Field) : List String :=
  (f.defaultValue.map fun value => "default=" ++ defaultValue value).toList
    ++ (f.validator.map validator).toList
    ++ (if f.isOptional then ["optional"] else [])

/-- The type of a field. -/
def fieldType (f : Field) : String :=
  if f.isArray then f.type.name ++ "[]" else f.type.name

/-- The line of a field, after its decorators. -/
def fieldLine (f : Field) : String :=
  "  o " ++ fieldType f ++ " " ++ f.name ++ String.join ((modifiers f).map (" " ++ ·))

/-- The lines of a field. -/
def field (f : Field) : List String :=
  f.decorators.map (fun d => "  " ++ decorator d) ++ [fieldLine f]

/-- The lines of a declaration, from the empty line before it. -/
def declaration : Declaration → List String
  | .concept name _ fields =>
    ["", "concept " ++ name ++ " \x7b"] ++ fields.flatMap field ++ ["\x7d"]
  | .enumeration name values =>
    ["", "enum " ++ name ++ " \x7b"] ++ values.map ("  o " ++ ·) ++ ["\x7d"]
  | .scalar name decorators =>
    [""] ++ decorators.map decorator ++ ["scalar " ++ name ++ " extends String"]
  | .plain _ => [""]

/-- The lines of a model: its namespace, its imports and its declarations. -/
def modelLines (m : Model) : List String :=
  ["namespace " ++ m.namespaceName.plain] ++ m.imports.map ("import " ++ ·)
    ++ m.declarations.flatMap declaration

/-- A text without the line breaks at its end. -/
def trimLineBreaks (s : String) : String :=
  String.ofList (s.toList.reverse.dropWhile (· = '\n')).reverse

/-- The text of a model under a comment. -/
def model (comment : Option String) (m : Model) : String :=
  trimLineBreaks (commentLine (comment.map ("// " ++ ·)) ++ lines (modelLines m))

/-- The text of models under comments. -/
def models (comment : Option String) (ms : Models) : String :=
  joinModels (ms.models.map (model comment))

end ConceptModel.Printer.Cto
