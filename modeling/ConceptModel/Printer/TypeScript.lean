import ConceptModel.Printer.Basic

/-!
# TypeScript texts

Models as TypeScript interfaces and enums.  A concept becomes an interface whose name
starts with a given text, an enumeration keeps its name, and a scalar is replaced by
`string` wherever it is used.
-/

namespace ConceptModel.Printer.TypeScript

/-- The TypeScript types of the primitive types, by name. -/
def primitives : List (String × String) :=
  [("DateTime", "Date"), ("Boolean", "boolean"), ("String", "string"), ("Double", "number"),
   ("Long", "number"), ("Integer", "number")]

/-- The TypeScript type for the name of a type in a model whose interfaces start with
`start`.  A primitive name counts before a declaration, and a name without a
declaration is taken for a concept. -/
def typeName (start : String) (m : Model) (name : String) : String :=
  match primitives.lookup name with
  | some t => t
  | none =>
    match m.find? name with
    | some (.scalar ..) => "string"
    | some (.enumeration ..) => name
    | _ => start ++ name

/-- The type of a field. -/
def fieldType (start : String) (m : Model) (f : Field) : String :=
  let t := typeName start m f.type.name
  if f.isArray then t ++ "[]" else t

/-- The line of a field. -/
def fieldLine (start : String) (m : Model) (f : Field) : String :=
  "    " ++ f.name ++ (if f.isOptional then "?" else "") ++ ": " ++ fieldType start m f ++ ";"

/-- The lines of a declaration, to the empty line after it; none for a scalar.  A
declaration that is only a name cannot be printed. -/
def declaration? (start : String) (m : Model) : Declaration → Option (List String)
  | .concept name _ fields =>
    some
      (["export interface " ++ start ++ name ++ " \x7b", "    $class: string;"]
        ++ fields.map (fieldLine start m) ++ ["\x7d", ""])
  | .enumeration name values =>
    some
      (["export enum " ++ name ++ " \x7b"]
        ++ values.map (fun value => "    " ++ value ++ " = '" ++ value ++ "',")
        ++ ["\x7d", ""])
  | .scalar .. => some []
  | .plain _ => none

/-- The lines before the declarations. -/
def heading (m : Model) : List String :=
  ["/* eslint-disable @typescript-eslint/no-empty-interface */",
    "// Generated code for namespace: " ++ m.namespaceName.plain, "", "// interfaces"]

/-- The text of a model under a comment. -/
def model? (comment : Option String) (start : String) (m : Model) : Option String :=
  (m.declarations.mapM (declaration? start m)).map fun declarations =>
    commentLine (comment.map ("// " ++ ·)) ++ lines (heading m ++ declarations.flatten)

/-- The text of models under comments. -/
def models? (comment : Option String) (start : String) (ms : Models) : Option String :=
  (ms.models.mapM (model? comment start)).map joinModels

end ConceptModel.Printer.TypeScript
