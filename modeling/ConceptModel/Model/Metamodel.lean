import ConceptModel.Model.Basic

/-!
# The metamodel

The description of models as JSON values.  Every part of a model is an object whose
`$class` is the name of its class in the namespace of the metamodel.
-/

namespace ConceptModel

/-- The name of a class in a namespace, as the value of `$class`. -/
def classTag (metaNamespace className : String) : Json :=
  .string (metaNamespace ++ "." ++ className)

/-- A field of an object, left out when there is no value. -/
def optionalField (key : String) (value : Option Json) : List (String × Json) :=
  match value with
  | some v => [(key, v)]
  | none => []

/-- A field of an object that holds a list, left out when the list is empty. -/
def nonemptyField (key : String) (elements : List Json) : List (String × Json) :=
  if elements.isEmpty then [] else [(key, .array elements)]

/-- The description of a decorator. -/
def Decorator.toJson (ns : String) (d : Decorator) : Json :=
  .object
    ([("$class", classTag ns "Decorator"), ("name", .string d.name)]
      ++ nonemptyField "arguments"
        (d.arguments.map fun argument =>
          .object [("$class", classTag ns "DecoratorString"), ("value", .string argument)]))

/-- The description of a range of numbers. -/
def rangeToJson (ns className : String) (lower upper : Option Number) : Json :=
  .object
    (("$class", classTag ns className)
      :: (optionalField "lower" (lower.map .number) ++ optionalField "upper" (upper.map .number)))

/-- The description of a validator. -/
def Validator.toJson (ns : String) : Validator → Json
  | doubleRange lower upper => rangeToJson ns "DoubleDomainValidator" lower upper
  | integerRange lower upper => rangeToJson ns "IntegerDomainValidator" lower upper
  | regex pattern flags =>
    .object
      [("$class", classTag ns "StringRegexValidator"), ("pattern", pattern),
        ("flags", .string flags)]

/-- The description of a default value. -/
def Literal.toJson : Literal → Json
  | flag value => .bool value
  | number value => .number value
  | text value => .string value

/-- The name of the class of the fields of a type. -/
def FieldType.className : FieldType → String
  | string => "StringProperty"
  | boolean => "BooleanProperty"
  | double => "DoubleProperty"
  | integer => "IntegerProperty"
  | dateTime => "DateTimeProperty"
  | declared _ => "ObjectProperty"

/-- The description of the type that a field refers to, for a type that is declared. -/
def FieldType.reference? (ns : String) : FieldType → Option Json
  | declared name =>
    some (.object [("$class", classTag ns "TypeIdentifier"), ("name", .string name)])
  | _ => none

/-- The description of a field. -/
def Field.toJson (ns : String) (f : Field) : Json :=
  .object
    ([("$class", classTag ns f.type.className), ("name", .string f.name),
        ("isArray", .bool f.isArray), ("isOptional", .bool f.isOptional)]
      ++ nonemptyField "decorators" (f.decorators.map (Decorator.toJson ns))
      ++ optionalField "defaultValue" (f.defaultValue.map Literal.toJson)
      ++ optionalField "validator" (f.validator.map (Validator.toJson ns))
      ++ optionalField "type" (f.type.reference? ns))

/-- The name of the class of a declaration. -/
def Declaration.className : Declaration → String
  | concept .. => "ConceptDeclaration"
  | enumeration .. => "EnumDeclaration"
  | scalar .. => "StringScalar"
  | plain _ => ""

/-- The description of the value of an enumeration. -/
def enumValueToJson (ns value : String) : Json :=
  .object [("$class", classTag ns "EnumProperty"), ("name", .string value)]

/-- What the description of a declaration holds beside its class and name. -/
def Declaration.contents (ns : String) : Declaration → List (String × Json)
  | concept _ isAbstract fields =>
    [("isAbstract", .bool isAbstract),
      ("properties", .array (fields.map (Field.toJson ns)))]
  | enumeration _ values => [("properties", .array (values.map (enumValueToJson ns)))]
  | scalar _ decorators => [("decorators", .array (decorators.map (Decorator.toJson ns)))]
  | plain _ => []

/-- The description of a declaration. -/
def Declaration.toJson (ns : String) (d : Declaration) : Json :=
  .object
    ([("$class", classTag ns d.className), ("name", .string d.name)] ++ d.contents ns)

/-- The description of a model. -/
def Model.toJson (ns : String) (m : Model) : Json :=
  .object
    [("$class", classTag ns "Model"),
      ("decorators", .array (m.decorators.map (Decorator.toJson ns))),
      ("namespace", m.namespaceName), ("imports", .array (m.imports.map .string)),
      ("declarations", .array (m.declarations.map (Declaration.toJson ns)))]

/-- The description of all models of a document. -/
def Models.toJson (ms : Models) : Json :=
  .object
    [("$class", classTag ms.metaNamespace "Models"),
      ("models", .array (ms.models.map (Model.toJson ms.metaNamespace)))]

end ConceptModel
