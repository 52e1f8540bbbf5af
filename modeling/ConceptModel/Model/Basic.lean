import ConceptModel.Json.Basic

/-!
# Models

The concept models that are inferred from schemas: declarations of concepts,
enumerations and scalars in a namespace.  The fields of a concept are typed, and may
carry decorators, a default value and a validator.
-/

namespace ConceptModel

/-- The namespace of the metamodel when no other is configured. -/
def defaultMetaNamespace : String := "concerto.metamodel@1.0.0"

/-- A decorator with its arguments. -/
structure Decorator where
  name : String
  arguments : List String := []
deriving DecidableEq, Repr

/-- A constraint on the values of a field. -/
inductive Validator where
  /-- A range of doubles. -/
  | doubleRange (lower upper : Option Number)
  /-- A range of integers. -/
  | integerRange (lower upper : Option Number)
  /-- A regular expression with its flags.  The pattern is whatever the schema holds,
  which is a string whenever the schema has been checked. -/
  | regex (pattern : Json) (flags : String)
deriving DecidableEq, Repr

/-- A value that a field may have by default. -/
inductive Literal where
  | flag (value : Bool)
  | number (value : Number)
  | text (value : String)
deriving DecidableEq, Repr

/-- The type of a field: a primitive one, or the declaration of a name. -/
inductive FieldType where
  | string
  | boolean
  | double
  | integer
  | dateTime
  | declared (name : String)
deriving DecidableEq, Repr

/-- The name of a type. -/
def FieldType.name : FieldType → String
  | string => "String"
  | boolean => "Boolean"
  | double => "Double"
  | integer => "Integer"
  | dateTime => "DateTime"
  | declared name => name

/-- Whether a type is primitive. -/
def FieldType.isPrimitive : FieldType → Bool
  | declared _ => false
  | _ => true

/-- A field of a concept. -/
structure Field where
  name : String
  isArray : Bool := false
  isOptional : Bool := false
  decorators : List Decorator := []
  defaultValue : Option Literal := none
  validator : Option Validator := none
  type : FieldType
deriving DecidableEq, Repr

/-- A declaration of a model. -/
inductive Declaration where
  /-- A concept with its fields. -/
  | concept (name : String) (isAbstract : Bool) (fields : List Field)
  /-- An enumeration with the names of its values. -/
  | enumeration (name : String) (values : List String)
  /-- A scalar whose values are strings. -/
  | scalar (name : String) (decorators : List Decorator)
  /-- A declaration that says nothing but its name. -/
  | plain (name : String)
deriving DecidableEq, Repr

/-- The name of a declaration. -/
def Declaration.name : Declaration → String
  | concept name _ _ | enumeration name _ | scalar name _ | plain name => name

/-- The declarations of a namespace, with their imports and decorators.  The namespace
is whatever the settings hold, which should be a string. -/
structure Model where
  namespaceName : Json
  declarations : List Declaration := []
  imports : List String := []
  decorators : List Decorator := []
deriving DecidableEq, Repr

namespace Model

/-- The names of the concepts. -/
def conceptNames (m : Model) : List String :=
  m.declarations.filterMap fun
    | .concept name _ _ => some name
    | _ => none

/-- The names of the enumerations. -/
def enumerationNames (m : Model) : List String :=
  m.declarations.filterMap fun
    | .enumeration name _ => some name
    | _ => none

/-- The names of the scalars. -/
def scalarNames (m : Model) : List String :=
  m.declarations.filterMap fun
    | .scalar name _ => some name
    | _ => none

/-- The first declaration of a name. -/
def find? (m : Model) (name : String) : Option Declaration :=
  m.declarations.find? fun d => d.name = name

end Model

/-- The models of a document, and the namespace of the metamodel that describes them. -/
structure Models where
  models : List Model := []
  metaNamespace : String := defaultMetaNamespace
deriving DecidableEq, Repr

end ConceptModel
