import ConceptModel.Inference.Body
import ConceptModel.Model.Basic
import ConceptModel.Nested

/-!
# Fragments

A piece of a schema document together with the place where it stands and the role in
which it is read; what is known on the way to it; and what reading it may yield.
-/

namespace ConceptModel.Inference

/-- How a piece of a document is to be read. -/
inductive Role where
  /-- The whole document. -/
  | document
  /-- The container of the named definitions. -/
  | definitions
  /-- A schema that yields declarations. -/
  | definition
  /-- A definition that lists its values. -/
  | enumeration
  /-- Any other definition. -/
  | structural
  /-- The properties of an object. -/
  | properties
  /-- A schema that yields a field. -/
  | property
  /-- A property that is an array. -/
  | array
  /-- An array whose elements are described one by one. -/
  | tuple
  /-- A reference. -/
  | reference
  /-- A reference inside the document. -/
  | localReference
  /-- No role: such a fragment cannot be read. -/
  | unspecified
deriving DecidableEq, Repr

/-- A piece of a document with its role and its place. -/
structure Fragment where
  role : Role
  body : Json
  path : List String
deriving DecidableEq, Repr

/-- The last segment of a path. -/
def nameOf (path : List String) : String := path.getLastD ""

/-- What is forced upon the next field. -/
structure Overrides where
  name : Option String := none
  isArray : Option Bool := none
  decorators : Option (List Decorator) := none
deriving DecidableEq, Repr

/-- What is known on the way to a fragment. -/
structure Context where
  /-- The namespace of the model. -/
  namespaceName : Json := .string ""
  /-- The namespace of the metamodel. -/
  metaNamespace : String := defaultMetaNamespace
  /-- The place of the definitions, empty when unknown. -/
  container : List String := []
  /-- The whole document. -/
  document : Json := .null
  /-- The references that were followed to get here. -/
  traversed : List String := []
  /-- What is forced upon the next field. -/
  overrides : Overrides := {}
  /-- The required properties of the enclosing object, if it lists them. -/
  required : Option (List Json) := none
deriving DecidableEq, Repr

/-- The context past a property, whose overrides are used up. -/
def Context.bare (c : Context) : Context := { c with overrides := {} }

/-- The fields of the definitions' object, if there is an object at their place. -/
def Context.definitions? (c : Context) : Option (List (String × Json)) :=
  if c.container = [] then none
  else
    match c.document.getPath? c.container with
    | some (.object fields) => some fields
    | _ => none

/-- What reading a fragment may yield. -/
inductive Found where
  /-- A field. -/
  | field (f : Field)
  /-- A declaration. -/
  | declaration (d : Declaration)
  /-- The raw name of a declaration that is not read again. -/
  | typeName (name : String)
  /-- A property that is left to be read: the schema of an array, and its place. -/
  | deferred (body : Body) (path : List String)
  /-- The models of a document. -/
  | models (ms : Models)
deriving DecidableEq, Repr

/-- The declaration that was found, if it is one. -/
def Found.declaration? : Found → Option Declaration
  | declaration d => some d
  | _ => none

/-- The field that was found, if it is one. -/
def Found.field? : Found → Option Field
  | field f => some f
  | _ => none

/-- What was found, if it is a concept or an enumeration. -/
def Found.spawned? : Found → Option Found
  | declaration (.concept name isAbstract fields) =>
    some (declaration (.concept name isAbstract fields))
  | declaration (.enumeration name values) => some (declaration (.enumeration name values))
  | _ => none

/-- Results of a visit, nested as they were found. -/
abbrev Results := Nested Found

end ConceptModel.Inference
