import ConceptModel.Json.Basic

/-!
# Schema bodies

The body of a schema as the fields of an object, and the questions that decide how it
is read: whether it is freeform, an alternation, a reference, an array or a tuple.
-/

namespace ConceptModel.Inference

/-- The fields of a schema. -/
abbrev Body := List (String × Json)

namespace Body

/-- The value of a keyword. -/
def get? (b : Body) (keyword : String) : Option Json := Json.lookup? keyword b

/-- The fields of a value that is read as a schema.  Truth accepts anything, and what is
neither an object nor truth accepts nothing. -/
def ofJson : Json → Body
  | .object fields => fields
  | .bool true => []
  | _ => [("not", .object [])]

/-- The value of a keyword, where `null` stands for none. -/
def getD (b : Body) (keyword : String) : Json := (b.get? keyword).getD .null

/-- Whether the type is the given name. -/
def hasType (b : Body) (name : String) : Bool := b.getD "type" = .string name

/-- Whether the schema admits objects of any shape: it is empty, or it is an object
with additional properties or without properties of its own. -/
def isFreeform (b : Body) : Bool :=
  b.isEmpty
    || (b.hasType "object"
      && ((b.getD "additionalProperties").isObject
        || b.getD "additionalProperties" = .bool true
        || !(b.getD "properties").isObject))

/-- The keywords of alternations. -/
def alternationKeywords : List String := ["anyOf", "oneOf"]

/-- Whether the schema has alternatives. -/
def isAlternation (b : Body) : Bool :=
  alternationKeywords.any fun keyword => (b.getD keyword).isTruthy

/-- Whether the schema is a reference. -/
def isReference (b : Body) : Bool := (b.getD "$ref").isString

/-- Whether the schema is an array with items. -/
def isArray (b : Body) : Bool :=
  b.hasType "array" && ((b.getD "items").isObject || (b.getD "items").isArray)

/-- Whether a value is a number that is at most a count. -/
def isCountUpTo (v : Json) (count : Nat) : Bool :=
  match v with
  | .number x => x.atMost count
  | _ => false

/-- Whether the schema is a tuple whose least and greatest number of elements do not
exceed the number of elements that it describes. -/
def isTuple (b : Body) : Bool :=
  b.isArray
    && match b.getD "items" with
      | .array items =>
        isCountUpTo (b.getD "minItems") items.length
          && isCountUpTo (b.getD "maxItems") items.length
      | _ => false

/-- Whether the format of the schema is a date, with or without a time. -/
def isDateTime (b : Body) : Bool :=
  b.getD "format" = .string "date-time" || b.getD "format" = .string "date"

/-- The elements of the enumeration, if the schema is one. -/
def enumeration? (b : Body) : Option (List Json) :=
  match b.getD "enum" with
  | .array values => some values
  | _ => none

/-- The keyword of the alternation that counts. -/
def alternationKeyword (b : Body) : String :=
  if (b.getD "anyOf").isTruthy then "anyOf" else "oneOf"

/-- The first alternative, or an empty schema when there is none. -/
def firstAlternative (b : Body) : Json :=
  match b.getD b.alternationKeyword with
  | .array (first :: _) => first
  | _ => .object []

/-- The schema with its first alternative merged over the rest of it. -/
def flattened (b : Body) : Body :=
  Json.mergeFields (b.filter fun (keyword, _) => !alternationKeywords.contains keyword)
    (ofJson b.firstAlternative)

/-- The required properties that the schema lists. -/
def required? (b : Body) : Option (List Json) :=
  match b.getD "required" with
  | .array names => some names
  | _ => none

end Body

/-! ### Rules -/

/-- The rule by which a property is read. -/
inductive PropertyRule where
  /-- It lists its values. -/
  | enumeration (elements : List Json)
  /-- Its first alternative counts. -/
  | alternation
  /-- It is what it refers to. -/
  | reference
  /-- It is an array. -/
  | array
  /-- It has one of several types. -/
  | union (types : List Json)
  /-- It holds any JSON value. -/
  | freeform
  /-- It is an object with properties of its own. -/
  | inline
  /-- It is of a primitive type. -/
  | primitive
deriving DecidableEq, Repr

/-- The first rule that fits the schema of a property. -/
def Body.propertyRule (b : Body) : PropertyRule :=
  match b.enumeration? with
  | some elements => .enumeration elements
  | none =>
    if b.isAlternation then .alternation
    else if b.isReference then .reference
    else if b.isArray then .array
    else
      match b.getD "type" with
      | .array types => .union types
      | _ =>
        if b.isFreeform then .freeform
        else if b.hasType "object" && (b.getD "properties").isObject then .inline
        else .primitive

/-- The rule by which a definition is read that does not list its values. -/
inductive StructuralRule where
  /-- It holds any JSON value. -/
  | scalar
  /-- It is an array, which is left to be read. -/
  | array
  /-- Its first alternative counts. -/
  | alternation
  /-- It is what it refers to. -/
  | reference
  /-- It is an object. -/
  | concept
deriving DecidableEq, Repr

/-- The first rule that fits the schema of a definition that does not list its values. -/
def Body.structuralRule (b : Body) : StructuralRule :=
  if b.isFreeform then .scalar
  else if b.hasType "array" then .array
  else if b.isAlternation then .alternation
  else if b.isReference then .reference
  else .concept

end ConceptModel.Inference
