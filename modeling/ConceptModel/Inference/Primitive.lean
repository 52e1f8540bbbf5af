import ConceptModel.Inference.Body
import ConceptModel.Model.Basic
import ConceptModel.Report

/-!
# Primitive fields

The field that a schema of a primitive type becomes, with the default value and the
validator that its keywords ask for.
-/

namespace ConceptModel.Inference

/-- The fields of a schema's field that do not depend on its type. -/
structure FieldBase where
  name : String
  isArray : Bool
  isOptional : Bool
  decorators : List Decorator
deriving DecidableEq, Repr

/-- A field of a type without default value and validator. -/
def FieldBase.field (base : FieldBase) (type : FieldType) : Field :=
  { name := base.name, isArray := base.isArray, isOptional := base.isOptional,
    decorators := base.decorators, type := type }

namespace Body

/-- The type of the field that a schema becomes.  A string is a date when its format
says so; any other format is left out with a warning. -/
def fieldType (b : Body) (name : String) : Report FieldType :=
  match b.getD "type" with
  | .string "string" =>
    if b.isDateTime then return .dateTime
    else if (b.getD "format").isTruthy then do
      Report.warn (.formatIgnored (b.getD "format") name)
      return .string
    else return .string
  | .string "boolean" => return .boolean
  | .string "number" => return .double
  | .string "integer" => return .integer
  | type => .fail (.unsupportedProperty type name)

/-- The bound that a value sets: a number other than zero. -/
def bound? : Json → Option Number
  | .number x => if x.isZero then none else some x
  | _ => none

/-- The validator of a schema: a range from `minimum` to `exclusiveMaximum` for a
number, and a regular expression for a string that is no date. -/
def validator? (b : Body) : Option Validator :=
  let lower := bound? (b.getD "minimum")
  let upper := bound? (b.getD "exclusiveMaximum")
  let bounded := lower.isSome || upper.isSome
  if b.hasType "number" && bounded then some (.doubleRange lower upper)
  else if b.hasType "integer" && bounded then some (.integerRange lower upper)
  else if b.hasType "string" && !b.isDateTime && (b.getD "pattern").isTruthy then
    some (.regex (b.getD "pattern") "")
  else none

/-- The default value of a schema, unless it is `null` or has parts. -/
def defaultValue? (b : Body) : Option Literal :=
  match b.getD "default" with
  | .bool value => some (.flag value)
  | .number value => some (.number value)
  | .string value => some (.text value)
  | _ => none

/-- The field that a schema of a primitive type becomes. -/
def primitiveField (b : Body) (name : String) (base : FieldBase) : Report Field := do
  let type ← b.fieldType name
  return { base.field type with
    defaultValue := b.defaultValue?
    validator := b.validator? }

end Body

end ConceptModel.Inference
