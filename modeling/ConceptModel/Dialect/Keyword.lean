import ConceptModel.Dialect.Basic

/-!
# Keywords

What each draft demands of the values of its keywords, in the order in which they are
checked.  A rule that speaks of schemas is applied to the parts of the value, and every
other rule to the value alone; a keyword without a rule may hold anything.
-/

namespace ConceptModel.Dialect

/-- What a draft demands of the value of a keyword. -/
inductive Rule where
  /-- Any value. -/
  | anything
  /-- A string. -/
  | text
  /-- A string that is a regular expression. -/
  | regex
  /-- A string with no number sign but at its end. -/
  | unfragmented
  /-- A string that names an anchor; an underscore may start it if so given. -/
  | anchor (underscored : Bool)
  /-- A truth value. -/
  | flag
  /-- A number. -/
  | number
  /-- A number greater than zero. -/
  | positive
  /-- An integer. -/
  | integer
  /-- An integer that is not negative. -/
  | count
  /-- An array. -/
  | list
  /-- A nonempty array of distinct values. -/
  | distinctValues
  /-- The name of a type, or a nonempty array of distinct names of types. -/
  | types
  /-- An array of distinct strings, nonempty if so given. -/
  | names (nonempty : Bool)
  /-- An object whose values are arrays of distinct strings. -/
  | namesByKey
  /-- An object whose values are truth values. -/
  | flagsByKey
  /-- A schema. -/
  | schema
  /-- A schema or a truth value. -/
  | schemaOrFlag
  /-- A nonempty array of schemas. -/
  | schemas
  /-- A schema or a nonempty array of schemas. -/
  | schemaOrSchemas
  /-- A schema or an array of schemas, which may be empty. -/
  | looseSchemas
  /-- A string or an array of distinct elements, each a string or a schema. -/
  | textsOrSchemas
  /-- An object whose values are schemas, and whose keys are regular expressions if so
  given. -/
  | schemasByKey (regexKeys : Bool)
  /-- An object whose values are schemas or arrays of distinct strings, nonempty if so
  given. -/
  | dependencies (nonempty : Bool)
  /-- An object whose values are schemas, strings or arrays of strings. -/
  | looseDependencies
deriving DecidableEq, Repr

/-! ### Tables -/

/-- The keywords of draft 3. -/
def rules3 : List (String × Rule) :=
  [("type", .textsOrSchemas), ("properties", .schemasByKey false),
   ("patternProperties", .schemasByKey false), ("additionalProperties", .schemaOrFlag),
   ("items", .looseSchemas), ("additionalItems", .schemaOrFlag), ("required", .flag),
   ("dependencies", .looseDependencies), ("minimum", .number), ("maximum", .number),
   ("exclusiveMinimum", .flag), ("exclusiveMaximum", .flag), ("minItems", .count),
   ("maxItems", .count), ("uniqueItems", .flag), ("pattern", .regex), ("minLength", .count),
   ("maxLength", .integer), ("enum", .distinctValues), ("title", .text), ("description", .text),
   ("format", .text), ("divisibleBy", .positive), ("disallow", .textsOrSchemas),
   ("extends", .looseSchemas), ("id", .text), ("$ref", .text), ("$schema", .text)]

/-- The keywords of draft 4. -/
def rules4 : List (String × Rule) :=
  [("id", .text), ("$schema", .text), ("title", .text), ("description", .text),
   ("multipleOf", .positive), ("maximum", .number), ("exclusiveMaximum", .flag),
   ("minimum", .number), ("exclusiveMinimum", .flag), ("maxLength", .count),
   ("minLength", .count), ("pattern", .regex), ("additionalItems", .schemaOrFlag),
   ("items", .schemaOrSchemas), ("maxItems", .count), ("minItems", .count),
   ("uniqueItems", .flag), ("maxProperties", .count), ("minProperties", .count),
   ("required", .names true), ("additionalProperties", .schemaOrFlag),
   ("definitions", .schemasByKey false), ("properties", .schemasByKey false),
   ("patternProperties", .schemasByKey false), ("dependencies", .dependencies true),
   ("enum", .distinctValues), ("type", .types), ("format", .text), ("allOf", .schemas),
   ("anyOf", .schemas), ("oneOf", .schemas), ("not", .schema)]

/-- The keywords of draft 6. -/
def rules6 : List (String × Rule) :=
  [("$id", .text), ("$schema", .text), ("$ref", .text), ("title", .text), ("description", .text),
   ("examples", .list), ("multipleOf", .positive), ("maximum", .number),
   ("exclusiveMaximum", .number), ("minimum", .number), ("exclusiveMinimum", .number),
   ("maxLength", .count), ("minLength", .count), ("pattern", .regex),
   ("additionalItems", .schema), ("items", .schemaOrSchemas), ("maxItems", .count),
   ("minItems", .count), ("uniqueItems", .flag), ("contains", .schema), ("maxProperties", .count),
   ("minProperties", .count), ("required", .names false), ("additionalProperties", .schema),
   ("definitions", .schemasByKey false), ("properties", .schemasByKey false),
   ("patternProperties", .schemasByKey true), ("dependencies", .dependencies false),
   ("propertyNames", .schema), ("enum", .list), ("type", .types), ("format", .text),
   ("allOf", .schemas), ("anyOf", .schemas), ("oneOf", .schemas), ("not", .schema)]

/-- The keywords of draft 7. -/
def rules7 : List (String × Rule) :=
  [("$id", .text), ("$schema", .text), ("$ref", .text), ("$comment", .text), ("title", .text),
   ("description", .text), ("readOnly", .flag), ("examples", .list), ("multipleOf", .positive),
   ("maximum", .number), ("exclusiveMaximum", .number), ("minimum", .number),
   ("exclusiveMinimum", .number), ("maxLength", .count), ("minLength", .count),
   ("pattern", .regex), ("additionalItems", .schema), ("items", .schemaOrSchemas),
   ("maxItems", .count), ("minItems", .count), ("uniqueItems", .flag), ("contains", .schema),
   ("maxProperties", .count), ("minProperties", .count), ("required", .names false),
   ("additionalProperties", .schema), ("definitions", .schemasByKey false),
   ("properties", .schemasByKey false), ("patternProperties", .schemasByKey true),
   ("dependencies", .dependencies false), ("propertyNames", .schema), ("enum", .list),
   ("type", .types), ("format", .text), ("contentMediaType", .text), ("contentEncoding", .text),
   ("if", .schema), ("then", .schema), ("else", .schema), ("allOf", .schemas),
   ("anyOf", .schemas), ("oneOf", .schemas), ("not", .schema)]

/-- The keywords of the draft of 2019-09. -/
def rules2019 : List (String × Rule) :=
  [("$id", .unfragmented), ("$schema", .text), ("$anchor", .anchor false), ("$ref", .text),
   ("$recursiveRef", .text), ("$recursiveAnchor", .flag), ("$vocabulary", .flagsByKey),
   ("$comment", .text), ("$defs", .schemasByKey false), ("additionalItems", .schema),
   ("unevaluatedItems", .schema), ("items", .schemaOrSchemas), ("contains", .schema),
   ("additionalProperties", .schema), ("unevaluatedProperties", .schema),
   ("properties", .schemasByKey false), ("patternProperties", .schemasByKey true),
   ("dependentSchemas", .schemasByKey false), ("propertyNames", .schema), ("if", .schema),
   ("then", .schema), ("else", .schema), ("allOf", .schemas), ("anyOf", .schemas),
   ("oneOf", .schemas), ("not", .schema), ("multipleOf", .positive), ("maximum", .number),
   ("exclusiveMaximum", .number), ("minimum", .number), ("exclusiveMinimum", .number),
   ("maxLength", .count), ("minLength", .count), ("pattern", .regex), ("maxItems", .count),
   ("minItems", .count), ("uniqueItems", .flag), ("maxContains", .count), ("minContains", .count),
   ("maxProperties", .count), ("minProperties", .count), ("required", .names false),
   ("dependentRequired", .namesByKey), ("enum", .list), ("type", .types), ("title", .text),
   ("description", .text), ("deprecated", .flag), ("readOnly", .flag), ("writeOnly", .flag),
   ("examples", .list), ("format", .text), ("contentMediaType", .text),
   ("contentEncoding", .text), ("contentSchema", .schema), ("definitions", .schemasByKey false),
   ("dependencies", .dependencies false)]

/-- The keywords of the draft of 2020-12. -/
def rules2020 : List (String × Rule) :=
  [("$id", .unfragmented), ("$schema", .text), ("$ref", .text), ("$anchor", .anchor true),
   ("$dynamicRef", .text), ("$dynamicAnchor", .anchor true), ("$vocabulary", .flagsByKey),
   ("$comment", .text), ("$defs", .schemasByKey false), ("prefixItems", .schemas),
   ("items", .schema), ("contains", .schema), ("additionalProperties", .schema),
   ("properties", .schemasByKey false), ("patternProperties", .schemasByKey true),
   ("dependentSchemas", .schemasByKey false), ("propertyNames", .schema), ("if", .schema),
   ("then", .schema), ("else", .schema), ("allOf", .schemas), ("anyOf", .schemas),
   ("oneOf", .schemas), ("not", .schema), ("unevaluatedItems", .schema),
   ("unevaluatedProperties", .schema), ("type", .types), ("enum", .list),
   ("multipleOf", .positive), ("maximum", .number), ("exclusiveMaximum", .number),
   ("minimum", .number), ("exclusiveMinimum", .number), ("maxLength", .count),
   ("minLength", .count), ("pattern", .regex), ("maxItems", .count), ("minItems", .count),
   ("uniqueItems", .flag), ("maxContains", .count), ("minContains", .count),
   ("maxProperties", .count), ("minProperties", .count), ("required", .names false),
   ("dependentRequired", .namesByKey), ("title", .text), ("description", .text),
   ("deprecated", .flag), ("readOnly", .flag), ("writeOnly", .flag), ("examples", .list),
   ("format", .text), ("contentEncoding", .text), ("contentMediaType", .text),
   ("contentSchema", .schema), ("definitions", .schemasByKey false),
   ("dependencies", .dependencies false), ("$recursiveAnchor", .anchor true),
   ("$recursiveRef", .text)]

/-- The keywords of a draft, in the order in which they are checked. -/
def rules : Dialect → List (String × Rule)
  | draft3 => rules3
  | draft4 => rules4
  | draft6 => rules6
  | draft7 => rules7
  | draft2019 => rules2019
  | draft2020 => rules2020

/-- What a draft demands of the value of a keyword. -/
def rule (d : Dialect) (keyword : String) : Rule :=
  (d.rules.lookup keyword).getD .anything

/-- The keywords that need another one beside them. -/
def needs : Dialect → List (String × String)
  | draft3 | draft4 =>
    [("exclusiveMinimum", "minimum"), ("exclusiveMaximum", "maximum")]
  | _ => []

/-- Whether a truth value is a schema. -/
def hasFlagSchemas : Dialect → Bool
  | draft3 | draft4 => false
  | _ => true

/-- Whether a double that stands for an integer counts as one. -/
def hasIntegralDoubles : Dialect → Bool
  | draft3 | draft4 => false
  | _ => true

end ConceptModel.Dialect
