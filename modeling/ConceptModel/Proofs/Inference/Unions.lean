import ConceptModel.Proofs.Inference.Constraints
import ConceptModel.Proofs.Inference.Visits

/-!
# Unions of types

A property of several types is read as one of type `string`, under a decorator that lists the
types.  Past first alternatives and the items of arrays, it comes to one field, and this is the
field of the same property of type `string` but for its decorator: `reads_union`.  So its type is
a text as long as its format does not say that it is a date.
-/

namespace ConceptModel.Inference

open Text

/-! ### Ways to a schema -/

/-- By rules: the schema of a property is read as another one, past first alternatives and the
items of arrays, with or without an array on the way. -/
inductive ReadAs : Json → Bool → Json → Prop where
  | here {v : Json} : ReadAs v false v
  | alternation {v w : Json} {iterates : Bool}
      (rule : (Body.ofJson v).propertyRule = .alternation)
      (rest : ReadAs (.object (Body.ofJson v).flattened) iterates w) :
      ReadAs v iterates w
  | items {v item w : Json} {iterates : Bool} (rule : (Body.ofJson v).propertyRule = .array)
      (held : (Body.ofJson v).get? "items" = some item) (noArray : item.isArray = false)
      (rest : ReadAs item iterates w) :
      ReadAs v true w

/-- The context in which the items of arrays are read. -/
def Context.forItems (c : Context) : Context :=
  { c with overrides := { c.overrides with isArray := some true } }

/-- The context at the end of a way, with or without an array on it. -/
def Context.past (c : Context) (iterates : Bool) : Context := if iterates then c.forItems else c

theorem Context.past_forItems
    (c : Context) (iterates : Bool) :
  c.forItems.past iterates = c.forItems
  := by
  cases iterates <;> rfl

/-- What a schema comes to, the schemas come to that are read as it. -/
theorem ReadAs.reads
    {v w : Json} {iterates : Bool} (h : ReadAs v iterates w) {path : List String}
    (free : nameOf path ∉ reservedNames) {c : Context} {found : Results}
    (reads : Reads ⟨.property, w, path⟩ (c.past iterates) found) :
  Reads ⟨.property, v, path⟩ c found
  := by
  induction h generalizing c with
  | here => exact reads
  | alternation rule _ ih => exact .alternation free rule (ih reads)
  | @items v item _ _ rule held noArray _ ih =>
    apply Reads.array free rule
    have held : (Json.object (Body.ofJson v)).get? "items" = some item := held
    apply Reads.items held noArray
    apply ih
    -- Items of items are read in the context of the first ones.
    rwa [← Context.forItems, Context.past_forItems]

/-! ### Texts -/

/-- The field of a schema of type `string`. -/
def Body.textField (b : Body) (base : FieldBase) : Field :=
  { base.field (if b.isDateTime then .dateTime else .string) with
    defaultValue := b.defaultValue?
    validator := b.validator? }

/-- A type string is supported. -/
theorem fieldType_outcome_of_string
    {b : Body} (isString : b.hasType "string" = true) (name : String) :
  ∃ type, (b.fieldType name).outcome = .ok type
  := by
  have isString : b.getD "type" = .string "string" := by simpa [Body.hasType] using isString
  simp only [Body.fieldType, isString]
  split
  · exact ⟨_, Report.pure_outcome _⟩
  · split
    · exact ⟨.string, by simp⟩
    · exact ⟨_, Report.pure_outcome _⟩

theorem primitiveField_outcome_of_string
    {b : Body} (isString : b.hasType "string" = true) (name : String) (base : FieldBase) :
  (b.primitiveField name base).outcome = .ok (b.textField base)
  := by
  obtain ⟨type, typed⟩ := fieldType_outcome_of_string isString name
  rw [primitiveField_outcome_eq_ok]
  use type, typed
  rw [Body.textField, fieldType_of_string isString typed]

/-! ### Unions -/

/-- Whether a schema has a list of types, and nothing that counts before its type. -/
structure IsUnionOf (b : Body) (types : List Json) : Prop where
  type : b.getD "type" = .array types
  noList : b.enumeration? = none
  noAlternation : b.isAlternation = false
  noReference : b.isReference = false

/-- The schema with `string` for its type. -/
def Body.asText (b : Body) : Body := Json.setField "type" (.string "string") b

section

variable {b : Body} {types : List Json}

/-- Unions are read by the rule for unions. -/
theorem IsUnionOf.propertyRule
    (h : IsUnionOf b types) :
  b.propertyRule = .union types
  := by
  have noArray : b.isArray = false := by simp [Body.isArray, Body.hasType, h.type]
  simp [Body.propertyRule, h.type, h.noList, h.noAlternation, h.noReference, noArray]

theorem hasType_asText :
  b.asText.hasType "string" = true
  := by
  simp [Body.asText, Body.hasType, Body.getD_setField_self]

theorem isDateTime_asText :
  b.asText.isDateTime = b.isDateTime
  := by
  have other : b.asText.getD "format" = b.getD "format" := Body.getD_setField_of_ne (by decide)
  simp [Body.isDateTime, other]

end

section

variable {v w : Json} {types : List Json} {path : List String}

/-- A property whose type has become `string` has a text field of its own. -/
theorem reads_asText
    (union : IsUnionOf (Body.ofJson w) types) (free : nameOf path ∉ reservedNames) (c : Context) :
  Reads ⟨.property, .object (Body.ofJson w).asText, path⟩ c
    (.one (.field ((Body.ofJson w).asText.textField (fieldBase (nameOf path) c))))
  := by
  have rule : (Body.ofJson (.object (Body.ofJson w).asText)).propertyRule = .primitive :=
    Body.propertyRule_setType union.propertyRule
  apply Reads.primitive free rule
  exact primitiveField_outcome_of_string hasType_asText _ _

/-- A property of several types comes to one field, under the decorator that lists them; this is
the field of the same property of type `string`, a date if its format is one, and otherwise a
text. -/
theorem reads_union
    {iterates : Bool} (readAs : ReadAs v iterates w) (union : IsUnionOf (Body.ofJson w) types)
    (free : nameOf path ∉ reservedNames) (c : Context) :
  ∃ f : Field, (∀ found, Reads ⟨.property, v, path⟩ c found ↔ found = .one (.field f)) ∧
    f.decorators = [{
      name := "StringifiedUnionType"
      arguments := ["[" ++ ",".intercalate (types.map Json.bare) ++ "]"] }] ∧
    f.type = (if (Body.ofJson w).isDateTime then .dateTime else .string) ∧
    ∀ u, ReadAs u iterates (.object (Body.ofJson w).asText) → ∃ g : Field,
      (∀ found, Reads ⟨.property, u, path⟩ c found ↔ found = .one (.field g)) ∧
      f = { g with decorators := f.decorators }
  := by
  use (Body.ofJson w).asText.textField
    { fieldBase (nameOf path) (c.past iterates) with decorators := [stringifiedUnion types] }
  refine ⟨?_, rfl, ?_, ?_⟩
  · intro found
    apply Reads.eq_iff
    apply readAs.reads free
    exact .union free union.propertyRule (reads_asText union free _)
  · simp [Body.textField, FieldBase.field, isDateTime_asText]
  · intro u readAs'
    use (Body.ofJson w).asText.textField (fieldBase (nameOf path) (c.past iterates))
    exact ⟨fun _ => (readAs'.reads free (reads_asText union free _)).eq_iff, rfl⟩

end

/-- A moment, as a number or as a text, with keywords of other types. -/
def momentUnion (format : String) : Json :=
  .object
    [("type", .array [.string "integer", .string "string"]), ("format", .string format),
      ("minimum", .number (.int 1)), ("pattern", .string "^[0-9]"),
      ("items", .object [("type", .string "number")])]

/-- Moments, each of which is a number or a text or else nothing. -/
def momentList : Json :=
  .object
    [("type", .string "array"),
      ("items", .object
        [("anyOf", .array [momentUnion "time", .object [("type", .string "null")]])])]

theorem reads_union_momentList :
  ∃ f : Field, (∀ found, Reads ⟨.property, momentList, ["Root", "properties", "at"]⟩ {} found ↔
      found = .one (.field f)) ∧
    f.decorators = [{ name := "StringifiedUnionType", arguments := ["[integer,string]"] }] ∧
    f.type = .string ∧
    ∀ u, ReadAs u true (.object (Body.ofJson (momentUnion "time")).asText) → ∃ g : Field,
      (∀ found, Reads ⟨.property, u, ["Root", "properties", "at"]⟩ {} found ↔
        found = .one (.field g)) ∧
      f = { g with decorators := f.decorators }
  := by
  have union : IsUnionOf (Body.ofJson (momentUnion "time")) [.string "integer", .string "string"] :=
    ⟨rfl, rfl, by decide +kernel, by decide +kernel⟩
  have readAs : ReadAs momentList true (momentUnion "time") := by
    apply ReadAs.items (by decide +kernel) rfl rfl
    apply ReadAs.alternation (by decide +kernel)
    exact .here
  exact @reads_union _ _ _ ["Root", "properties", "at"] _ readAs union (by decide) {}

/-- A log of moments. -/
def momentLog (format : String) : Json :=
  .object [("properties", .object [("at", momentUnion format)])]

/-- A number or a text becomes a date when its format is one. -/
theorem type_momentLog :
  ["time", "date-time", "date"].map (fun format =>
      (inferModels (momentLog format) (.string "org.acme") defaultMetaNamespace
        []).outcome.toOption.map fun ms =>
      ms.models.flatMap fun m => m.declarations.flatMap fun d =>
        d.fields.map fun f => (f.type, f.decorators)) =
    [some [(.string, [⟨"StringifiedUnionType", ["[integer,string]"]⟩])],
      some [(.dateTime, [⟨"StringifiedUnionType", ["[integer,string]"]⟩])],
      some [(.dateTime, [⟨"StringifiedUnionType", ["[integer,string]"]⟩])]]
  := by
  decide +kernel

end ConceptModel.Inference
