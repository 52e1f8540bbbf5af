import ConceptModel.Proofs.Inference.Entry
import ConceptModel.Proofs.Inference.Rules
import Mathlib.Tactic.SplitIfs

/-!
# Constraints of fields

What stands beside the type of a field.  Its validator is one for values of this type; its
decorator says that it holds any JSON value, or a value of one of several types, and stands on
a text or a date; and a field of a declared type has nothing beside its type.  A decorator may
be pending only while a property of type `string` is read, which becomes a field at once:
`Pending`.  So all fields of a model are `Coherent`.
-/

namespace ConceptModel

/-! ### Coherent fields -/

/-- Whether a range has a bound, and none of its bounds is zero. -/
def Ranges (lower upper : Option Number) : Prop :=
  (lower.isSome ∨ upper.isSome) ∧ (∀ x ∈ lower, x.isZero = false) ∧ ∀ x ∈ upper, x.isZero = false

/-- Whether a validator is one for the values of a type. -/
def Validator.Constrains : Validator → FieldType → Prop
  | doubleRange lower upper, type => type = .double ∧ Ranges lower upper
  | integerRange lower upper, type => type = .integer ∧ Ranges lower upper
  | regex _ _, type => type = .string

/-- Whether a field has no decorator, or one that fits its type. -/
inductive Field.Decorated (f : Field) : Prop where
  | plain (none : f.decorators = [])
  /-- A text that holds any JSON value. -/
  | json (only : f.decorators = [{ name := "StringifiedJson" }]) (text : f.type = .string)
      (unset : f.defaultValue = none) (free : f.validator = none)
  /-- A text or a date that holds a value of one of several types. -/
  | union {types : String}
      (only : f.decorators = [{ name := "StringifiedUnionType", arguments := [types] }])
      (text : f.type = .string ∨ f.type = .dateTime)

/-- A field whose type fits what stands beside it. -/
structure Field.Coherent (f : Field) : Prop where
  validator : ∀ v ∈ f.validator, v.Constrains f.type
  decorators : f.Decorated
  declared : ∀ name, f.type = .declared name →
    f.defaultValue = none ∧ f.validator = none ∧ f.decorators = []

namespace Inference

open Relation Text

variable {x y : Visit} {f : Field}

/-! ### Primitive fields -/

section

variable {b : Body} {name : String} {type : FieldType}

/-- A type string is a text or a moment. -/
theorem fieldType_of_string
    (isString : b.hasType "string" = true) (h : (b.fieldType name).outcome = .ok type) :
  type = if b.isDateTime then .dateTime else .string
  := by
  have isString : b.getD "type" = .string "string" := by simpa [Body.hasType] using isString
  simp only [Body.fieldType, isString] at h
  split at h
  next date => simpa [date, eq_comm] using h
  next noDate =>
    split at h
    · obtain ⟨-, -, h⟩ := Report.bind_outcome_eq_ok.mp h
      simpa [noDate, eq_comm] using h
    · simpa [noDate, eq_comm] using h

/-- A type number is a double. -/
theorem fieldType_of_number
    (isNumber : b.hasType "number" = true) (h : (b.fieldType name).outcome = .ok type) :
  type = .double
  := by
  have isNumber : b.getD "type" = .string "number" := by simpa [Body.hasType] using isNumber
  simpa [Body.fieldType, isNumber, eq_comm] using h

/-- A type integer is an integer. -/
theorem fieldType_of_integer
    (isInteger : b.hasType "integer" = true) (h : (b.fieldType name).outcome = .ok type) :
  type = .integer
  := by
  have isInteger : b.getD "type" = .string "integer" := by simpa [Body.hasType] using isInteger
  simpa [Body.fieldType, isInteger, eq_comm] using h

theorem isZero_of_mem_bound?
    {v : Json} {bound : Number} (h : bound ∈ Body.bound? v) :
  bound.isZero = false
  := by
  cases v with
  | number n =>
    simp only [Body.bound?] at h
    split at h
    · simp at h
    next nonzero =>
      obtain rfl : n = bound := by simpa using h
      simpa using nonzero
  | _ => simp [Body.bound?] at h

/-- Bounds of which one is given make a range. -/
theorem ranges_of_bounded
    {v w : Json} (h : ((Body.bound? v).isSome || (Body.bound? w).isSome) = true) :
  Ranges (Body.bound? v) (Body.bound? w)
  := by
  refine ⟨by simpa using h, ?_, ?_⟩
  · exact fun _ mem => isZero_of_mem_bound? mem
  · exact fun _ mem => isZero_of_mem_bound? mem

/-- The type and the validator of a schema agree, although each reads its type anew. -/
theorem constrains_of_fieldType
    (h : (b.fieldType name).outcome = .ok type) :
  ∀ v ∈ b.validator?, v.Constrains type
  := by
  intro v held
  simp only [Body.validator?] at held
  split_ifs at held with isNumber isInteger isText
  · obtain rfl := Option.some.inj held
    obtain ⟨isNumber, bounded⟩ := Bool.and_eq_true_iff.mp isNumber
    exact ⟨fieldType_of_number isNumber h, ranges_of_bounded bounded⟩
  · obtain rfl := Option.some.inj held
    obtain ⟨isInteger, bounded⟩ := Bool.and_eq_true_iff.mp isInteger
    exact ⟨fieldType_of_integer isInteger h, ranges_of_bounded bounded⟩
  · obtain rfl := Option.some.inj held
    simp only [Bool.and_eq_true, Bool.not_eq_true'] at isText
    obtain ⟨⟨isString, noDate⟩, -⟩ := isText
    simpa [Validator.Constrains, noDate] using fieldType_of_string isString h
  · simp at held

end

/-! ### Pending decorators -/

/-- Whether no decorator is pending, or that of several types for a property of type
`string`. -/
inductive Pending (x : Visit) : Prop where
  | none (free : x.2.overrides.decorators = none)
  | union {types : List Json} (role : x.1.role = .property)
      (rule : (Body.ofJson x.1.body).propertyRule = .primitive)
      (isString : (Body.ofJson x.1.body).hasType "string" = true)
      (held : x.2.overrides.decorators = some [stringifiedUnion types])

/-- A property of type `string` hands on to nothing, so what is pending for it goes no
further. -/
theorem pending_of_handsOn
    (h : HandsOn x y) (pending : Pending x) :
  Pending y
  := by
  cases h with
  | deferral | inline => exact .none rfl
  | @union v path c types name rule =>
    have isString : Body.hasType (Json.setField "type" (.string "string") (Body.ofJson v))
        "string" = true := by
      simp [Body.hasType, Body.getD_setField_self]
    have rule := Body.propertyRule_setType rule
    exact @Pending.union _ types rfl rule isString rfl
  | alternation name rule | array name rule =>
    cases pending with
    | none free => exact .none free
    | union _ other => simp [rule] at other
  | _ =>
    cases pending with
    | none free => exact .none free
    | union role => simp at role

/-- What is pending stays so along a visit. -/
theorem pending_of_reached
    (h : ReflTransGen HandsOn x y) (pending : Pending x) :
  Pending y
  := by
  induction h with
  | refl => exact pending
  | tail _ step ih => exact pending_of_handsOn step ih

/-- What a primitive property adds to what is pending. -/
theorem decorated_of_primitive
    {v : Json} {path : List String} {c : Context} (pending : Pending (⟨.property, v, path⟩, c))
    (built : ((Body.ofJson v).primitiveField (nameOf path)
      (fieldBase (nameOf path) c)).outcome = .ok f) :
  f.Decorated ∧ ∀ w ∈ f.validator, w.Constrains f.type
  := by
  obtain ⟨type, typed, rfl⟩ := primitiveField_outcome_eq_ok.mp built
  refine ⟨?_, constrains_of_fieldType typed⟩
  cases pending with
  | none free =>
    apply Field.Decorated.plain
    simp [FieldBase.field, fieldBase, show c.overrides.decorators = none from free]
  | @union types _ _ isString held =>
    have text := fieldType_of_string isString typed
    apply @Field.Decorated.union _ ("[" ++ ",".intercalate (types.map Json.bare) ++ "]")
    · simp [FieldBase.field, fieldBase, stringifiedUnion,
        show c.overrides.decorators = some [stringifiedUnion types] from held]
    · simp only [FieldBase.field]
      split at text
      · exact .inr text
      · exact .inl text

/-- A field that is typed by a declaration has nothing beside its type, if nothing is
pending. -/
theorem coherent_declared
    {name type : String} {c : Context} (free : c.overrides.decorators = none) :
  ((fieldBase name c).field (.declared type)).Coherent
  := by
  have none : ((fieldBase name c).field (.declared type)).decorators = [] := by
    simp [FieldBase.field, fieldBase, free]
  exact ⟨by simp [FieldBase.field], .plain none, fun _ _ => ⟨rfl, rfl, none⟩⟩

/-- Fields that are built are coherent. -/
theorem coherent_of_builds
    (h : Builds y f) (pending : Pending y) :
  f.Coherent
  := by
  have free {v : Json} {path : List String} {c : Context}
      (pending : Pending (⟨.property, v, path⟩, c))
      (other : (Body.ofJson v).propertyRule ≠ .primitive) : c.overrides.decorators = none := by
    cases pending with
    | none free => exact free
    | union _ rule => exact absurd rule other
  cases h with
  | listed _ rule | referred _ rule | inline _ rule =>
    exact coherent_declared (free pending (by simp [rule]))
  | freeform => exact ⟨by simp [FieldBase.field], .json rfl rfl rfl rfl, by simp [FieldBase.field]⟩
  | primitive _ _ built =>
    obtain ⟨decorated, constrained⟩ := decorated_of_primitive pending built
    exact ⟨constrained, decorated, fun _ isDeclared =>
      absurd isDeclared (primitiveField_ne_declared built)⟩

/-! ### Models -/

/-- Every field of every concept that is inferred is coherent. -/
theorem coherent_of_inferModels
    {document namespaceName : Json} {metaNamespace : String} {path : List Json} {ms : Models}
    (inferred : (inferModels document namespaceName metaNamespace path).outcome = .ok ms) :
  ∀ m ∈ ms.models, ∀ d ∈ m.declarations, ∀ f ∈ d.fields, f.Coherent
  := by
  obtain ⟨given, -, built⟩ := exists_builds_of_inferModels inferred
  intro m isModel d mem f held
  obtain ⟨y, builds, reached⟩ := built m isModel d mem f held
  exact coherent_of_builds builds (pending_of_reached reached (.none rfl))

/-- A thermostat with bounds of both kinds, one of them zero, and with decorators. -/
def thermostat : Json :=
  .object
    [("properties", .object
      [("target", .object
          [("type", .string "number"), ("minimum", .number (.int 5)),
            ("exclusiveMaximum", .number (.int 0))]),
        ("level", .object
          [("type", .string "integer"), ("exclusiveMaximum", .number (.int 10)),
            ("default", .number (.int 3))]),
        ("since", .object
          [("type", .array [.string "string", .string "null"]), ("format", .string "date"),
            ("pattern", .string "^2")]),
        ("history", .object []),
        ("mode", .object [("enum", .array [.string "heat", .string "cool"])])])]

/-- The model of the thermostat. -/
def thermostatModel : Model :=
  { namespaceName := .string "org.acme"
    declarations :=
      [.concept "Root" false
        [{ name := "target", type := .double, isOptional := true
           validator := some (.doubleRange (some (.int 5)) none) },
          { name := "level", type := .integer, isOptional := true
            defaultValue := some (.number (.int 3))
            validator := some (.integerRange none (some (.int 10))) },
          { name := "since", type := .dateTime, isOptional := true
            decorators := [⟨"StringifiedUnionType", ["[string,null]"]⟩] },
          { name := "history", type := .string, isOptional := true
            decorators := [⟨"StringifiedJson", []⟩] },
          { name := "mode", type := .declared "Root$_properties$_mode", isOptional := true }],
        .enumeration "Root$_properties$_mode" ["heat", "cool"]] }

theorem coherent_of_inferModels_thermostat :
  (inferModels thermostat (.string "org.acme") defaultMetaNamespace []).outcome =
      .ok { models := [thermostatModel] } ∧
    ∀ d ∈ thermostatModel.declarations, ∀ f ∈ d.fields, f.Coherent
  := by
  have inferred : (inferModels thermostat (.string "org.acme") defaultMetaNamespace []).outcome =
      .ok { models := [thermostatModel] } :=
    Report.outcome_eq_ok_of_toOption (by decide +kernel)
  exact ⟨inferred, coherent_of_inferModels inferred thermostatModel (.head _)⟩

end Inference

end ConceptModel
