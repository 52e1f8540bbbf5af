import ConceptModel.Model.Metamodel
import ConceptModel.Proofs.Json.Rearranged

/-!
# Reading the metamodel back

Models can be read back from their description, of which the namespace of the metamodel is a
part: `Models.ofJson?` undoes `Models.toJson`.  It looks into objects only by their keys, so it
does not depend on the order of their fields.
-/

namespace ConceptModel

open Json

/-! ### Parts of a description -/

namespace Json

/-- The text that a value is, if it is one. -/
def string? : Json → Option String
  | string s => some s
  | _ => none

/-- The truth value that a value is, if it is one. -/
def bool? : Json → Option Bool
  | bool b => some b
  | _ => none

/-- The number that a value is, if it is one. -/
def number? : Json → Option Number
  | number x => some x
  | _ => none

/-- The parts that the elements of an array describe, if all of them do. -/
def list? {α : Type} (decode : Json → Option α) : Json → Option (List α)
  | array vs => vs.mapM decode
  | _ => none

end Json

/-- The parts that the array of a key describes. -/
def parts? {α : Type} (decode : Json → Option α) (key : String) (v : Json) : Option (List α) :=
  (v.get? key).bind (Json.list? decode)

/-- The part that a field describes, which may be left out. -/
def optional? {α : Type} (decode : Json → Option α) : Option Json → Option (Option α)
  | some v => (decode v).map some
  | none => some none

/-- The parts that a field lists, which is left out when there are none. -/
def listed? {α : Type} (decode : Json → Option α) : Option Json → Option (List α)
  | some v => v.list? decode
  | none => some []

/-- The name of the class of an object in a namespace. -/
def className? (ns : String) (v : Json) : Option String := do
  let tag ← (← v.get? "$class").string?
  let name ← (ns ++ ".").toList.isPrefixOf? tag.toList
  return String.ofList name

/-- The namespace of a class of the given name. -/
def metaNamespace? (className : String) (v : Json) : Option String := do
  let tag ← (← v.get? "$class").string?
  let ns ← ("." ++ className).toList.isSuffixOf? tag.toList
  return String.ofList ns

/-! ### Decoding -/

/-- The argument that an object describes. -/
def argument? (v : Json) : Option String := (v.get? "value").bind string?

/-- The decorator that an object describes. -/
def Decorator.ofJson? (v : Json) : Option Decorator := do
  let name ← (← v.get? "name").string?
  let arguments ← listed? argument? (v.get? "arguments")
  return { name := name, arguments := arguments }

/-- The validator that an object describes. -/
def Validator.ofJson? (ns : String) (v : Json) : Option Validator := do
  match ← className? ns v with
  | "DoubleDomainValidator" =>
    return .doubleRange (← optional? number? (v.get? "lower"))
      (← optional? number? (v.get? "upper"))
  | "IntegerDomainValidator" =>
    return .integerRange (← optional? number? (v.get? "lower"))
      (← optional? number? (v.get? "upper"))
  | "StringRegexValidator" => return .regex (← v.get? "pattern") (← (← v.get? "flags").string?)
  | _ => none

/-- The default value that a value is. -/
def Literal.ofJson? : Json → Option Literal
  | .bool value => some (.flag value)
  | .number value => some (.number value)
  | .string value => some (.text value)
  | _ => none

/-- The type of the field that an object describes. -/
def FieldType.ofJson? (ns : String) (v : Json) : Option FieldType := do
  match ← className? ns v with
  | "StringProperty" => some .string
  | "BooleanProperty" => some .boolean
  | "DoubleProperty" => some .double
  | "IntegerProperty" => some .integer
  | "DateTimeProperty" => some .dateTime
  | "ObjectProperty" => return .declared (← (← (← v.get? "type").get? "name").string?)
  | _ => none

/-- The field that an object describes. -/
def Field.ofJson? (ns : String) (v : Json) : Option Field := do
  let name ← (← v.get? "name").string?
  let isArray ← (← v.get? "isArray").bool?
  let isOptional ← (← v.get? "isOptional").bool?
  let decorators ← listed? Decorator.ofJson? (v.get? "decorators")
  let defaultValue ← optional? Literal.ofJson? (v.get? "defaultValue")
  let validator ← optional? (Validator.ofJson? ns) (v.get? "validator")
  let type ← FieldType.ofJson? ns v
  return { name := name, isArray := isArray, isOptional := isOptional, decorators := decorators,
           defaultValue := defaultValue, validator := validator, type := type }

/-- The value of an enumeration that an object describes. -/
def enumValue? (v : Json) : Option String := (v.get? "name").bind string?

/-- The declaration that an object describes. -/
def Declaration.ofJson? (ns : String) (v : Json) : Option Declaration := do
  let name ← (← v.get? "name").string?
  match ← className? ns v with
  | "ConceptDeclaration" =>
    let isAbstract ← (← v.get? "isAbstract").bool?
    return .concept name isAbstract (← parts? (Field.ofJson? ns) "properties" v)
  | "EnumDeclaration" => return .enumeration name (← parts? enumValue? "properties" v)
  | "StringScalar" => return .scalar name (← parts? Decorator.ofJson? "decorators" v)
  | "" => return .plain name
  | _ => none

/-- The model that an object describes. -/
def Model.ofJson? (ns : String) (v : Json) : Option Model := do
  let namespaceName ← v.get? "namespace"
  let decorators ← parts? Decorator.ofJson? "decorators" v
  let imports ← parts? string? "imports" v
  let declarations ← parts? (Declaration.ofJson? ns) "declarations" v
  return { namespaceName := namespaceName, declarations := declarations, imports := imports,
           decorators := decorators }

/-- The models that an object describes. -/
def Models.ofJson? (v : Json) : Option Models := do
  let ns ← metaNamespace? "Models" v
  let models ← parts? (Model.ofJson? ns) "models" v
  return { models := models, metaNamespace := ns }

/-! ### Values that are kept -/

/-- The values that the description of a validator keeps as they are. -/
def Validator.kept : Validator → List Json
  | regex pattern _ => [pattern]
  | _ => []

/-- The values that the description of a field keeps as they are. -/
def Field.kept (f : Field) : List Json := f.validator.toList.flatMap Validator.kept

/-- The values that the description of a declaration keeps as they are. -/
def Declaration.kept : Declaration → List Json
  | concept _ _ fields => fields.flatMap Field.kept
  | _ => []

/-- The values that the description of a model keeps as they are. -/
def Model.kept (m : Model) : List Json := m.namespaceName :: m.declarations.flatMap Declaration.kept

/-- The values that the description of models keeps as they are: their namespaces, and the
patterns of their fields. -/
def Models.kept (ms : Models) : List Json := ms.models.flatMap Model.kept

/-! ### Undoing a description -/

/-- An optional field has its key only if there is a value for it. -/
theorem lookup?_optionalField
    {key other : String} {v : Option Json} :
  lookup? other (optionalField key v) = if key = other then v else none
  := by
  cases v <;> simp [optionalField, lookup?]

/-- A field for a list has its key only if the list has elements. -/
theorem lookup?_nonemptyField
    {key other : String} {elements : List Json} :
  lookup? other (nonemptyField key elements) =
    if key = other ∧ elements ≠ [] then some (.array elements) else none
  := by
  cases elements <;> simp [nonemptyField, lookup?]

section

variable {R : Json → Json → Prop} (sees : Sees R) {α : Type} {encode : α → Json}
  {decode : Json → Option α} {ns key : String} {v w : Json}
include sees

/-- The parts that an array describes are read back when each of them is. -/
theorem list?_of_sees
    {parts : List α} (each : ∀ a ∈ parts, ∀ w, R (encode a) w → decode w = some a)
    (h : R (.array (parts.map encode)) w) :
  w.list? decode = some parts
  := by
  obtain ⟨ws, rfl, same⟩ := sees.array h
  simp only [list?]
  clear h
  induction parts generalizing ws with
  | nil =>
    cases same
    rfl
  | cons a rest ih =>
    cases same with
    | cons first others =>
      have decoded := each a List.mem_cons_self _ first
      have ih := ih (fun b mem => each b (List.mem_cons_of_mem a mem)) _ others
      simp [List.mapM_cons, decoded, ih]

/-- Parts are read back from a field that shows them, if each of them is. -/
theorem parts?_of_sees
    {parts : List α} (each : ∀ a ∈ parts, ∀ w, R (encode a) w → decode w = some a) (h : R v w)
    (held : v.get? key = some (.array (parts.map encode))) :
  parts? decode key w = some parts
  := by
  obtain ⟨u, held', same⟩ := sees.exists_get? h held
  rw [parts?, held', Option.bind_some, list?_of_sees sees each same]

/-- Parts are read back from a field that is left out when there are none. -/
theorem listed?_of_sees
    {parts : List α} (each : ∀ a ∈ parts, ∀ w, R (encode a) w → decode w = some a) (h : R v w)
    (held : v.get? key =
      if parts.map encode ≠ [] then some (.array (parts.map encode)) else none) :
  listed? decode (w.get? key) = some parts
  := by
  cases parts with
  | nil => rw [sees.get?_eq_none h (by simpa using held), listed?]
  | cons a rest =>
    obtain ⟨u, held', same⟩ := sees.exists_get? h (by simpa using held)
    rw [held', listed?, list?_of_sees sees each same]

/-- A part is read back from a field that is left out when there is none. -/
theorem optional?_of_sees
    {part : Option α} (each : ∀ a, part = some a → ∀ w, R (encode a) w → decode w = some a)
    (h : R v w) (held : v.get? key = part.map encode) :
  optional? decode (w.get? key) = some part
  := by
  cases part with
  | none => rw [sees.get?_eq_none h held, optional?]
  | some a =>
    obtain ⟨u, held', same⟩ := sees.exists_get? h held
    rw [held', optional?, each a rfl u same, Option.map_some]

/-- A name is read back from the tag of a class. -/
theorem className?_of_sees
    {name : String} (h : R v w) (held : v.get? "$class" = some (classTag ns name)) :
  className? ns w = some name
  := by
  have own := sees.get?_string h held
  have front : (ns ++ ".").toList.isPrefixOf? (ns ++ "." ++ name).toList = some name.toList := by
    rw [List.isPrefixOf?_eq_some_iff_append_eq, ← String.toList_append]
  simp only [className?, own, string?, front, Option.bind_eq_bind, Option.bind_some,
    String.ofList_toList, Option.pure_def]

/-- The namespace of the metamodel is read back from the tag of a class. -/
theorem metaNamespace?_of_sees
    {name : String} (h : R v w) (held : v.get? "$class" = some (classTag ns name)) :
  metaNamespace? name w = some ns
  := by
  have own := sees.get?_string h held
  have back : ("." ++ name).toList.isSuffixOf? (ns ++ "." ++ name).toList = some ns.toList := by
    rw [List.isSuffixOf?_eq_some_iff_append_eq, ← String.toList_append, String.append_assoc]
  simp only [metaNamespace?, own, string?, back, Option.bind_eq_bind, Option.bind_some,
    String.ofList_toList, Option.pure_def]

/-! ### Decorators and validators -/

/-- A decorator is read back from its description. -/
theorem Decorator.ofJson?_of_sees
    {d : Decorator} (h : R (d.toJson ns) w) :
  Decorator.ofJson? w = some d
  := by
  have name : w.get? "name" = some (.string d.name) := sees.get?_string h rfl
  have argument : ∀ a ∈ d.arguments, ∀ w,
      R (.object [("$class", classTag ns "DecoratorString"), ("value", .string a)]) w →
        argument? w = some a := by
    intro a _ w same
    rw [argument?, sees.get?_string same rfl, Option.bind_some, string?]
  have arguments : listed? argument? (w.get? "arguments") = some d.arguments := by
    apply listed?_of_sees sees argument h
    simp [Decorator.toJson, get?, lookup?, lookup?_nonemptyField]
  simp [Decorator.ofJson?, name, string?, arguments]

theorem decorators_of_sees
    {ds : List Decorator} :
  ∀ d ∈ ds, ∀ w, R (d.toJson ns) w → Decorator.ofJson? w = some d
  := fun _ _ _ => Decorator.ofJson?_of_sees sees

theorem optional?_number?_of_sees
    {x : Option Number} (h : R v w) (held : v.get? key = x.map .number) :
  optional? number? (w.get? key) = some x
  := by
  apply optional?_of_sees sees _ h held
  intro y _ u same
  rw [sees.number same, number?]

/-- The bounds of a range are read back, integers and doubles apart. -/
theorem range_of_sees
    {name : String} {lower upper : Option Number} (h : R (rangeToJson ns name lower upper) w) :
  className? ns w = some name ∧ optional? number? (w.get? "lower") = some lower ∧
    optional? number? (w.get? "upper") = some upper
  := by
  refine ⟨className?_of_sees sees h rfl, ?_, ?_⟩
  · apply optional?_number?_of_sees sees h
    simp [rangeToJson, get?, lookup?, lookup?_append, lookup?_optionalField]
  · apply optional?_number?_of_sees sees h
    simp [rangeToJson, get?, lookup?, lookup?_append, lookup?_optionalField]

/-- A validator is read back from its description, if its pattern is left as it is. -/
theorem Validator.ofJson?_of_sees
    {x : Validator} (fixed : ∀ p ∈ x.kept, ∀ q, R p q → q = p) (h : R (x.toJson ns) w) :
  Validator.ofJson? ns w = some x
  := by
  cases x with
  | doubleRange lower upper | integerRange lower upper =>
    obtain ⟨name, least, greatest⟩ := range_of_sees sees h
    simp [Validator.ofJson?, name, least, greatest]
  | regex pattern flags =>
    have name : className? ns w = some "StringRegexValidator" := className?_of_sees sees h rfl
    obtain ⟨q, held, same⟩ : ∃ q, w.get? "pattern" = some q ∧ R pattern q := sees.exists_get? h rfl
    obtain rfl := fixed pattern (by simp [kept]) q same
    have ownFlags : w.get? "flags" = some (.string flags) := sees.get?_string h rfl
    simp [Validator.ofJson?, name, held, ownFlags, string?]

/-! ### Fields -/

/-- A default value is read back from its description. -/
theorem Literal.ofJson?_of_sees
    {x : Literal} (h : R x.toJson w) :
  Literal.ofJson? w = some x
  := by
  cases x with
  | flag value => rw [sees.bool h, Literal.ofJson?]
  | number value => rw [sees.number h, Literal.ofJson?]
  | text value => rw [sees.string h, Literal.ofJson?]

/-- The type of a field is read back from the tag of the field. -/
theorem FieldType.ofJson?_of_sees
    {f : Field} (h : R (f.toJson ns) w) :
  FieldType.ofJson? ns w = some f.type
  := by
  have name : className? ns w = some f.type.className := className?_of_sees sees h rfl
  cases type : f.type with
  | declared target =>
    have held : (f.toJson ns).get? "type" = some
        (.object [("$class", classTag ns "TypeIdentifier"), ("name", .string target)]) := by
      simp [Field.toJson, get?, lookup?, lookup?_append, lookup?_optionalField,
        lookup?_nonemptyField, type, FieldType.reference?]
    obtain ⟨u, held, same⟩ := sees.exists_get? h held
    have own : u.get? "name" = some (.string target) := sees.get?_string same rfl
    simp [FieldType.ofJson?, name, type, FieldType.className, held, own, string?]
  | _ => simp [FieldType.ofJson?, name, type, FieldType.className]

/-- A field is read back from its description, if what it keeps is left as it is. -/
theorem Field.ofJson?_of_sees
    {f : Field} (fixed : ∀ p ∈ f.kept, ∀ q, R p q → q = p) (h : R (f.toJson ns) w) :
  Field.ofJson? ns w = some f
  := by
  have name : w.get? "name" = some (.string f.name) := sees.get?_string h rfl
  have isArray : w.get? "isArray" = some (.bool f.isArray) := sees.get?_bool h rfl
  have isOptional : w.get? "isOptional" = some (.bool f.isOptional) := sees.get?_bool h rfl
  have decorators : listed? Decorator.ofJson? (w.get? "decorators") = some f.decorators := by
    have each : ∀ d ∈ f.decorators, ∀ w, R (d.toJson ns) w → Decorator.ofJson? w = some d :=
      decorators_of_sees sees
    apply listed?_of_sees sees each h
    simp [Field.toJson, get?, lookup?, lookup?_append, lookup?_optionalField, lookup?_nonemptyField]
  have defaultValue : optional? Literal.ofJson? (w.get? "defaultValue") = some f.defaultValue := by
    apply optional?_of_sees sees (fun x _ w same => Literal.ofJson?_of_sees sees same) h
    simp [Field.toJson, get?, lookup?, lookup?_append, lookup?_optionalField, lookup?_nonemptyField]
  have validator : optional? (Validator.ofJson? ns) (w.get? "validator") = some f.validator := by
    apply optional?_of_sees sees _ h
    · simp [Field.toJson, get?, lookup?, lookup?_append, lookup?_optionalField,
        lookup?_nonemptyField]
      rfl
    · intro x isValidator w same
      apply Validator.ofJson?_of_sees sees _ same
      intro p mem
      exact fixed p (by simp [kept, isValidator, mem])
  have type := FieldType.ofJson?_of_sees sees h
  simp [Field.ofJson?, name, isArray, isOptional, string?, bool?, decorators, defaultValue,
    validator, type]

/-! ### Declarations and models -/

/-- A declaration is read back, if what it keeps is left as it is. -/
theorem Declaration.ofJson?_of_sees
    {d : Declaration} (fixed : ∀ p ∈ d.kept, ∀ q, R p q → q = p) (h : R (d.toJson ns) w) :
  Declaration.ofJson? ns w = some d
  := by
  have name : w.get? "name" = some (.string d.name) := sees.get?_string h rfl
  have own : className? ns w = some d.className := className?_of_sees sees h rfl
  cases d with
  | concept _ isAbstract fields =>
    have abstract_ : w.get? "isAbstract" = some (.bool isAbstract) := sees.get?_bool h rfl
    have properties : parts? (Field.ofJson? ns) "properties" w = some fields := by
      apply parts?_of_sees sees _ h rfl
      intro f mem w same
      apply Field.ofJson?_of_sees sees _ same
      intro p keeps
      exact fixed p (List.mem_flatMap.mpr ⟨f, mem, keeps⟩)
    simp [Declaration.ofJson?, name, own, string?, bool?, abstract_, className, Declaration.name,
      properties]
  | enumeration _ values =>
    have properties : parts? enumValue? "properties" w = some values := by
      apply parts?_of_sees sees _ h rfl
      intro value _ w same
      rw [enumValue?, sees.get?_string same rfl, Option.bind_some, string?]
    simp [Declaration.ofJson?, name, own, string?, className, Declaration.name, properties]
  | scalar _ decorators =>
    have held : parts? Decorator.ofJson? "decorators" w = some decorators :=
      parts?_of_sees sees (decorators_of_sees sees) h rfl
    simp [Declaration.ofJson?, name, own, string?, className, Declaration.name, held]
  | plain =>
    simp [Declaration.ofJson?, name, own, string?, className, Declaration.name]

/-- A model is read back, if what it keeps is left as it is. -/
theorem Model.ofJson?_of_sees
    {m : Model} (fixed : ∀ p ∈ m.kept, ∀ q, R p q → q = p) (h : R (m.toJson ns) w) :
  Model.ofJson? ns w = some m
  := by
  obtain ⟨q, namespaceName, same⟩ : ∃ q, w.get? "namespace" = some q ∧ R m.namespaceName q :=
    sees.exists_get? h rfl
  obtain rfl := fixed m.namespaceName List.mem_cons_self q same
  have decorators : parts? Decorator.ofJson? "decorators" w = some m.decorators :=
    parts?_of_sees sees (decorators_of_sees sees) h rfl
  have imports : parts? string? "imports" w = some m.imports := by
    apply parts?_of_sees sees _ h rfl
    intro name _ w same
    rw [sees.string same, string?]
  have declarations : parts? (Declaration.ofJson? ns) "declarations" w =
      some m.declarations := by
    apply parts?_of_sees sees _ h rfl
    intro d mem w same
    apply Declaration.ofJson?_of_sees sees _ same
    intro p keeps
    exact fixed p (List.mem_cons_of_mem _ (List.mem_flatMap.mpr ⟨d, mem, keeps⟩))
  simp [Model.ofJson?, namespaceName, decorators, imports, declarations]

/-- Several models are read back, with the namespace of their metamodel. -/
theorem Models.ofJson?_of_sees
    {ms : Models} (fixed : ∀ p ∈ ms.kept, ∀ q, R p q → q = p) (h : R ms.toJson w) :
  Models.ofJson? w = some ms
  := by
  have ns : metaNamespace? "Models" w = some ms.metaNamespace := metaNamespace?_of_sees sees h rfl
  have models : parts? (Model.ofJson? ms.metaNamespace) "models" w =
      some ms.models := by
    apply parts?_of_sees sees _ h rfl
    intro m mem w same
    apply Model.ofJson?_of_sees sees _ same
    intro p keeps
    exact fixed p (List.mem_flatMap.mpr ⟨m, mem, keeps⟩)
  simp [Models.ofJson?, ns, models]

end

/-- The description of models determines them and the namespace of the metamodel: they are read
back from it, models of one description are the same, and so are models whose namespaces and
patterns are texts when their descriptions differ in the order of fields only. -/
theorem Models.lossless_toJson
    (ms : Models) :
  Models.ofJson? ms.toJson = some ms ∧
    (∀ ms' : Models, ms'.toJson = ms.toJson → ms' = ms) ∧
    ((∀ p ∈ ms.kept, p.isString = true) →
      ∀ ms' : Models, Rearranged ms.toJson ms'.toJson → ms' = ms)
  := by
  have decoded (ms : Models) : Models.ofJson? ms.toJson = some ms :=
    Models.ofJson?_of_sees sees_eq (fun _ _ _ same => same.symm) rfl
  refine ⟨decoded ms, ?_, ?_⟩
  · intro ms' same
    have := decoded ms'
    rw [same, decoded ms] at this
    exact (Option.some.inj this).symm
  · intro textual ms' same
    have fixed : ∀ p ∈ ms.kept, ∀ q, Rearranged p q → q = p := by
      intro p mem q same
      cases p with
      | string s => exact sees_rearranged.string same
      | _ => exact absurd (textual _ mem) (by simp [isString])
    have := decoded ms'
    rw [Models.ofJson?_of_sees sees_rearranged fixed same] at this
    exact (Option.some.inj this).symm

/-- Models under a metamodel whose namespace ends like the name of a class. -/
def nestedTags : Models :=
  { models :=
      [{ namespaceName := .string "org.acme"
         declarations :=
          [.concept "Person" false
            [{ name := "age", type := .integer, defaultValue := some (.number (.int 1)),
               validator := some (.integerRange none (some (.int 150))) },
              { name := "code", type := .string,
                validator := some (.regex (.string "^[A-Z]") "") }],
            .enumeration "Level" ["low"], .scalar "Extra" [{ name := "StringifiedJson" }]] }]
    metaNamespace := "acme.Models" }

theorem Models.lossless_toJson_nestedTags :
  (∀ p ∈ nestedTags.kept, p.isString = true) ∧ Models.ofJson? nestedTags.toJson = some nestedTags ∧
    ∀ ms' : Models, Rearranged nestedTags.toJson ms'.toJson → ms' = nestedTags
  := by
  have textual : ∀ p ∈ nestedTags.kept, p.isString = true := by decide
  obtain ⟨decoded, -, alike⟩ := Models.lossless_toJson nestedTags
  exact ⟨textual, decoded, alike textual⟩

end ConceptModel
