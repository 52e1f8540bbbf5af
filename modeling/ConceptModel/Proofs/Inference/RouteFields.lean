import ConceptModel.Proofs.Inference.Entry
import ConceptModel.Proofs.Inference.Routes

/-!
# Fields along routes

A property is read on along its route until a field is built of its own schema, or none is.
`RouteFields` says by rules which fields come of it, and how their names, arities and needs are
those of the place at which the route ends and of what is pending there: `routeFields_of_reads`.
That a route ends where a reference yields a name takes that the reference is not being followed
already when its chain ends at an array or is dropped, as is the case while only concepts are
being read.
-/

namespace ConceptModel.Inference

open Relation Text

/-! ### Fields of a property -/

/-- Whether a fragment of the role is read as a property, whose field is built under a name
that may be pending. -/
def Role.isOfProperty : Role → Bool
  | .property | .array | .tuple => true
  | _ => false

/-- Only properties yield fields. -/
theorem field?_of_reads
    {f : Fragment} {c : Context} {found : Results} (h : Reads f c found)
    (role : f.role.isOfProperty = false) (notAll : f.role ≠ .properties) :
  ∀ e ∈ found.flatten, e.field? = none
  := by
  induction h with
  | definitions _ ih =>
    intro e mem
    obtain ⟨entry, held, mem⟩ := by
      simpa only [Nested.flatten_ofList, List.mem_flatMap] using mem
    exact ih entry held rfl Role.noConfusion e mem
  | concept =>
    intro e mem
    obtain rfl | ⟨-, d, -, rfl⟩ := mem_conceptResults.mp mem <;> rfl
  | enumerated _ _ ih | structured _ _ ih | firstAlternative _ _ ih | aliased _ _ ih
  | inside _ _ ih | followed _ _ _ _ ih => exact ih rfl Role.noConfusion
  | document | rootOnly | enumeration | scalar | deferred | traversed | named =>
    intro e mem
    obtain rfl := by simpa [Nested.flatten] using mem
    rfl
  | unset | remote => simp [Nested.flatten]
  | properties => exact absurd rfl notAll
  | _ => simp [Role.isOfProperty] at role

/-- A definition yields no field of its own. -/
theorem filterMap_field?_of_reads
    {v : Json} {path : List String} {c : Context} {found : Results}
    (h : Reads ⟨.definition, v, path⟩ c found) :
  found.flatten.filterMap Found.field? = []
  := List.filterMap_eq_nil_iff.mpr (field?_of_reads h rfl Role.noConfusion)

/-- Whether a field has the name, the arity and the need that a base says. -/
structure FieldBase.IsBaseOf (base : FieldBase) (f : Field) : Prop where
  name : f.name = base.name
  isArray : f.isArray = base.isArray
  isOptional : f.isOptional = base.isOptional

/-- A field is optional unless its name is listed. -/
theorem isOptional_fieldBase_iff
    {name : String} {c : Context} :
  (fieldBase name c).isOptional = true ↔ ∀ names, c.required = some names → .string name ∉ names
  := by
  cases listed : c.required <;> simp [fieldBase, listed]

/-- A property from which a field is built without reading any other property has what its
place says, and what is pending. -/
theorem field_of_reads_own
    {v : Json} {path : List String} {c : Context} {found : Results}
    (free : nameOf path ∉ reservedNames) (alternation : (Body.ofJson v).propertyRule ≠ .alternation)
    (reference : (Body.ofJson v).propertyRule ≠ .reference)
    (array : (Body.ofJson v).propertyRule ≠ .array)
    (union : ∀ types, (Body.ofJson v).propertyRule ≠ .union types)
    (h : Reads ⟨.property, v, path⟩ c found) :
  ∃ f, found.flatten.filterMap Found.field? = [f] ∧ (fieldBase (nameOf path) c).IsBaseOf f
  := by
  cases h with
  | reserved name => exact absurd name free
  | choice =>
    use (fieldBase (nameOf path) c).field (.declared (normalizeName (pathName path)))
    exact ⟨by simp [Found.field?], rfl, rfl, rfl⟩
  | freeform => exact ⟨_, rfl, rfl, rfl, rfl⟩
  | inline _ _ next =>
    use (fieldBase (nameOf path) c).field (.declared (normalizeName (pathName path)))
    have none := filterMap_field?_of_reads next
    exact ⟨by simp [Nested.flatten, Nested.flattenAll, Found.field?, none], rfl, rfl, rfl⟩
  | primitive _ _ built =>
    obtain ⟨type, -, rfl⟩ := primitiveField_outcome_eq_ok.mp built
    exact ⟨_, rfl, rfl, rfl, rfl⟩
  | alternation _ other => exact absurd other alternation
  | dropped _ other | deferral _ other | referral _ other => exact absurd other reference
  | array _ other => exact absurd other array
  | union _ other => exact absurd other (union _)

/-! ### References of a property -/

/-- Whether the chain of a reference ends at a concept. -/
def Conceptual (document : Json) (container : List String) (r : String) : Prop :=
  ∃ key u, EndsAt document container r key u ∧ Declares u ∧
    (Body.ofJson u).structuralRule = .concept

section

variable {v : Json} {path : List String} {c : Context}
  (away : ∀ t ∈ c.traversed, Conceptual c.document c.container t)
include away

/-- While concepts are being read, a reference that ends at anything else is followed to its
end. -/
theorem consulted_endsAt
    {r key : String} {u : Json} {found : Results} (isLocal : Reference.isLocal (.string r))
    (ends : EndsAt c.document c.container r key u)
    (other : ¬ Declares u ∨ (Body.ofJson u).structuralRule ≠ .concept)
    (h : Reads ⟨.reference, .string r, path⟩ c.bare found) :
  Bears u (placeOf c.container ++ [key]) found
  := by
  have apart : ∀ t ∈ c.traversed, ¬ ReflTransGen (Onto c.document c.container) r t := by
    intro t mem chain
    obtain ⟨key', u', ends', declares, rule⟩ := away t mem
    obtain ⟨-, rfl⟩ := (ends.along chain).unique ends'
    obtain silent | noConcept := other
    · exact silent declares
    · exact noConcept rule
  obtain ⟨past, reads⟩ := (consulted_of_reads isLocal h).endsAt ends apart
  obtain ⟨_, _, _, _, _, rests⟩ := ends
  exact bears_of_reads rests reads

/-- A reference that yields a name passes no array and is not dropped. -/
theorem final_of_referral
    {found : Results} {target : String} (rule : (Body.ofJson v).propertyRule = .reference)
    (consulted : Reads ⟨.reference, (Body.ofJson v).getD "$ref", path⟩ c.bare found)
    (names : referencedName found = some target) :
  Final c.document c.container v ∧ ¬ Drops c.document c.container v
  := by
  constructor
  · constructor
    · intro w step
      cases step with
      | alternation other | items other => simp [rule] at other
    · rintro key w ⟨r, u, -, held, isLocal, ends, noList, isArray, -⟩
      rw [held] at consulted
      cases consulted_endsAt away isLocal ends (.inr (by simp [isArray])) consulted with
      | declared declares => simp [Declares, noList, isArray] at declares
      | deferred _ _ yields | nothing _ _ yields =>
        subst yields
        simp [referencedName] at names
  · rintro ⟨-, dropped⟩
    have silent : found = .nothing := by
      by_cases isLocal : Reference.isLocal ((Body.ofJson v).getD "$ref")
      · obtain remote | ⟨r, key, u, held, ends, silent, noArray⟩ := dropped
        · simp [isLocal] at remote
        · rw [held] at consulted isLocal
          cases consulted_endsAt away isLocal ends (.inl silent) consulted with
          | declared declares => exact absurd declares silent
          | deferred _ isArray => exact absurd isArray noArray
          | nothing _ _ yields => exact yields
      · exact nothing_of_reads_remote (by simpa using isLocal) consulted
    subst silent
    simp [referencedName] at names

omit away in
/-- A reference that yields nothing is dropped. -/
theorem drops_of_reads
    (rule : (Body.ofJson v).propertyRule = .reference)
    (consulted : Reads ⟨.reference, (Body.ofJson v).getD "$ref", path⟩ c.bare .nothing) :
  Drops c.document c.container v
  := by
  use rule
  by_cases isLocal : Reference.isLocal ((Body.ofJson v).getD "$ref")
  · obtain ⟨r, held⟩ := eq_string_of_isLocal isLocal
    rw [held] at consulted isLocal
    cases consulted_of_reads isLocal consulted with
    | stopped _ _ _ yields => simp at yields
    | @ended last key past whole u chain _ _ leads taken rests reads =>
      have ends : EndsAt c.document c.container r key u :=
        ⟨last, whole, chain, leads, taken, rests⟩
      cases bears_of_reads rests reads with
      | declared _ flat => simp [Nested.flatten] at flat
      | deferred _ _ yields => simp at yields
      | nothing silent noArray => exact .inr ⟨r, key, u, held, ends, silent, noArray⟩
  · exact .inl (by simpa using isLocal)

end

/-! ### Rules -/

/-- By rules: the fields that come of a property of a name, in a context and with what is
pending, when its route is followed.  An array definition that is passed keeps nothing that is
pending but the name of the place that refers to it. -/
inductive RouteFields (c : Context) : Json → String → Overrides → List Field → Prop where
  | reserved {v : Json} {name : String} {o : Overrides} (bars : name ∈ reservedNames) :
      RouteFields c v name o []
  | dropped {v : Json} {name : String} {o : Overrides}
      (drops : Drops c.document c.container v) :
      RouteFields c v name o []
  | own {v : Json} {name : String} {o : Overrides} {f : Field} (free : name ∉ reservedNames)
      (final : (∀ t ∈ c.traversed, Conceptual c.document c.container t) →
        Final c.document c.container v ∧ ¬ Drops c.document c.container v)
      (based : (fieldBase name { c with overrides := o }).IsBaseOf f) :
      RouteFields c v name o [f]
  | alternation {v : Json} {name : String} {o : Overrides} {fields : List Field}
      (rule : (Body.ofJson v).propertyRule = .alternation)
      (next : RouteFields c (.object (Body.ofJson v).flattened) name o fields) :
      RouteFields c v name o fields
  | items {v item : Json} {name : String} {o : Overrides} {fields : List Field}
      (rule : (Body.ofJson v).propertyRule = .array)
      (held : (Body.ofJson v).get? "items" = some item) (noArray : item.isArray = false)
      (next : RouteFields c item name { o with isArray := some true } fields) :
      RouteFields c v name o fields
  | through {v w : Json} {name key : String} {o : Overrides} {fields : List Field}
      (free : name ∉ reservedNames) (passes : Passes c.document c.container v key w)
      (next : RouteFields c w key { name := some name } fields) :
      RouteFields c v name o fields

/-- The fields of a property that is read as another one, which has a field of its own. -/
theorem routeFields_of_reads_own
    {v w : Json} {path : List String} {c : Context} {found : Results}
    (final : Final c.document c.container w ∧ ¬ Drops c.document c.container w)
    (free : nameOf path ∉ reservedNames) (alternation : (Body.ofJson v).propertyRule ≠ .alternation)
    (reference : (Body.ofJson v).propertyRule ≠ .reference)
    (array : (Body.ofJson v).propertyRule ≠ .array)
    (union : ∀ types, (Body.ofJson v).propertyRule ≠ .union types)
    (reads : Reads ⟨.property, v, path⟩ c found) :
  RouteFields c.bare w (nameOf path) c.overrides (found.flatten.filterMap Found.field?)
  := by
  obtain ⟨f, only, based⟩ := field_of_reads_own free alternation reference array union reads
  rw [only]
  exact .own free (fun _ => final) based

/-- Whether the fields among the results of a property are those of its route. -/
def HasRouteFields (f : Fragment) (c : Context) (found : Results) : Prop :=
  match f.role with
  | .property =>
    RouteFields c.bare f.body (nameOf f.path) c.overrides (found.flatten.filterMap Found.field?)
  | .array => (Body.ofJson f.body).propertyRule = .array → nameOf f.path ∉ reservedNames →
    RouteFields c.bare f.body (nameOf f.path) c.overrides (found.flatten.filterMap Found.field?)
  | _ => True

/-- The fields that a property yields are those of its route. -/
theorem routeFields_of_reads
    {f : Fragment} {c : Context} {found : Results} (h : Reads f c found) :
  HasRouteFields f c found
  := by
  have own {v : Json} {path : List String} {c : Context} {found : Results}
      (free : nameOf path ∉ reservedNames) (reads : Reads ⟨.property, v, path⟩ c found)
      (alternation : (Body.ofJson v).propertyRule ≠ .alternation)
      (reference : (Body.ofJson v).propertyRule ≠ .reference)
      (array : (Body.ofJson v).propertyRule ≠ .array)
      (union : ∀ types, (Body.ofJson v).propertyRule ≠ .union types) :
      HasRouteFields ⟨.property, v, path⟩ c found :=
    routeFields_of_reads_own (final_of_rule alternation reference array) free alternation reference
      array union reads
  induction h with
  | reserved name => exact .reserved name
  | choice name rule => apply own name (.choice name rule) <;> simp [rule]
  | freeform name rule => apply own name (.freeform name rule) <;> simp [rule]
  | inline name rule next => apply own name (.inline name rule next) <;> simp [rule]
  | primitive name rule built => apply own name (.primitive name rule built) <;> simp [rule]
  | alternation name rule _ ih => exact .alternation rule ih
  | dropped name rule consulted => exact .dropped (drops_of_reads rule consulted)
  | @deferral v path place c b r name rule consulted _ _ ih =>
    obtain ⟨r, key, u, held, isLocal, ends, noList, isArray, rfl, rfl⟩ :=
      endsAt_of_reads_deferred consulted
    have passes : Passes c.bare.document c.bare.container v key (.object (Body.ofJson u)) :=
      ⟨r, u, rule, held, isLocal, ends, noList, isArray, rfl⟩
    have last : nameOf (placeOf c.bare.container ++ [key]) = key := by simp [nameOf]
    simp only [HasRouteFields, last] at ih
    exact .through name passes ih
  | referral name rule consulted names =>
    exact .own name (fun away => final_of_referral away rule consulted names) ⟨rfl, rfl, rfl⟩
  | @union v path c types _ name rule next =>
    have final : Final c.document c.container v ∧ ¬ Drops c.document c.container v :=
      final_of_rule (by simp [rule]) (by simp [rule]) (by simp [rule])
    have primitive := Body.propertyRule_setType rule
    obtain ⟨f, only, based⟩ := field_of_reads_own name (by simp [primitive]) (by simp [primitive])
      (by simp [primitive]) (by simp [primitive]) next
    -- The pending decorator is no part of the base.
    have own : RouteFields c.bare v (nameOf path) c.overrides [f] :=
      .own name (fun _ => final) ⟨based.name, based.isArray, based.isOptional⟩
    simpa [HasRouteFields, only] using own
  | @array v path c r name rule _ ih =>
    rw [Body.object_ofJson_of_isArray (Body.isArray_of_propertyRule rule)] at ih
    exact ih rule name
  | items held noArray _ ih =>
    intro rule name
    exact .items rule (Body.get?_ofJson held) noArray ih
  | tupleAsText held _ next =>
    intro rule name
    have freeform : Body.propertyRule [("type", .string "object")] = .freeform := rfl
    apply routeFields_of_reads_own (final_of_tuple rule (Body.get?_ofJson held)) name _ _ _ _ next
      <;> simp [freeform]
  | tupleAsConcept held _ next =>
    intro rule name
    cases next with
    | @tuple _ _ least greatest _ _ elements from_ upTo _ _ _ _ _ _ _ next =>
      have inline : (Body.ofJson (tupleObject elements from_ upTo)).propertyRule = .inline := rfl
      apply routeFields_of_reads_own (final_of_tuple rule (Body.get?_ofJson held)) name _ _ _ _ next
        <;> simp [inline]
  | _ => trivial

end ConceptModel.Inference
