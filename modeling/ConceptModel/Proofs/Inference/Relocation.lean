import ConceptModel.Proofs.Inference.Alternatives
import ConceptModel.Proofs.Inference.Routes
import Mathlib.Data.List.Forall2

/-!
# Reading at another place

What is read of a schema depends on its place by names only.  The place of a property gives
its name to an enumeration or a concept that the property brings forth, and to its own type;
all else, the warnings and the failures included, comes from its key and its schema, and a
reference leads to the same wherever it stands: `Relocated`.  So an object is read in the same
way as an inline property and as a definition: `agree_of_inline`.
-/

namespace ConceptModel

/-! ### Alike but for names -/

/-- Whether two fields agree, but for the name of a declared type. -/
inductive Field.Alike : Field → Field → Prop where
  | same (f : Field) : Alike f f
  | retyped {f : Field} {name : String} (other : String) (declared : f.type = .declared name) :
      Alike f { f with type := .declared other }

/-- Whether two declarations agree, but for names of declarations. -/
inductive Declaration.Alike : Declaration → Declaration → Prop where
  | same (d : Declaration) : Alike d d
  | enumeration (name other : String) (values : List String) :
      Alike (.enumeration name values) (.enumeration other values)
  | concept (name other : String) {isAbstract : Bool} {fields fields' : List Field}
      (each : List.Forall₂ Field.Alike fields fields') :
      Alike (.concept name isAbstract fields) (.concept other isAbstract fields')

namespace Inference

open Relation Text

/-- Whether two results agree, but for names of declarations. -/
inductive Found.Alike : Found → Found → Prop where
  | same (e : Found) : Alike e e
  | field {f f' : Field} (alike : f.Alike f') : Alike (.field f) (.field f')
  | declaration {d d' : Declaration} (alike : d.Alike d') :
      Alike (.declaration d) (.declaration d')

theorem rel_refl
    {α : Type} {R : α → α → Prop} (refl : ∀ a, R a a) (x : Option α) :
  Option.Rel R x x
  := by
  cases x with
  | none => exact .none
  | some a => exact .some (refl a)

theorem Found.Alike.field?
    {e e' : Found} (h : e.Alike e') :
  Option.Rel Field.Alike e.field? e'.field?
  := by
  cases h with
  | same => exact rel_refl .same _
  | field alike => exact .some alike
  | declaration => exact .none

theorem Found.Alike.spawned?
    {e e' : Found} (h : e.Alike e') :
  Option.Rel Found.Alike e.spawned? e'.spawned?
  := by
  cases h with
  | same => exact rel_refl .same _
  | field => exact .none
  | declaration alike =>
    cases alike with
    | same => exact rel_refl .same _
    | enumeration name other values => exact .some (.declaration (.enumeration name other values))
    | concept name other each => exact .some (.declaration (.concept name other each))

theorem alike_refl
    (found : List Found) :
  List.Forall₂ Found.Alike found found
  := List.forall₂_same.mpr fun e _ => .same e

theorem flatten_followed
    (e : Found) (found : Results) :
  (Nested.many [.one e, found]).flatten = e :: found.flatten
  := by
  simp [Nested.flatten, Nested.flattenAll]

/-- Alike members give alike concepts. -/
theorem alike_conceptResults
    (name other : String) {found found' : List Found}
    (h : List.Forall₂ Found.Alike found found') :
  List.Forall₂ Found.Alike (conceptResults name found).flatten
    (conceptResults other found').flatten
  := by
  rw [flatten_conceptResults, flatten_conceptResults]
  apply List.Forall₂.cons
  · exact .declaration (.concept name other (List.rel_filterMap @Found.Alike.field? h))
  · exact List.rel_filterMap @Found.Alike.spawned? h

/-! ### Relocated properties -/

/-- Whether a property that is read by the rule becomes a field without bringing forth a
declaration: it is a reference, or of a primitive type. -/
def PropertyRule.IsPlaceless : PropertyRule → Prop
  | .reference | .union _ | .freeform | .primitive => True
  | _ => False

/-- The results of a property at the places of two names: they are the same, or those of the
schema as which it is read on, or they are what the place gives its name to. -/
inductive Relocated : String → String → Json → List Found → List Found → Prop where
  | same {place other : String} {v : Json} (found : List Found) :
      Relocated place other v found found
  | onward {place other : String} {v w : Json} {found found' : List Found}
      (step : Onward v w) (rest : Relocated place other w found found') :
      Relocated place other v found found'
  | tuple {place other : String} {v : Json} {items : List Json} {least greatest : Int}
      {found found' : List Found} (rule : (Body.ofJson v).propertyRule = .array)
      (held : (Body.ofJson v).get? "items" = some (.array items))
      (isFrom : integerOf ((Body.ofJson v).getD "minItems") = .ok least)
      (isUpTo : integerOf ((Body.ofJson v).getD "maxItems") = .ok greatest)
      (rest : Relocated place other (tupleObject items least greatest) found found') :
      Relocated place other v found found'
  | choice {place other : String} {v : Json} {elements : List Json} (base : FieldBase)
      (rule : (Body.ofJson v).propertyRule = .enumeration elements) :
      Relocated place other v
        [.field (base.field (.declared (normalizeName place))),
          .declaration (.enumeration (normalizeName place) (enumerationValues elements))]
        [.field (base.field (.declared (normalizeName other))),
          .declaration (.enumeration (normalizeName other) (enumerationValues elements))]
  | inline {place other : String} {v : Json} {members : List (String × Json)}
      {found found' : String × Json → List Found} (base : FieldBase)
      (rule : (Body.ofJson v).propertyRule = .inline)
      (held : (Body.ofJson v).getD "properties" = .object members)
      (each : ∀ e ∈ members, Relocated (pathName [place, "properties", e.1])
        (pathName [other, "properties", e.1]) e.2 (found e) (found' e)) :
      Relocated place other v
        (.field (base.field (.declared (normalizeName place))) ::
          (conceptResults (normalizeName place) (members.flatMap found)).flatten)
        (.field (base.field (.declared (normalizeName other))) ::
          (conceptResults (normalizeName other) (members.flatMap found')).flatten)

section

variable {place other : String} {v w : Json} {found found' : List Found}

/-- What is found in parts that are alike is alike. -/
theorem alike_flatMap
    {α : Type} {l : List α} {each each' : α → List Found}
    (h : ∀ a ∈ l, List.Forall₂ Found.Alike (each a) (each' a)) :
  List.Forall₂ Found.Alike (l.flatMap each) (l.flatMap each')
  := by
  induction l with
  | nil => exact .nil
  | cons a rest ih =>
    obtain ⟨first, others⟩ := List.forall_mem_cons.mp h
    rw [List.flatMap_cons, List.flatMap_cons]
    exact List.rel_append first (ih others)

/-- Results at two places are alike one by one. -/
theorem Relocated.alike
    (h : Relocated place other v found found') :
  List.Forall₂ Found.Alike found found'
  := by
  induction h with
  | same found => exact alike_refl found
  | onward _ _ ih | tuple _ _ _ _ _ ih => exact ih
  | choice base =>
    exact .cons (.field (.retyped _ rfl)) (.cons (.declaration (.enumeration _ _ _)) .nil)
  | inline base _ _ _ ih =>
    exact .cons (.field (.retyped _ rfl)) (alike_conceptResults _ _ (alike_flatMap ih))

/-- A property that is read on as one without a declaration of its own yields the same at
every place. -/
theorem Relocated.eq_of_placeless
    (h : Relocated place other v found found') (onward : ReflTransGen Onward v w)
    (placeless : (Body.ofJson w).propertyRule.IsPlaceless) :
  found = found'
  := by
  have own {v : Json} (onward : ReflTransGen Onward v w)
      (alternation : (Body.ofJson v).propertyRule ≠ .alternation)
      (items : ∀ item, (Body.ofJson v).propertyRule = .array →
        (Body.ofJson v).get? "items" = some item → item.isArray = true) :
      (Body.ofJson v).propertyRule.IsPlaceless := by
    obtain rfl | ⟨u, step, -⟩ := onward.cases_head
    · exact placeless
    · cases step with
      | alternation rule => exact absurd rule alternation
      | items rule held noArray => simp [items _ rule held] at noArray
  induction h with
  | same => rfl
  | onward step _ ih =>
    obtain rfl | ⟨u, step', rest⟩ := onward.cases_head
    · cases step with
      | alternation rule | items rule => simp [rule, PropertyRule.IsPlaceless] at placeless
    · obtain rfl := step.unique step'
      exact ih rest
  | tuple rule held =>
    have items := own onward (by simp [rule]) fun item _ held' => by
      obtain rfl := Option.some.inj (held.symm.trans held')
      rfl
    simp [rule, PropertyRule.IsPlaceless] at items
  | choice _ rule | inline _ rule =>
    have placeless := own onward (by simp [rule]) (by simp [rule])
    simp [rule, PropertyRule.IsPlaceless] at placeless

end

/-! ### References at two places -/

section

variable {depth : Nat} {v : Json} {p q : List String} {c : Context}

/-- Where a reference stands does not matter. -/
theorem readWithin_reference_eq :
  readWithin depth ⟨.reference, v, p⟩ c = readWithin depth ⟨.reference, v, q⟩ c
  := by
  have inside (depth : Nat) : readWithin depth ⟨.localReference, v, p⟩ c =
      readWithin depth ⟨.localReference, v, q⟩ c := by
    cases depth <;> rfl
  cases depth with
  | zero => rfl
  | succ depth => simp only [readWithin, step, readReference, inside]

end

/-! ### Properties at two places -/

theorem get?_of_requireKeyword
    {v w : Json} {keyword : String} (h : (requireKeyword v keyword).outcome = .ok w) :
  (Body.ofJson v).get? keyword = some w
  := Body.get?_ofJson (requireKeyword_outcome_eq_ok.mp h)

/-- A body of type object is read as a concept under the name of its place. -/
theorem readStructural_eq_readConcept
    {read : Reader} {b : Body} {path : List String} {c : Context}
    (rule : b.structuralRule = .concept) (typed : b.hasType "object" = true)
    (somewhere : path ≠ []) :
  readStructural read (.object b) path c = readConcept read b (normalizeName (nameOf path)) path c
  := by
  obtain ⟨strict, held⟩ := mustBeObject_eq_pure somewhere
  simp only [readStructural, Body.ofJson_object, rule, held, typed]
  cases strict <;> rfl

/-- Whether results of a property are those at two places. -/
def RelocatedAt (p q : List String) (v : Json) (found found' : Results) : Prop :=
  Relocated (pathName p) (pathName q) v found.flatten found'.flatten

/-- Whether properties are read to a depth in one way at all places with the same key. -/
def Blind (depth : Nat) : Prop :=
  ∀ v p q c, nameOf p = nameOf q → Report.Agree (RelocatedAt p q v)
    (readWithin depth ⟨.property, v, p⟩ c) (readWithin depth ⟨.property, v, q⟩ c)

/-- Whether two results are those of a concept at two places. -/
def RelocatedConcept (members : List (String × Json)) (p q : List String)
    (found found' : Results) : Prop :=
  ∃ each each' : String × Json → List Found,
    (∀ e ∈ members, Relocated (pathName (p ++ ["properties", e.1]))
      (pathName (q ++ ["properties", e.1])) e.2 (each e) (each' e)) ∧
    found = conceptResults (normalizeName (nameOf p)) (members.flatMap each) ∧
    found' = conceptResults (normalizeName (nameOf q)) (members.flatMap each')

/-- A reading that does not depend on the place agrees with itself. -/
theorem agree_same
    {p q : List String} {v : Json} (r : Report Results) :
  Report.Agree (RelocatedAt p q v) r r
  := Report.agree_refl r fun _ => .same _

/-- A property without a declaration of its own may be read in place of any other. -/
theorem agree_of_placeless
    {p q : List String} {v w : Json} {r s : Report Results}
    (placeless : (Body.ofJson w).propertyRule.IsPlaceless)
    (h : Report.Agree (RelocatedAt p q w) r s) :
  Report.Agree (RelocatedAt p q v) r s
  := by
  apply h.mono
  intro found found' _ _ relocated
  obtain same : found.flatten = found'.flatten := relocated.eq_of_placeless .refl placeless
  rw [RelocatedAt, same]
  exact .same _

/-- Members that are read one by one in related ways are read so in order. -/
theorem agree_readEach
    {read : Reader} {role : Role} {p q : List String} {c : Context}
    {fields : List (String × Json)} {R : String × Json → List Found → List Found → Prop}
    (h : ∀ e ∈ fields, Report.Agree (fun found found' => R e found.flatten found'.flatten)
      (read ⟨role, e.2, p ++ [e.1]⟩ c) (read ⟨role, e.2, q ++ [e.1]⟩ c)) :
  Report.Agree (fun found found' => ∃ each each' : String × Json → List Found,
      (∀ e ∈ fields, R e (each e) (each' e)) ∧ found = fields.flatMap each ∧
        found' = fields.flatMap each')
    (readEach read role p c fields) (readEach read role q c fields)
  := by
  have agree : Report.Agree (fun _ _ => True) (readEach read role p c fields)
      (readEach read role q c fields) := by
    induction fields with
    | nil => exact Report.agree_pure trivial
    | cons e rest ih =>
      obtain ⟨first, others⟩ := List.forall_mem_cons.mp h
      apply first.bind
      intro _ _ _ _ _
      apply (ih others).bind
      intro _ _ _ _ _
      exact Report.agree_pure trivial
  apply agree.mono
  intro found found' hfound hfound' _
  obtain ⟨each, held, rfl⟩ := readEach_outcome_eq_ok.mp hfound
  obtain ⟨each', held', rfl⟩ := readEach_outcome_eq_ok.mp hfound'
  refine ⟨fun e => (each e).flatten, fun e => (each' e).flatten, ?_, rfl, rfl⟩
  intro e mem
  exact (h e mem).related (held e mem) (held' e mem)

section

variable {depth : Nat} {v : Json} {p q : List String} {c : Context}
  (ih : ∀ d < depth, Blind d)
include ih

/-- The elements of a tuple are read alike at two places with one last key. -/
theorem agree_tuple
    {items : List Json} (rule : (Body.ofJson v).propertyRule = .array)
    (held : (Body.ofJson v).get? "items" = some (.array items)) (key : nameOf p = nameOf q) :
  Report.Agree (RelocatedAt p q v) (readWithin depth ⟨.tuple, v, p⟩ c)
    (readWithin depth ⟨.tuple, v, q⟩ c)
  := by
  cases depth with
  | zero => exact .error
  | succ depth =>
    simp only [readWithin, step, readTuple]
    apply Report.agree_bind
    intro list isList
    obtain rfl := Option.some.inj (held.symm.trans (get?_of_requireKeyword isList))
    apply Report.agree_bind
    intro greatest greatestHeld
    apply Report.agree_bind
    intro upTo isUpTo
    apply Report.agree_bind
    intro elements lists
    obtain rfl : items = elements := by simpa [elementsOf] using lists
    apply Report.agree_bind
    intro least leastHeld
    apply Report.agree_bind
    intro from_ isFrom
    rw [Report.ofExcept_outcome] at isUpTo isFrom
    apply (ih depth (by omega) _ p q c key).mono
    intro _ _ _ _ relocated
    apply Relocated.tuple rule held _ _ relocated
    · rw [Body.getD, get?_of_requireKeyword leastHeld]
      exact isFrom
    · rw [Body.getD, get?_of_requireKeyword greatestHeld]
      exact isUpTo

/-- The items of an array are read alike at two places with one last key. -/
theorem agree_array
    (rule : (Body.ofJson v).propertyRule = .array) (key : nameOf p = nameOf q) :
  Report.Agree (RelocatedAt p q v) (readWithin depth ⟨.array, v, p⟩ c)
    (readWithin depth ⟨.array, v, q⟩ c)
  := by
  cases depth with
  | zero => exact .error
  | succ depth =>
    have below : ∀ d < depth, Blind d := fun d lt => ih d (by omega)
    simp only [readWithin, step, readArray]
    apply Report.agree_bind
    intro items held
    have held := get?_of_requireKeyword held
    split
    next elements =>
      rw [key]
      split
      · apply Report.agree_bind
        intro _ _
        exact agree_tuple below rule held key
      · apply Report.agree_bind
        intro _ _
        apply agree_of_placeless _ (ih depth (by omega) _ p q c key)
        trivial
    next noArray =>
      have noArray := Json.isArray_eq_false noArray
      apply (ih depth (by omega) items p q _ key).mono
      intro _ _ _ _ relocated
      exact .onward (.items rule held noArray) relocated

/-- Members are read alike below two places. -/
theorem agree_members
    (members : List (String × Json)) :
  Report.Agree (fun found found' => ∃ each each' : String × Json → List Found,
      (∀ e ∈ members, Relocated (pathName (p ++ [e.1])) (pathName (q ++ [e.1])) e.2 (each e)
        (each' e)) ∧
      found = .ofList (members.flatMap each) ∧ found' = .ofList (members.flatMap each'))
    (readWithin depth ⟨.properties, .object members, p⟩ c)
    (readWithin depth ⟨.properties, .object members, q⟩ c)
  := by
  cases depth with
  | zero => exact .error
  | succ depth =>
    have each : ∀ e ∈ members, Report.Agree (RelocatedAt (p ++ [e.1]) (q ++ [e.1]) e.2)
        (readWithin depth ⟨.property, e.2, p ++ [e.1]⟩ c)
        (readWithin depth ⟨.property, e.2, q ++ [e.1]⟩ c) :=
      fun e _ => ih depth (by omega) e.2 _ _ c (by simp [nameOf])
    simp only [readWithin, step, readMembers]
    apply (agree_readEach (R := fun e =>
      Relocated (pathName (p ++ [e.1])) (pathName (q ++ [e.1])) e.2) each).bind
    rintro _ _ - - ⟨found, found', relocated, rfl, rfl⟩
    exact Report.agree_pure ⟨found, found', relocated, rfl, rfl⟩

/-- An object is read in one way as a definition at two places. -/
theorem agree_definition
    {b : Body} {members : List (String × Json)} (rule : b.propertyRule = .inline)
    (held : b.getD "properties" = .object members) (somewhere : p ≠ []) (elsewhere : q ≠ [])
    (required : Option (List Json)) :
  Report.Agree (RelocatedConcept members p q) (readWithin depth ⟨.definition, .object b, p⟩ c)
    (readWithin depth ⟨.definition, .object b, q⟩ { c with required := required })
  := by
  obtain ⟨noList, structural, -⟩ := Body.inline_of_propertyRule rule
  have typed := Body.hasType_of_inline rule
  have noList : ¬ Lists (.object b) := by simp [lists_iff, noList]
  cases depth with
  | zero => exact .error
  | succ depth =>
    simp only [readWithin, step, readDefinition_eq_structural noList]
    cases depth with
    | zero => exact .error
    | succ depth =>
      simp only [readWithin, step, readStructural_eq_readConcept structural typed somewhere,
        readStructural_eq_readConcept structural typed elsewhere, readConcept, held]
      apply (agree_members (fun d lt => ih d (by omega)) members).bind
      rintro _ _ - - ⟨each, each', relocated, rfl, rfl⟩
      simp only [Nested.flatten_ofList]
      apply Report.agree_pure
      refine ⟨each, each', ?_, rfl, rfl⟩
      simpa only [List.append_assoc, List.cons_append, List.nil_append] using relocated

/-- A property is read alike at two places with one last key. -/
theorem agree_property
    (key : nameOf p = nameOf q) :
  Report.Agree (RelocatedAt p q v) (readWithin depth ⟨.property, v, p⟩ c)
    (readWithin depth ⟨.property, v, q⟩ c)
  := by
  cases depth with
  | zero => exact .error
  | succ depth =>
    have below : ∀ d < depth, Blind d := fun d lt => ih d (by omega)
    simp only [readWithin, step, readProperty, key]
    split
    · exact agree_same _
    · cases rule : (Body.ofJson v).propertyRule with
      | enumeration elements =>
        apply Report.agree_pure
        simp only [RelocatedAt, Nested.flatten_ofList]
        exact .choice _ rule
      | alternation =>
        apply Report.agree_bind
        intro _ _
        apply (ih depth (by omega) _ p q c key).mono
        intro _ _ _ _ relocated
        exact .onward (.alternation rule) relocated
      | reference =>
        simp only [readWithin_reference_eq (p := p) (q := q)]
        exact agree_same _
      | array =>
        simp only [Body.object_ofJson_of_isArray (Body.isArray_of_propertyRule rule)]
        exact agree_array below rule key
      | union types =>
        apply Report.agree_bind
        intro _ _
        have placeless : (Body.ofJson (.object (Json.setField "type" (.string "string")
            (Body.ofJson v)))).propertyRule.IsPlaceless := by
          simp [Body.propertyRule_setType rule, PropertyRule.IsPlaceless]
        exact agree_of_placeless placeless (ih depth (by omega) _ p q _ key)
      | inline =>
        obtain ⟨-, -, isObject⟩ := Body.inline_of_propertyRule rule
        obtain ⟨members, held⟩ := Json.exists_of_isObject isObject
        have definition := agree_definition (c := c.bare) below rule held
          (List.cons_ne_nil (pathName p) []) (List.cons_ne_nil (pathName q) []) c.bare.required
        apply definition.bind
        rintro _ _ - - ⟨each, each', relocated, rfl, rfl⟩
        apply Report.agree_pure
        rw [RelocatedAt, flatten_followed, flatten_followed]
        exact .inline _ rule held relocated
      | freeform | primitive => exact agree_same _

end

/-- Properties are read in one way at all places with the same key. -/
theorem blind
    (depth : Nat) :
  Blind depth
  := by
  induction depth using Nat.strong_induction_on with
  | _ depth ih => exact fun v p q c => agree_property ih

/-! ### Objects at two places -/

/-- Whether what is found of the members of an object at two places agrees: member by member
it is relocated, and the same where a member becomes a field without a declaration of its own;
so the fields are alike one by one, and so are the declarations that are brought forth. -/
structure SameMembers (members : List (String × Json)) (p q : List String)
    (each each' : String × Json → List Found) : Prop where
  relocated : ∀ e ∈ members, Relocated (pathName [pathName p, "properties", e.1])
    (pathName (q ++ ["properties", e.1])) e.2 (each e) (each' e)
  placeless : ∀ e ∈ members, ∀ w, ReflTransGen Onward e.2 w →
    (Body.ofJson w).propertyRule.IsPlaceless → each e = each' e
  fields : List.Forall₂ Field.Alike ((members.flatMap each).filterMap Found.field?)
    ((members.flatMap each').filterMap Found.field?)
  spawned : List.Forall₂ Found.Alike ((members.flatMap each).filterMap Found.spawned?)
    ((members.flatMap each').filterMap Found.spawned?)

/-- Members that are relocated are the same but for names of places. -/
theorem sameMembers_of_relocated
    {members : List (String × Json)} {p q : List String} {each each' : String × Json → List Found}
    (h : ∀ e ∈ members, Relocated (pathName [pathName p, "properties", e.1])
      (pathName (q ++ ["properties", e.1])) e.2 (each e) (each' e)) :
  SameMembers members p q each each'
  where
  relocated := h
  placeless e mem _ onward := (h e mem).eq_of_placeless onward
  fields := List.rel_filterMap @Found.Alike.field? (alike_flatMap fun e mem => (h e mem).alike)
  spawned := List.rel_filterMap @Found.Alike.spawned? (alike_flatMap fun e mem => (h e mem).alike)

/-- An object is read in one way as an inline property and as a definition: with the same
events, and with the same failure or with a concept of the same members. -/
theorem agree_of_inline
    {b : Body} {members : List (String × Json)} (typed : b.hasType "object" = true)
    (held : b.getD "properties" = .object members) (closed : b.isFreeform = false)
    (noList : b.enumeration? = none) (reference : b.isReference = false)
    (alternation : b.isAlternation = false) {p q : List String} (free : nameOf p ∉ reservedNames)
    (elsewhere : q ≠ []) (c : Context) (required : Option (List Json)) (depth : Nat) :
  Report.Agree (fun found found' => ∃ each each', SameMembers members p q each each' ∧
      found.flatten =
        .field ((fieldBase (nameOf p) c).field (.declared (normalizeName (pathName p)))) ::
        .declaration (.concept (normalizeName (pathName p)) false
          ((members.flatMap each).filterMap Found.field?)) ::
        (members.flatMap each).filterMap Found.spawned? ∧
      found'.flatten =
        .declaration (.concept (normalizeName (nameOf q)) false
          ((members.flatMap each').filterMap Found.field?)) ::
        (members.flatMap each').filterMap Found.spawned?)
    (readWithin (depth + 1) ⟨.property, .object b, p⟩ c)
    (readWithin depth ⟨.definition, .object b, q⟩ { c.bare with required := required })
  := by
  have rule := Body.propertyRule_eq_inline typed held closed noList reference alternation
  have definition := agree_definition (c := c.bare) (fun d (_ : d < depth) => blind d) rule held
    (List.cons_ne_nil (pathName p) []) elsewhere required
  simp only [readWithin, step, readProperty, List.contains_iff_mem, free, if_false,
    Body.ofJson_object, rule]
  rw [← Report.bind_pure (readWithin depth ⟨.definition, .object b, q⟩ _)]
  apply definition.bind
  rintro _ _ - - ⟨each, each', relocated, rfl, rfl⟩
  apply Report.agree_pure
  refine ⟨each, each', sameMembers_of_relocated relocated, ?_, ?_⟩
  · rw [flatten_followed, flatten_conceptResults]
    rfl
  · rw [flatten_conceptResults]

/-- The properties of a parcel. -/
def parcelProperties : List (String × Json) :=
  [("address", .object
      [("type", .string "object"),
        ("properties", .object
          [("zip", .object [("type", .string "string"), ("format", .string "postal")]),
            ("country", .object [("$ref", .string "#/definitions/Country")])])]),
    ("status", .object [("enum", .array [.string "sent", .string "lost"])]),
    ("weights", .object
      [("type", .string "array"), ("items", .object [("type", .string "number")])])]

/-- A parcel. -/
def parcel : Body :=
  [("type", .string "object"), ("properties", .object parcelProperties),
    ("required", .array [.string "address"])]

/-- A document that defines countries. -/
def atlas : Context :=
  { container := ["definitions"]
    document := .object
      [("definitions", .object
        [("Country", .object
          [("type", .string "object"),
            ("properties", .object [("name", .object [("type", .string "string")])])])])] }

theorem agree_of_inline_parcel :
  ∃ found found' each each',
    (readWithin 18 ⟨.property, .object parcel, ["Root", "properties", "parcel"]⟩ atlas).outcome =
        .ok found ∧
      (readWithin 17 ⟨.definition, .object parcel, ["definitions", "Parcel"]⟩ atlas).outcome =
        .ok found' ∧
      found'.flatten =
        .declaration (.concept "Parcel" false
          ((parcelProperties.flatMap each').filterMap Found.field?)) ::
        (parcelProperties.flatMap each').filterMap Found.spawned? ∧
      SameMembers parcelProperties ["Root", "properties", "parcel"] ["definitions", "Parcel"]
        each each'
  := by
  have agree := agree_of_inline (b := parcel) (p := ["Root", "properties", "parcel"])
    (q := ["definitions", "Parcel"]) (by decide +kernel) rfl (by decide +kernel)
    (by decide +kernel) (by decide +kernel) (by decide +kernel) (by decide) (by simp) atlas none 17
  obtain ⟨found, hfound⟩ : ∃ found, (readWithin 18
      ⟨.property, .object parcel, ["Root", "properties", "parcel"]⟩ atlas).outcome = .ok found :=
    Report.exists_outcome_eq_ok (by decide +kernel)
  obtain ⟨found', hfound'⟩ : ∃ found', (readWithin 17
      ⟨.definition, .object parcel, ["definitions", "Parcel"]⟩ atlas).outcome = .ok found' :=
    Report.exists_outcome_eq_ok (by decide +kernel)
  obtain ⟨each, each', same, -, flat⟩ := agree.related hfound hfound'
  have name : normalizeName (nameOf ["definitions", "Parcel"]) = "Parcel" := by decide +kernel
  rw [name] at flat
  exact ⟨found, found', each, each', hfound, hfound', flat, same⟩

end Inference

end ConceptModel
