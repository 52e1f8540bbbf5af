import ConceptModel.Proofs.Inference.Rules
import ConceptModel.Proofs.Inference.Visits

/-!
# Where fields and declarations come from

A property either hands on to what it is read as, or `Builds` a field of its own; and a visit
`Announces` a declaration when it makes it of its own schema, under its own path.  Every
field among the results of a reading, by itself or in a concept, is built by a visit that
the reading hands on to, and every declaration is announced by one: `built_of_reads` and
`announced_of_reads`.  In return, the fields, concepts and enumerations that such a visit finds
are among the results: `reads_of_reached`.
-/

namespace ConceptModel

/-- Whether a declaration is a concept or an enumeration, which a property may bring
forth. -/
def Declaration.IsSpawned : Declaration → Prop
  | .concept .. | .enumeration .. => True
  | _ => False

/-- The fields of a declaration. -/
def Declaration.fields : Declaration → List Field
  | .concept _ _ fields => fields
  | _ => []

/-- Only concepts have fields. -/
theorem Declaration.isSpawned_of_mem_fields
    {d : Declaration} {f : Field} (h : f ∈ d.fields) :
  d.IsSpawned
  := by
  cases d with
  | concept => trivial
  | _ => simp [fields] at h

namespace Inference

open Relation Text

/-! ### Results -/

/-- The fields that a result holds: itself, or those of a declaration. -/
def Found.fields : Found → List Field
  | .field f => [f]
  | .declaration d => d.fields
  | _ => []

theorem field?_eq_some
    {e : Found} {f : Field} :
  e.field? = some f ↔ e = .field f
  := by
  cases e <;> simp [Found.field?]

theorem mem_filterMap_field?
    {found : List Found} {f : Field} :
  f ∈ found.filterMap Found.field? ↔ .field f ∈ found
  := by
  simp [List.mem_filterMap, field?_eq_some]

/-- A concept stands before what its members spawn. -/
theorem flatten_conceptResults
    (name : String) (found : List Found) :
  (conceptResults name found).flatten =
    .declaration (.concept name false (found.filterMap Found.field?)) ::
      found.filterMap Found.spawned?
  := by
  unfold conceptResults
  dsimp only
  split
  next none => simp [Nested.flatten, List.isEmpty_iff.mp none]
  next => rw [Nested.flatten_ofList]

/-- A concept is followed by the concepts and enumerations that its properties have
brought forth. -/
theorem mem_conceptResults
    {name : String} {found : List Found} {e : Found} :
  e ∈ (conceptResults name found).flatten ↔
    e = .declaration (.concept name false (found.filterMap Found.field?)) ∨
      e ∈ found ∧ ∃ d : Declaration, d.IsSpawned ∧ e = .declaration d
  := by
  have spawned : e ∈ found.filterMap Found.spawned? ↔
      e ∈ found ∧ ∃ d : Declaration, d.IsSpawned ∧ e = .declaration d := by
    rw [List.mem_filterMap]
    constructor
    · rintro ⟨e', mem, same⟩
      unfold Found.spawned? at same
      split at same
      next name isAbstract fields =>
        obtain rfl := by simpa using same
        exact ⟨mem, .concept name isAbstract fields, trivial, rfl⟩
      next name values =>
        obtain rfl := by simpa using same
        exact ⟨mem, .enumeration name values, trivial, rfl⟩
      next => simp at same
    · rintro ⟨mem, d, isSpawned, rfl⟩
      use .declaration d, mem
      cases d <;> simp [Declaration.IsSpawned, Found.spawned?] at isSpawned ⊢
  rw [flatten_conceptResults, List.mem_cons, spawned]

/-- A concept comes of the results of its properties, each read by itself. -/
theorem each_of_concept
    {v : Json} {path : List String} {c : Context} {found : Results}
    {members : List (String × Json)} (rule : (Body.ofJson v).structuralRule = .concept)
    (held : (Body.ofJson v).getD "properties" = .object members)
    (reads : Reads ⟨.structural, v, path⟩ c found) :
  ∃ each : String × Json → Results,
    (∀ e ∈ members, Reads ⟨.property, e.2, path ++ ["properties"] ++ [e.1]⟩
      { c with required := (Body.ofJson v).required? } (each e)) ∧
    found = conceptResults (normalizeName (nameOf path))
      (members.flatMap fun e => (each e).flatten)
  := by
  cases reads with
  | concept _ fits isSet next =>
    rw [held] at next
    cases next with
    | properties reads => exact ⟨_, reads, by rw [Nested.flatten_ofList]⟩
  | unset _ _ unset => simp [held] at unset
  | _ => simp_all

/-- A property that is an object with properties of its own comes to a field, and to a concept
under the name of its place. -/
theorem each_of_inline
    {v : Json} {path : List String} {c : Context} {found : Results}
    {members : List (String × Json)} (free : nameOf path ∉ reservedNames)
    (rule : (Body.ofJson v).propertyRule = .inline)
    (held : (Body.ofJson v).getD "properties" = .object members)
    (reads : Reads ⟨.property, v, path⟩ c found) :
  ∃ each : String × Json → Results,
    (∀ e ∈ members, Reads ⟨.property, e.2, [pathName path] ++ ["properties"] ++ [e.1]⟩
      { c.bare with required := (Body.ofJson v).required? } (each e)) ∧
    found.flatten =
      .field ((fieldBase (nameOf path) c).field (.declared (normalizeName (pathName path)))) ::
        (conceptResults (normalizeName (pathName path))
          (members.flatMap fun e => (each e).flatten)).flatten
  := by
  obtain ⟨noList, structural, -⟩ := Body.inline_of_propertyRule rule
  cases reads with
  | inline _ _ next =>
    cases next with
    | enumerated lists =>
      simp [Body.enumeration?, Body.getD, show Body.get? (Body.ofJson v) "enum" = _ from lists]
        at noList
    | structured _ next =>
      obtain ⟨each, read, rfl⟩ := each_of_concept (v := .object (Body.ofJson v)) structural held next
      refine ⟨each, read, ?_⟩
      simp [Nested.flatten, Nested.flattenAll, nameOf]
  | reserved name => exact absurd name free
  | _ => simp_all

/-- The fields that results hold, by themselves and in concepts. -/
def heldFields (found : Results) : List Field := found.flatten.flatMap Found.fields

/-- The fields that properties have come to are those of their concept, or of the concepts that
they have brought forth. -/
theorem heldFields_subset_conceptResults
    (name : String) (found : Results) :
  heldFields found ⊆ heldFields (conceptResults name found.flatten)
  := by
  intro f held
  simp only [heldFields, List.mem_flatMap] at held ⊢
  obtain ⟨e, mem, held⟩ := held
  cases e with
  | field g =>
    obtain rfl : f = g := by simpa [Found.fields] using held
    exact ⟨_, mem_conceptResults.mpr (.inl rfl), mem_filterMap_field?.mpr mem⟩
  | declaration d =>
    have spawned := Declaration.isSpawned_of_mem_fields held
    exact ⟨_, mem_conceptResults.mpr (.inr ⟨mem, d, spawned, rfl⟩), held⟩
  | _ => simp [Found.fields] at held

/-! ### What is handed on -/

/-- Whether what has been found by what is handed on to is among the results of a reading:
concepts and enumerations as they are, and fields at least in concepts. -/
structure Among (handed found : Results) : Prop where
  spawned : ∀ d : Declaration, d.IsSpawned →
    .declaration d ∈ handed.flatten → .declaration d ∈ found.flatten
  fields : heldFields handed ⊆ heldFields found

theorem Among.refl (found : Results) :
  Among found found
  := ⟨fun _ _ mem => mem, List.Subset.refl _⟩

theorem Among.trans
    {handed middle found : Results} (first : Among handed middle) (second : Among middle found) :
  Among handed found
  := by
  constructor
  · intro d isSpawned mem
    exact second.spawned d isSpawned (first.spawned d isSpawned mem)
  · exact List.Subset.trans first.fields second.fields

/-- What is found for an entry is among what is found for all of them. -/
theorem among_ofList
    {entries : List (String × Json)} {results : String × Json → Results} {e : String × Json}
    (mem : e ∈ entries) :
  Among (results e) (.ofList (entries.flatMap fun e => (results e).flatten))
  := by
  constructor
  · intro d _ held
    simp only [Nested.flatten_ofList, List.mem_flatMap]
    exact ⟨e, mem, held⟩
  · intro f held
    simp only [heldFields, Nested.flatten_ofList, List.mem_flatMap] at held ⊢
    obtain ⟨found, among, held⟩ := held
    exact ⟨found, ⟨e, mem, among⟩, held⟩

/-- A reading that succeeds has succeeded in all that it hands on to, and what has been found
there is among its results. -/
theorem reads_of_handsOn
    {x y : Visit} {found : Results} (inside : x.1.role ≠ .document) (reads : Reads x.1 x.2 found)
    (h : HandsOn x y) :
  ∃ handed, Reads y.1 y.2 handed ∧ Among handed found
  := by
  have same {f : Fragment} {c : Context} {found : Results} (reads : Reads f c found) :
      ∃ handed, Reads f c handed ∧ Among handed found := ⟨found, reads, .refl found⟩
  cases h with
  | root | container => exact absurd rfl inside
  | @named _ _ _ key v held =>
    cases reads with
    | @definitions _ _ _ results each =>
      exact ⟨results (key, v), each _ held, among_ofList held⟩
  | @member _ _ _ key v held =>
    cases reads with
    | @properties _ _ _ results each =>
      exact ⟨results (key, v), each _ held, among_ofList held⟩
  | enumerated rule =>
    cases reads with
    | enumerated _ next => exact same next
    | structured noList => exact absurd rule (noList _)
  | structured noList =>
    cases reads with
    | enumerated rule => exact absurd rule (noList _)
    | structured _ next => exact same next
  | firstAlternative rule =>
    cases reads with
    | firstAlternative _ next => exact same next
    | _ => simp_all
  | aliased rule =>
    cases reads with
    | aliased _ next => exact same next
    | _ => simp_all
  | concept rule fits isSet =>
    cases reads with
    | @concept _ _ _ children _ _ _ next =>
      use children, next
      constructor
      · intro d spawned mem
        exact mem_conceptResults.mpr (.inr ⟨mem, d, spawned, rfl⟩)
      · exact heldFields_subset_conceptResults _ children
    | _ => simp_all
  | alternation name rule =>
    cases reads with
    | alternation _ _ next => exact same next
    | _ => simp_all
  | deferral name rule consulted =>
    cases reads with
    | deferral _ _ consulted' next =>
      obtain ⟨rfl, rfl⟩ := by simpa using consulted.unique consulted'
      exact same next
    | dropped _ _ consulted' => simpa using consulted.unique consulted'
    | referral _ _ consulted' names =>
      obtain rfl := consulted.unique consulted'
      simp [referencedName] at names
    | _ => simp_all
  | array name rule =>
    cases reads with
    | array _ _ next => exact same next
    | _ => simp_all
  | union name rule =>
    cases reads with
    | union _ rule' next =>
      obtain rfl := by simpa using rule.symm.trans rule'
      exact same next
    | _ => simp_all
  | inline name rule =>
    cases reads with
    | @inline _ _ _ derived _ _ next =>
      use derived, next
      constructor
      · intro d _ mem
        simp [Nested.flatten, Nested.flattenAll, mem]
      · simp [heldFields, Nested.flatten, Nested.flattenAll]
    | _ => simp_all
  | tupleAsConcept held rule =>
    cases reads with
    | tupleAsConcept _ _ next => exact same next
    | tupleAsText _ other => simp [rule] at other
    | items held' noArray =>
      obtain rfl := by simpa using held.symm.trans held'
      simp [Json.isArray] at noArray
  | tupleAsText held rule =>
    cases reads with
    | tupleAsText _ _ next => exact same next
    | tupleAsConcept _ other => simp [rule] at other
    | items held' noArray =>
      obtain rfl := by simpa using held.symm.trans held'
      simp [Json.isArray] at noArray
  | items held noArray =>
    cases reads with
    | items held' _ next =>
      obtain rfl := by simpa using held.symm.trans held'
      exact same next
    | tupleAsConcept held' | tupleAsText held' =>
      obtain rfl := by simpa using held.symm.trans held'
      simp [Json.isArray] at noArray
  | tuple held greatestHeld isUpTo lists leastHeld isFrom =>
    cases reads with
    | tuple held' greatestHeld' isUpTo' lists' leastHeld' isFrom' next =>
      obtain rfl := by simpa using held.symm.trans held'
      obtain rfl := by simpa using greatestHeld.symm.trans greatestHeld'
      obtain rfl := by simpa using leastHeld.symm.trans leastHeld'
      obtain rfl := by simpa using isUpTo.symm.trans isUpTo'
      obtain rfl := by simpa using lists.symm.trans lists'
      obtain rfl := by simpa using isFrom.symm.trans isFrom'
      exact same next
  | inside rule =>
    cases reads with
    | remote other => simp [rule] at other
    | inside _ next => exact same next
  | followed resolves fresh leads =>
    cases reads with
    | traversed _ old => exact absurd old fresh
    | named resolves' _ nowhere =>
      obtain rfl := by simpa using resolves.symm.trans resolves'
      exact absurd leads (nowhere _)
    | followed resolves' _ leads' next =>
      obtain rfl := by simpa using resolves.symm.trans resolves'
      obtain rfl := by simpa using leads.symm.trans leads'
      exact same next

/-- A reading that succeeds has succeeded in every visit on its way, and what has been found
there is among its results. -/
theorem reads_of_reached
    {x y : Visit} {found : Results} (inside : x.1.role ≠ .document) (reads : Reads x.1 x.2 found)
    (h : ReflTransGen HandsOn x y) :
  ∃ handed, Reads y.1 y.2 handed ∧ Among handed found
  := by
  induction h with
  | refl => exact ⟨found, reads, .refl found⟩
  | @tail y z reached step ih =>
    obtain ⟨middle, reads, fromMiddle⟩ := ih
    have asked : ReflTransGen Asks x y := reached.lift id fun _ _ => Asks.handsOn
    have inside := (stays_of_reached inside asked).2.2
    obtain ⟨handed, reads, fromHanded⟩ := reads_of_handsOn inside reads step
    exact ⟨handed, reads, fromHanded.trans fromMiddle⟩

/-- A reading that succeeds has succeeded in all that it asks for. -/
theorem exists_reads_of_asks
    {x y : Visit} {found : Results} (reads : Reads x.1 x.2 found) (h : Asks x y) :
  ∃ asked, Reads y.1 y.2 asked
  := by
  cases h with
  | handsOn h =>
    by_cases inside : x.1.role = .document
    · cases h with
      | root named =>
        cases reads with
        | document named' _ first | rootOnly named' _ first =>
          obtain rfl := by simpa using named.symm.trans named'
          exact ⟨_, first⟩
      | container held =>
        cases reads with
        | document _ held' _ second =>
          obtain rfl := by simpa using held.symm.trans held'
          exact ⟨_, second⟩
        | rootOnly _ unknown => simp [held] at unknown
      | _ => simp at inside
    · obtain ⟨handed, reads, -⟩ := reads_of_handsOn inside reads h
      exact ⟨handed, reads⟩
  | consults name rule =>
    cases reads with
    | dropped _ _ consulted | deferral _ _ consulted | referral _ _ consulted =>
      exact ⟨_, consulted⟩
    | _ => simp_all

/-- What a visit with a result reaches has a result. -/
theorem exists_reads_of_reached
    {x y : Visit} {found : Results} (reads : Reads x.1 x.2 found) (h : ReflTransGen Asks x y) :
  ∃ asked, Reads y.1 y.2 asked
  := by
  induction h using ReflTransGen.head_induction_on generalizing found with
  | refl => exact ⟨found, reads⟩
  | head step _ ih =>
    obtain ⟨asked, reads⟩ := exists_reads_of_asks reads step
    exact ih reads

/-! ### What is built -/

/-- The property builds the field, and hands it on to nothing else. -/
inductive Builds : Visit → Field → Prop where
  | listed {v : Json} {path : List String} {c : Context} {elements : List Json}
      (name : nameOf path ∉ reservedNames)
      (rule : (Body.ofJson v).propertyRule = .enumeration elements) :
      Builds (⟨.property, v, path⟩, c)
        ((fieldBase (nameOf path) c).field (.declared (normalizeName (pathName path))))
  | referred {v : Json} {path : List String} {c : Context} {found : Results} {target : String}
      (name : nameOf path ∉ reservedNames)
      (rule : (Body.ofJson v).propertyRule = .reference)
      (consulted : Reads ⟨.reference, (Body.ofJson v).getD "$ref", path⟩ c.bare found)
      (names : referencedName found = some target) :
      Builds (⟨.property, v, path⟩, c)
        ((fieldBase (nameOf path) c).field (.declared (normalizeName target)))
  | freeform {v : Json} {path : List String} {c : Context}
      (name : nameOf path ∉ reservedNames)
      (rule : (Body.ofJson v).propertyRule = .freeform) :
      Builds (⟨.property, v, path⟩, c)
        { (fieldBase (nameOf path) c).field .string with decorators := [stringifiedJson] }
  | inline {v : Json} {path : List String} {c : Context}
      (name : nameOf path ∉ reservedNames)
      (rule : (Body.ofJson v).propertyRule = .inline) :
      Builds (⟨.property, v, path⟩, c)
        ((fieldBase (nameOf path) c).field (.declared (normalizeName (pathName path))))
  | primitive {v : Json} {path : List String} {c : Context} {field : Field}
      (name : nameOf path ∉ reservedNames)
      (rule : (Body.ofJson v).propertyRule = .primitive)
      (built : ((Body.ofJson v).primitiveField (nameOf path)
        (fieldBase (nameOf path) c)).outcome = .ok field) :
      Builds (⟨.property, v, path⟩, c) field

/-- Primitive types are not declared. -/
theorem fieldType_ne_declared
    {b : Body} {name type : String} {found : FieldType}
    (h : (b.fieldType name).outcome = .ok found) :
  found ≠ .declared type
  := by
  unfold Body.fieldType at h
  split at h
  · split at h
    · simp [← Except.ok.inj h]
    · split at h
      · obtain ⟨-, -, h⟩ := Report.bind_outcome_eq_ok.mp h
        simp [← Except.ok.inj h]
      · simp [← Except.ok.inj h]
  · simp [← Except.ok.inj h]
  · simp [← Except.ok.inj h]
  · simp [← Except.ok.inj h]
  · simp at h

theorem primitiveField_ne_declared
    {b : Body} {name type : String} {base : FieldBase} {f : Field}
    (h : (b.primitiveField name base).outcome = .ok f) :
  f.type ≠ .declared type
  := by
  obtain ⟨found, held, rfl⟩ := primitiveField_outcome_eq_ok.mp h
  exact fieldType_ne_declared held

/-- The visit makes the declaration itself. -/
inductive Announces : Visit → Declaration → Prop where
  | enumeration {v value : Json} {path : List String} {c : Context} {elements : List Json}
      (held : v.get? "enum" = some value) (lists : listed value = .ok elements) :
      Announces (⟨.enumeration, v, path⟩, c)
        (.enumeration (normalizeName (nameOf path)) (enumerationValues elements))
  | scalar {v : Json} {path : List String} {c : Context}
      (rule : (Body.ofJson v).structuralRule = .scalar) :
      Announces (⟨.structural, v, path⟩, c)
        (.scalar (normalizeName (nameOf path)) [stringifiedJson])
  | concept {v : Json} {path : List String} {c : Context} {children : Results}
      (rule : (Body.ofJson v).structuralRule = .concept)
      (fits : MayBeConcept (Body.ofJson v) path)
      (isSet : (Body.ofJson v).getD "properties" ≠ .null)
      (reads : Reads ⟨.properties, (Body.ofJson v).getD "properties", path ++ ["properties"]⟩
        { c with required := (Body.ofJson v).required? } children) :
      Announces (⟨.structural, v, path⟩, c)
        (.concept (normalizeName (nameOf path)) false (children.flatten.filterMap Found.field?))
  | choice {v : Json} {path : List String} {c : Context} {elements : List Json}
      (name : nameOf path ∉ reservedNames)
      (rule : (Body.ofJson v).propertyRule = .enumeration elements) :
      Announces (⟨.property, v, path⟩, c)
        (.enumeration (normalizeName (pathName path)) (enumerationValues elements))

/-- The visit makes the result itself, a field or a declaration. -/
inductive Makes : Visit → Found → Prop where
  | field {x : Visit} {field : Field} (builds : Builds x field) : Makes x (.field field)
  | declaration {x : Visit} {d : Declaration} (announces : Announces x d) :
      Makes x (.declaration d)

/-- Every field and every declaration among the results of a reading is made by a visit that
it hands on to. -/
theorem made_of_reads
    {f : Fragment} {c : Context} {found : Results} (h : Reads f c found)
    (inside : f.role ≠ .document) {e : Found} (mem : e ∈ found.flatten)
    (made : (∃ field, e = .field field) ∨ ∃ d, e = .declaration d) :
  ∃ y, ReflTransGen HandsOn (f, c) y ∧ Makes y e
  := by
  have further {x y : Visit} (step : HandsOn x y)
      (h : ∃ z, ReflTransGen HandsOn y z ∧ Makes z e) :
      ∃ z, ReflTransGen HandsOn x z ∧ Makes z e := by
    obtain ⟨z, reached, makes⟩ := h
    exact ⟨z, .head step reached, makes⟩
  induction h with
  | document | rootOnly => exact absurd rfl inside
  | definitions each ih =>
    obtain ⟨⟨key, v⟩, entry, mem⟩ := by
      simpa only [Nested.flatten_ofList, List.mem_flatMap] using mem
    exact further (.named entry) (ih _ entry Role.noConfusion mem)
  | properties each ih =>
    obtain ⟨⟨key, v⟩, entry, mem⟩ := by
      simpa only [Nested.flatten_ofList, List.mem_flatMap] using mem
    exact further (.member entry) (ih _ entry Role.noConfusion mem)
  | enumeration held lists =>
    obtain rfl := by simpa [Nested.flatten] using mem
    exact ⟨_, .refl, .declaration (.enumeration held lists)⟩
  | scalar rule =>
    obtain rfl := by simpa [Nested.flatten] using mem
    exact ⟨_, .refl, .declaration (.scalar rule)⟩
  | concept rule fits isSet next ih =>
    obtain rfl | ⟨mem, -⟩ := mem_conceptResults.mp mem
    · exact ⟨_, .refl, .declaration (.concept rule fits isSet next)⟩
    · exact further (.concept rule fits isSet) (ih Role.noConfusion mem)
  | choice name rule =>
    simp only [Nested.flatten_ofList, List.mem_cons, List.not_mem_nil, or_false] at mem
    obtain rfl | rfl := mem
    · exact ⟨_, .refl, .field (.listed name rule)⟩
    · exact ⟨_, .refl, .declaration (.choice name rule)⟩
  | referral name rule consulted names =>
    obtain rfl := by simpa using mem
    exact ⟨_, .refl, .field (.referred name rule consulted names)⟩
  | freeform name rule =>
    obtain rfl := by simpa [Nested.flatten] using mem
    exact ⟨_, .refl, .field (.freeform name rule)⟩
  | inline name rule _ ih =>
    simp only [Nested.flatten, Nested.flattenAll, List.append_nil, List.mem_append,
      List.mem_singleton] at mem
    obtain rfl | mem := mem
    · exact ⟨_, .refl, .field (.inline name rule)⟩
    · exact further (.inline name rule) (ih Role.noConfusion mem)
  | primitive name rule built =>
    obtain rfl := by simpa [Nested.flatten] using mem
    exact ⟨_, .refl, .field (.primitive name rule built)⟩
  | enumerated rule _ ih => exact further (.enumerated rule) (ih Role.noConfusion mem)
  | structured rule _ ih => exact further (.structured rule) (ih Role.noConfusion mem)
  | firstAlternative rule _ ih =>
    exact further (.firstAlternative rule) (ih Role.noConfusion mem)
  | aliased rule _ ih => exact further (.aliased rule) (ih Role.noConfusion mem)
  | alternation name rule _ ih =>
    exact further (.alternation name rule) (ih Role.noConfusion mem)
  | deferral name rule consulted _ _ ih =>
    exact further (.deferral name rule consulted) (ih Role.noConfusion mem)
  | array name rule _ ih => exact further (.array name rule) (ih Role.noConfusion mem)
  | union name rule _ ih => exact further (.union name rule) (ih Role.noConfusion mem)
  | tupleAsConcept isHeld rule _ ih =>
    exact further (.tupleAsConcept isHeld rule) (ih Role.noConfusion mem)
  | tupleAsText isHeld rule _ ih =>
    exact further (.tupleAsText isHeld rule) (ih Role.noConfusion mem)
  | items isHeld rule _ ih => exact further (.items isHeld rule) (ih Role.noConfusion mem)
  | tuple isHeld greatestHeld isUpTo lists leastHeld isFrom _ ih =>
    exact further (.tuple isHeld greatestHeld isUpTo lists leastHeld isFrom)
      (ih Role.noConfusion mem)
  | inside rule _ ih => exact further (.inside rule) (ih Role.noConfusion mem)
  | followed resolves rule leads _ ih =>
    exact further (.followed resolves rule leads) (ih Role.noConfusion mem)
  | deferred | traversed | named =>
    obtain rfl := by simpa [Nested.flatten] using mem
    simp at made
  | unset | reserved | dropped | remote => simp [Nested.flatten] at mem

/-- Every declaration among the results of a reading is announced by a visit that it hands on
to. -/
theorem announced_of_reads
    {f : Fragment} {c : Context} {found : Results} (h : Reads f c found)
    (inside : f.role ≠ .document) {d : Declaration} (mem : .declaration d ∈ found.flatten) :
  ∃ y, ReflTransGen HandsOn (f, c) y ∧ Announces y d
  := by
  obtain ⟨y, reached, makes⟩ := made_of_reads h inside mem (.inr ⟨d, rfl⟩)
  cases makes with
  | declaration announces => exact ⟨y, reached, announces⟩

/-- Every field among the results of a reading is built by a visit that it hands on to. -/
theorem built_of_reads
    {f : Fragment} {c : Context} {found : Results} (h : Reads f c found)
    (inside : f.role ≠ .document) {e : Found} (mem : e ∈ found.flatten) {field : Field}
    (held : field ∈ e.fields) :
  ∃ y, ReflTransGen HandsOn (f, c) y ∧ Builds y field
  := by
  have built {f : Fragment} {c : Context} {found : Results} (h : Reads f c found)
      (inside : f.role ≠ .document) (mem : .field field ∈ found.flatten) :
      ∃ y, ReflTransGen HandsOn (f, c) y ∧ Builds y field := by
    obtain ⟨y, reached, makes⟩ := made_of_reads h inside mem (.inl ⟨field, rfl⟩)
    cases makes with
    | field builds => exact ⟨y, reached, builds⟩
  cases e with
  | field f =>
    obtain rfl : field = f := by simpa [Found.fields] using held
    exact built h inside mem
  | declaration d =>
    -- The fields of a concept have been built below the visit that announces it.
    obtain ⟨x, reached, announces⟩ := announced_of_reads h inside mem
    cases announces with
    | concept rule fits isSet reads =>
      obtain ⟨y, further, builds⟩ :=
        built reads Role.noConfusion (mem_filterMap_field?.mp held)
      exact ⟨y, reached.trans (.head (.concept rule fits isSet) further), builds⟩
    | _ => simp [Found.fields, Declaration.fields] at held
  | _ => simp [Found.fields] at held

end Inference

end ConceptModel
