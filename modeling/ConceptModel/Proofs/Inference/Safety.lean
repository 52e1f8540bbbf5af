import ConceptModel.Proofs.Inference.Ends
import ConceptModel.Proofs.Inference.Entry
import ConceptModel.Proofs.Inference.Finite

/-!
# Expected failures

Definitions that references lead to have not been checked, so their keywords may hold any
value.  Yet a reading that ends either has a result or fails for a cause that lies in the
document: a type without counterpart, a malformed escape or a malformed URL.  What each part
of a reading requires is that its visit is `Ready`, which is kept from one visit to the next;
of the checked part of a document it takes that it is `Tidy`.
-/

namespace ConceptModel

/-- Whether a failure has its cause in the document. -/
def Failure.IsExpected : Failure → Prop
  | unsupportedProperty .. | unsupportedDefinition .. | malformedEscape | malformedUrl => True
  | _ => False

/-- Whether a computation that is not given up has a result or fails as expected. -/
def Report.Safe {α : Type} (r : Report α) : Prop :=
  r.FailsOnly fun e => e.IsExpected ∨ e = .endlessReferences

namespace Inference

open Relation

/-! ### Visits -/

/-- Whether a definition has an object of properties, if any, and so has what it is read as
once first alternatives have been taken. -/
def Tidy (v : Json) : Prop :=
  ∀ u, ReflTransGen Takes v u → (Body.ofJson u).getD "properties" ≠ .null →
    ((Body.ofJson u).getD "properties").isObject = true

/-- Whether a path is one under which a definition must be an object. -/
def Contained (path : List String) : Prop :=
  2 ≤ path.length ∧ path.head? ≠ some rootTypeName

/-- Whether a definition may stand at a path, where it must be an object unless it is tidy. -/
def Stands (v : Json) (path : List String) : Prop :=
  path ≠ [] ∧ (Contained path ∨ Tidy v)

/-- Whether a fragment has what is required of it in its role. -/
def Fragment.Suits (f : Fragment) : Prop :=
  match f.role with
  | .definitions => f.body.isObject = true ∧ f.path ≠ [] ∧ f.path.head? ≠ some rootTypeName
  | .definition => Stands f.body f.path
  | .enumeration => Lists f.body
  | .structural => ¬ Lists f.body ∧ Stands f.body f.path
  | .properties => f.body.isObject = true
  | .array => (Body.ofJson f.body).isArray = true
  | .tuple => (Body.ofJson f.body).isTuple = true
  | .localReference => Reference.isLocal f.body = true
  | .property | .reference => True
  | .document | .unspecified => False

/-- A visit of what suits its role, in a document of finite numbers whose definitions do not
stand under the root. -/
structure Ready (x : Visit) : Prop where
  suits : x.1.Suits
  finite : x.1.body.Finite
  document : x.2.document.Finite
  apart : x.2.container.head? ≠ some rootTypeName

/-! ### Paths -/

/-- What stands below a path that does not start at the root must be an object. -/
theorem contained_append
    {path : List String} (key : String) (nonempty : path ≠ [])
    (apart : path.head? ≠ some rootTypeName) :
  Contained (path ++ [key])
  := by
  cases path with
  | nil => exact absurd rfl nonempty
  | cons first rest =>
    constructor
    · simp
    · exact apart

/-- A definition in a container that does not start at the root must be an object. -/
theorem contained_place
    {container : List String} (key : String) (apart : container.head? ≠ some rootTypeName) :
  Contained (placeOf container ++ [key])
  := by
  unfold placeOf
  split
  · apply contained_append key (by decide) (by decide)
  next nonempty => exact contained_append key nonempty apart

theorem Contained.stands
    {path : List String} (h : Contained path) (v : Json) :
  Stands v path
  := by
  constructor
  · rintro rfl
    exact absurd h.1 (by simp)
  · exact .inl h

/-- Under such a path an object is asked for. -/
theorem mustBeObject_outcome_of_contained
    {path : List String} (h : Contained path) :
  (mustBeObject path).outcome = .ok true
  := by
  obtain ⟨long, apart⟩ := h
  match path with
  | [] | [_] => simp at long
  | first :: _ :: _ =>
    have other : first ≠ rootTypeName := by simpa using apart
    simp [mustBeObject, other]

/-- Whether an object is asked for is clear at any path that is not empty. -/
theorem exists_mustBeObject
    {path : List String} (h : path ≠ []) :
  ∃ strict, (mustBeObject path).outcome = .ok strict
  := by
  obtain ⟨strict, held⟩ := mustBeObject_eq_pure h
  exact ⟨strict, by rw [held, Report.pure_outcome]⟩

/-- A definition that takes no alternative is tidy if its own properties are an object. -/
theorem tidy_of_structuralRule
    {v : Json} (rule : (Body.ofJson v).structuralRule ≠ .alternation)
    (h : (Body.ofJson v).getD "properties" ≠ .null →
      ((Body.ofJson v).getD "properties").isObject = true) :
  Tidy v
  := by
  intro u taken
  obtain rfl | ⟨w, step, -⟩ := taken.cases_head
  · exact h
  · exact absurd step.2.1 rule

/-- The properties of a definition that is read as a concept are an object. -/
theorem Stands.isObject
    {v : Json} {path : List String} (h : Stands v path)
    (rule : (Body.ofJson v).structuralRule = .concept)
    (fits : MayBeConcept (Body.ofJson v) path)
    (isSet : (Body.ofJson v).getD "properties" ≠ .null) :
  ((Body.ofJson v).getD "properties").isObject = true
  := by
  obtain ⟨-, contained | tidy⟩ := h
  · obtain ⟨strict, held, typed⟩ := fits
    obtain rfl : strict = true := by
      simpa [mustBeObject_outcome_of_contained contained, eq_comm] using held
    apply Body.isObject_properties_of_structuralRule rule
    simpa using typed
  · exact tidy v .refl isSet

/-! ### What is asked for -/

/-- What a ready visit asks for suits its role. -/
theorem Ready.suits_of_asks
    {x y : Visit} (ready : Ready x) (h : Asks x y) :
  y.1.Suits
  := by
  have suits := ready.suits
  cases h with
  | consults => trivial
  | handsOn h =>
    cases h with
    | root | container => exact suits.elim
    | named => exact (contained_append _ suits.2.1 suits.2.2).stands _
    | enumerated rule => exact ⟨_, rule⟩
    | structured rule => exact ⟨not_exists.mpr rule, suits⟩
    | firstAlternative rule =>
      obtain ⟨noList, nonempty, contained | tidy⟩ := suits
      · exact contained.stands _
      · use nonempty
        right
        intro u taken
        exact tidy u (.head ⟨noList, rule, rfl⟩ taken)
    | concept rule fits isSet => exact suits.2.isObject rule fits isSet
    | inline name rule =>
      obtain ⟨-, isConcept, isObject⟩ := Body.inline_of_propertyRule rule
      use by simp
      right
      apply tidy_of_structuralRule
      · simp [isConcept]
      · exact fun _ => isObject
    | array name rule => exact Body.isArray_of_propertyRule rule
    | tupleAsConcept _ rule => exact rule
    | inside rule => exact rule
    | followed resolves _ leads =>
      obtain ⟨key, -, pointer⟩ := resolve_eq_definition resolves leads
      have contained := contained_place key ready.apart
      rw [← pointer] at contained
      exact contained.stands _
    | aliased | member | alternation | deferral | union | tupleAsText | items | tuple => trivial

/-- Definitions of a document of finite numbers have finite numbers. -/
theorem finite_of_definition?
    {document v : Json} {container : List String} {key : String} (h : document.Finite)
    (held : definition? document container key = some v) :
  v.Finite
  := by
  obtain ⟨w, place, held⟩ := Option.bind_eq_some_iff.mp held
  exact (h.getPath? place).get? held

/-- The alternatives that a definition of finite numbers takes have finite numbers. -/
theorem finite_of_takes
    {v u : Json} (h : v.Finite) (taken : ReflTransGen Takes v u) :
  u.Finite
  := by
  induction taken with
  | refl => exact h
  | tail _ step ih =>
    rw [step.2.2]
    exact Body.finite_firstAlternative (Body.finite_ofJson ih)

/-- What a ready visit asks for has finite numbers. -/
theorem Ready.finite_of_asks
    {x y : Visit} (ready : Ready x) (h : Asks x y) :
  y.1.body.Finite
  := by
  have finite := ready.finite
  cases h with
  | consults => exact Body.finite_getD (Body.finite_ofJson finite)
  | handsOn h =>
    cases h with
    | root | container => exact ready.suits.elim
    | named held | member held => exact Json.finite_object.mp finite _ held
    | enumerated | structured | tupleAsConcept | inside => exact finite
    | firstAlternative => exact Body.finite_firstAlternative (Body.finite_ofJson finite)
    | aliased | concept => exact Body.finite_getD (Body.finite_ofJson finite)
    | alternation => exact Body.finite_flattened (Body.finite_ofJson finite)
    | deferral _ _ consulted =>
      obtain ⟨r, key, u, -, -, ends, -, -, rfl, -⟩ := endsAt_of_reads_deferred consulted
      obtain ⟨v, held, taken⟩ := ends.definition?
      exact Body.finite_ofJson (finite_of_takes (finite_of_definition? ready.document held) taken)
    | array | inline => exact Body.finite_ofJson finite
    | union => exact Body.finite_setType "string" (Body.finite_ofJson finite)
    | tupleAsText => simp
    | items held => exact finite.get? held
    | tuple held _ _ lists =>
      apply finite_tupleObject
      have finite := finite.get? held
      cases finite with
      | array h =>
        obtain rfl := by simpa [elementsOf] using lists
        exact h
      | string =>
        obtain rfl := by simpa [elementsOf] using lists
        simp
      | _ => simp [elementsOf] at lists
    | followed resolves _ leads =>
      obtain ⟨key, leadsTo, -⟩ := resolve_eq_definition resolves leads
      exact finite_of_definition? ready.document leadsTo.definition?

/-- What a visit that is ready asks for is ready. -/
theorem Ready.asks
    {x y : Visit} (ready : Ready x) (h : Asks x y) :
  Ready y
  := by
  have inside : x.1.role ≠ .document := by
    intro role
    simpa [Fragment.Suits, role] using ready.suits
  obtain ⟨sameDocument, sameContainer, -⟩ := stays_of_asks inside h
  exact ⟨ready.suits_of_asks h, ready.finite_of_asks h, sameDocument ▸ ready.document,
    sameContainer ▸ ready.apart⟩

/-! ### Steps -/

/-- What has a result is safe. -/
theorem safe_of_outcome_eq_ok
    {α : Type} {r : Report α} {a : α} (h : r.outcome = .ok a) :
  r.Safe
  := Report.failsOnly_of_outcome_eq_ok h

/-- A type that is not supported is an expected failure. -/
theorem safe_fieldType
    (b : Body) (name : String) :
  (b.fieldType name).Safe
  := by
  unfold Body.fieldType
  split
  · split
    · apply safe_of_outcome_eq_ok rfl
    · split
      · apply safe_of_outcome_eq_ok rfl
      · apply safe_of_outcome_eq_ok rfl
  · apply safe_of_outcome_eq_ok rfl
  · apply safe_of_outcome_eq_ok rfl
  · apply safe_of_outcome_eq_ok rfl
  · exact Report.failsOnly_fail (.inl trivial)

/-- A keyword that a schema gives is found. -/
theorem requireKeyword_outcome_of_getD
    {v : Json} {keyword : String} (h : (Body.ofJson v).getD keyword ≠ .null)
    (other : keyword ≠ "not") :
  (requireKeyword v keyword).outcome = .ok ((Body.ofJson v).getD keyword)
  := by
  rw [requireKeyword_outcome_eq_ok, ← Body.object_ofJson h other]
  exact Body.get?_of_getD_ne h

section Steps

variable {read : Reader} {v : Json} {path : List String} {c : Context}

/-- The readings of fields are safe if those of each field are. -/
theorem safe_readEach
    {role : Role} {fields : List (String × Json)}
    (h : ∀ e ∈ fields, (read ⟨role, e.2, path ++ [e.1]⟩ c).Safe) :
  (readEach read role path c fields).Safe
  := by
  induction fields with
  | nil => apply safe_of_outcome_eq_ok rfl
  | cons e rest ih =>
    apply Report.failsOnly_bind (h e List.mem_cons_self)
    intro found _
    apply Report.failsOnly_bind (ih fun e mem => h e (List.mem_cons_of_mem _ mem))
    intro others _
    apply safe_of_outcome_eq_ok rfl

/-- The readings of the members of an object are safe if those of each member are. -/
theorem safe_readMembers
    {role : Role} (isObject : v.isObject = true)
    (h : ∀ fields, v = .object fields → ∀ e ∈ fields, (read ⟨role, e.2, path ++ [e.1]⟩ c).Safe) :
  (readMembers read role v path c).Safe
  := by
  obtain ⟨fields, rfl⟩ := Json.exists_of_isObject isObject
  apply Report.failsOnly_bind (safe_readEach (h fields rfl))
  intro _ _
  apply safe_of_outcome_eq_ok rfl

/-- The reading of a definition is safe if those of all that it asks for are. -/
theorem safe_readDefinition
    (h : ∀ y, Asks (⟨.definition, v, path⟩, c) y → (read y.1 y.2).Safe) :
  (readDefinition read v path c).Safe
  := by
  unfold readDefinition
  split
  next rule => exact h _ (.handsOn (.enumerated rule))
  next rule => exact h _ (.handsOn (.structured rule))

/-- An enumeration that lists its values is read safely. -/
theorem safe_readEnumeration
    (lists : Lists v) :
  (readEnumeration v path).Safe
  := by
  obtain ⟨elements, held⟩ := lists
  apply Report.failsOnly_bind_of_outcome_eq_ok (requireKeyword_outcome_eq_ok.mpr held)
  apply safe_of_outcome_eq_ok rfl

/-- The reading of a definition without values is safe where it may stand. -/
theorem safe_readStructural
    (stands : Stands v path)
    (h : ∀ y, Asks (⟨.structural, v, path⟩, c) y → (read y.1 y.2).Safe) :
  (readStructural read v path c).Safe
  := by
  simp only [readStructural]
  cases rule : (Body.ofJson v).structuralRule with
  | scalar => apply safe_of_outcome_eq_ok rfl
  | array => apply safe_of_outcome_eq_ok rfl
  | alternation =>
    apply Report.failsOnly_bind_of_outcome_eq_ok (Report.warn_outcome _)
    exact h _ (.handsOn (.firstAlternative rule))
  | reference => exact h _ (.handsOn (.aliased rule))
  | concept =>
    obtain ⟨strict, held⟩ := exists_mustBeObject stands.1
    apply Report.failsOnly_bind_of_outcome_eq_ok held
    split
    · exact Report.failsOnly_fail (.inl trivial)
    next typed =>
      have fits : MayBeConcept (Body.ofJson v) path := ⟨strict, held, by simpa using typed⟩
      unfold readConcept
      split
      · apply safe_of_outcome_eq_ok rfl
      next isSet =>
        apply Report.failsOnly_bind (h _ (.handsOn (.concept rule fits isSet)))
        intro _ _
        apply safe_of_outcome_eq_ok rfl

/-- The reading of a property is safe if those of all that it asks for are. -/
theorem safe_readProperty
    (sound : ∀ f c r, (read f c).outcome = .ok r → Reads f c r)
    (h : ∀ y, Asks (⟨.property, v, path⟩, c) y → (read y.1 y.2).Safe) :
  (readProperty read v path c).Safe
  := by
  by_cases name : nameOf path ∈ reservedNames
  · simp only [readProperty, List.contains_iff_mem, name, if_true]
    apply safe_of_outcome_eq_ok rfl
  · simp only [readProperty, List.contains_iff_mem, name, if_false]
    cases rule : (Body.ofJson v).propertyRule with
    | enumeration elements => apply safe_of_outcome_eq_ok rfl
    | alternation =>
      apply Report.failsOnly_bind_of_outcome_eq_ok (Report.warn_outcome _)
      exact h _ (.handsOn (.alternation name rule))
    | reference =>
      apply Report.failsOnly_bind (h _ (.consults name rule))
      intro found held
      have reads := sound _ _ _ held
      split
      · apply safe_of_outcome_eq_ok rfl
      · exact h _ (.handsOn (.deferral name rule reads))
      next something noArray =>
        obtain ⟨target, names⟩ := exists_referencedName reads something noArray
        apply Report.failsOnly_bind_of_outcome_eq_ok (Report.ofOption_outcome_eq_ok.mpr names)
        apply safe_of_outcome_eq_ok rfl
    | array => exact h _ (.handsOn (.array name rule))
    | union types =>
      apply Report.failsOnly_bind_of_outcome_eq_ok (Report.warn_outcome _)
      exact h _ (.handsOn (.union name rule))
    | freeform => apply safe_of_outcome_eq_ok rfl
    | inline =>
      apply Report.failsOnly_bind (h _ (.handsOn (.inline name rule)))
      intro _ _
      apply safe_of_outcome_eq_ok rfl
    | primitive =>
      apply Report.failsOnly_bind
      · apply Report.failsOnly_bind (safe_fieldType _ _)
        intro _ _
        apply safe_of_outcome_eq_ok rfl
      · intro _ _
        apply safe_of_outcome_eq_ok rfl

/-- The reading of an array is safe if those of all that it asks for are. -/
theorem safe_readArray
    (isArray : (Body.ofJson v).isArray = true)
    (h : ∀ y, Asks (⟨.array, v, path⟩, c) y → (read y.1 y.2).Safe) :
  (readArray read v path c).Safe
  := by
  have held := requireKeyword_outcome_of_getD (Body.getD_items_of_isArray isArray) (by decide)
  apply Report.failsOnly_bind_of_outcome_eq_ok held
  rw [requireKeyword_outcome_eq_ok] at held
  split
  next elements isHeld =>
    rw [isHeld] at held
    split
    next rule =>
      apply Report.failsOnly_bind_of_outcome_eq_ok (Report.warn_outcome _)
      exact h _ (.handsOn (.tupleAsConcept held rule))
    next rule =>
      apply Report.failsOnly_bind_of_outcome_eq_ok (Report.warn_outcome _)
      exact h _ (.handsOn (.tupleAsText held (by simpa using rule)))
  next noArray =>
    apply h _ (.handsOn (.items held _))
    cases items : (Body.ofJson v).getD "items" with
    | array elements => exact absurd items (noArray elements)
    | _ => rfl

/-- A finite number has an integral part. -/
theorem exists_integerOf
    {x : Number} (h : (Json.number x).Finite) :
  ∃ n, integerOf (.number x) = .ok n
  := by
  obtain ⟨n, held⟩ := (Json.finite_number.mp h).exists_truncate?
  exact ⟨n, by simp [integerOf, held]⟩

/-- The reading of a tuple of finite numbers is safe if those of all that it asks for are. -/
theorem safe_readTuple
    (isTuple : (Body.ofJson v).isTuple = true) (finite : v.Finite)
    (h : ∀ y, Asks (⟨.tuple, v, path⟩, c) y → (read y.1 y.2).Safe) :
  (readTuple read v path c).Safe
  := by
  obtain ⟨items, least, greatest, hasItems, hasLeast, hasGreatest⟩ :=
    Body.exists_of_isTuple isTuple
  have finiteD (keyword : String) : ((Body.ofJson v).getD keyword).Finite :=
    Body.finite_getD (Body.finite_ofJson finite)
  obtain ⟨from_, isFrom⟩ := exists_integerOf (hasLeast ▸ finiteD "minItems")
  obtain ⟨upTo, isUpTo⟩ := exists_integerOf (hasGreatest ▸ finiteD "maxItems")
  have held {keyword : String} {w : Json} (other : keyword ≠ "not") (isSet : w ≠ .null)
      (h : (Body.ofJson v).getD keyword = w) : (requireKeyword v keyword).outcome = .ok w := by
    subst h
    exact requireKeyword_outcome_of_getD isSet other
  have items := held (by decide) (by simp) hasItems
  have least := held (by decide) (by simp) hasLeast
  have greatest := held (by decide) (by simp) hasGreatest
  apply Report.failsOnly_bind_of_outcome_eq_ok items
  apply Report.failsOnly_bind_of_outcome_eq_ok greatest
  apply Report.failsOnly_bind_of_outcome_eq_ok ((Report.ofExcept_outcome _).trans isUpTo)
  apply Report.failsOnly_bind_of_outcome_eq_ok (Report.ofExcept_outcome _)
  apply Report.failsOnly_bind_of_outcome_eq_ok least
  apply Report.failsOnly_bind_of_outcome_eq_ok ((Report.ofExcept_outcome _).trans isFrom)
  rw [requireKeyword_outcome_eq_ok] at items least greatest
  exact h _ (.handsOn (.tuple items greatest isUpTo rfl least isFrom))

/-- The reading of a reference is safe if those of all that it asks for are. -/
theorem safe_readReference
    (h : ∀ y, Asks (⟨.reference, v, path⟩, c) y → (read y.1 y.2).Safe) :
  (readReference read v path c).Safe
  := by
  unfold readReference
  split
  next rule => exact h _ (.handsOn (.inside rule))
  next => apply safe_of_outcome_eq_ok rfl

/-- The reading of a local reference is safe if those of all that it asks for are. -/
theorem safe_readLocalReference
    (isLocal : Reference.isLocal v = true)
    (h : ∀ y, Asks (⟨.localReference, v, path⟩, c) y → (read y.1 y.2).Safe) :
  (readLocalReference read v c).Safe
  := by
  obtain ⟨r, rfl⟩ := eq_string_of_isLocal isLocal
  apply Report.failsOnly_bind
  · apply Report.failsOnly_ofExcept
    intro e failed
    unfold Reference.resolve at failed
    split at failed
    · obtain rfl : .malformedEscape = e := by simpa using failed
      exact .inl trivial
    · simp at failed
  · intro resolved resolves
    rw [Report.ofExcept_outcome] at resolves
    split
    · apply safe_of_outcome_eq_ok rfl
    next fresh =>
      split
      next leads => exact h _ (.handsOn (.followed resolves (by simpa using fresh) leads))
      next => apply safe_of_outcome_eq_ok rfl

/-- A step is safe at a visit that is ready when the reader is at all visits that it asks
for. -/
theorem safe_step
    (sound : ∀ f c r, (read f c).outcome = .ok r → Reads f c r) {x : Visit} (ready : Ready x)
    (h : ∀ y, Asks x y → (read y.1 y.2).Safe) :
  (step read x.1 x.2).Safe
  := by
  obtain ⟨⟨role, v, path⟩, c⟩ := x
  have suits := ready.suits
  cases role with
  | document | unspecified => exact suits.elim
  | definitions =>
    apply safe_readMembers suits.1
    rintro fields rfl e mem
    exact h _ (.handsOn (.named mem))
  | definition => exact safe_readDefinition h
  | enumeration => exact safe_readEnumeration suits
  | structural => exact safe_readStructural suits.2 h
  | properties =>
    apply safe_readMembers suits
    rintro fields rfl e mem
    exact h _ (.handsOn (.member mem))
  | property => exact safe_readProperty sound h
  | array => exact safe_readArray suits h
  | tuple => exact safe_readTuple suits ready.finite h
  | reference => exact safe_readReference h
  | localReference => exact safe_readLocalReference suits h

end Steps

/-- A reading of any depth is safe at a visit that is ready. -/
theorem Ready.safe
    {x : Visit} (ready : Ready x) (depth : Nat) :
  (readWithin depth x.1 x.2).Safe
  := by
  induction depth generalizing x with
  | zero => exact Report.failsOnly_fail (.inr rfl)
  | succ depth ih =>
    apply safe_step (fun _ _ _ => reads_of_readWithin) ready
    intro y asked
    exact ih (ready.asks asked)

/-! ### Documents -/

/-- The root of an accepted document has a name or fails as expected. -/
theorem safe_rootName
    {document : Json} (accepted : (checkDocument document).outcome = .ok ()) :
  (rootName document).Safe
  := by
  apply Report.failsOnly_bind_of_outcome_eq_ok accepted
  apply Report.failsOnly_bind
  · apply Report.failsOnly_ofExcept
    intro e failed
    unfold SchemaId.ofJson? at failed
    split at failed
    · split at failed
      · simp at failed
      · split at failed
        · obtain rfl : .malformedUrl = e := by simpa using failed
          exact .inl trivial
        · simp at failed
    · simp at failed
  · intro id _
    split
    · apply safe_of_outcome_eq_ok rfl
    · split <;> apply safe_of_outcome_eq_ok rfl

/-- A container that is looked for does not start at the root either. -/
theorem apart_containerOf
    {given : List String} (document : Json) (apart : given.head? ≠ some rootTypeName) :
  (containerOf document given).head? ≠ some rootTypeName
  := by
  unfold containerOf Reference.locateDefinitions
  split
  · exact apart
  next =>
    cases search : Reference.containers.find? fun path =>
        (((wholeOf document).getPath? path).map Json.isObject).getD false with
    | none => simp
    | some place =>
      have known := List.mem_of_find?_eq_some search
      have all : ∀ place ∈ Reference.containers, place.head? ≠ some rootTypeName := by decide
      exact all place known

section

variable {document namespaceName : Json} {metaNamespace : String} {given : List String}
  (accepted : (checkDocument document).outcome = .ok ()) (finite : document.Finite)
  (tidy : Tidy document) (apart : given.head? ≠ some rootTypeName)

include finite tidy apart in
/-- The parts of a document that is tidy are ready. -/
theorem ready_of_part
    {path : List String} {x : Visit}
    (h : Asks (⟨.document, document, path⟩, .start namespaceName metaNamespace given) x) :
  Ready x
  := by
  have apart := apart_containerOf document apart
  have whole : (wholeOf document).Finite := Body.finite_ofJson finite
  cases h with
  | handsOn h =>
    cases h with
    | root => exact ⟨⟨by simp, .inr tidy⟩, finite, whole, apart⟩
    | container held =>
      obtain ⟨place, nonempty⟩ := definitions?_eq_some held
      exact ⟨⟨rfl, nonempty, apart⟩, whole.getPath? place, whole, apart⟩

include accepted finite tidy apart in
/-- A document that is accepted is read safely within any depth. -/
theorem safe_document
    (path : List String) (depth : Nat) :
  (readWithin depth ⟨.document, document, path⟩
    (.start namespaceName metaNamespace given)).Safe
  := by
  cases depth with
  | zero => exact Report.failsOnly_fail (.inr rfl)
  | succ depth =>
    have part {x : Visit} (h : HandsOn
        (⟨.document, document, path⟩, .start namespaceName metaNamespace given) x) :
        (readWithin depth x.1 x.2).Safe :=
      (ready_of_part finite tidy apart (.handsOn h)).safe depth
    apply Report.failsOnly_bind (safe_rootName accepted)
    intro root named
    apply Report.failsOnly_bind_of_outcome_eq_ok (Report.note_outcome _)
    apply Report.failsOnly_bind (part (.root named))
    intro fromRoot _
    apply Report.failsOnly_bind
    · unfold readContainer
      split
      next held => exact part (.container held)
      next => apply safe_of_outcome_eq_ok rfl
    · intro fromDefinitions _
      apply safe_of_outcome_eq_ok rfl

end

/-- When the reading of a document that has been accepted ends, at whatever depth, it has
found models or it fails as expected. -/
theorem expected_of_accepted
    {document namespaceName : Json} {metaNamespace : String} {given : List String}
    (accepted : (checkDocument document).outcome = .ok ()) (finite : document.Finite)
    (tidy : Tidy document) (apart : given.head? ≠ some rootTypeName) :
  (∀ depth, (readWithin depth ⟨.document, document, []⟩
        (.start namespaceName metaNamespace given)).Finishes →
      (∃ ms, (readWithin depth ⟨.document, document, []⟩
        (.start namespaceName metaNamespace given)).outcome = .ok (.one (.models ms))) ∨
      ∃ e : Failure, (readWithin depth ⟨.document, document, []⟩
        (.start namespaceName metaNamespace given)).outcome = .error e ∧ e.IsExpected) ∧
    ((inferModels document namespaceName metaNamespace (given.map .string)).Finishes →
      (∃ ms, (inferModels document namespaceName metaNamespace
        (given.map .string)).outcome = .ok ms) ∨
      ∃ e : Failure, (inferModels document namespaceName metaNamespace
        (given.map .string)).outcome = .error e ∧ e.IsExpected)
  := by
  have safe (depth : Nat) : (readWithin depth ⟨.document, document, []⟩
      (.start namespaceName metaNamespace given)).Safe :=
    safe_document accepted finite tidy apart [] depth
  have settles {α : Type} {r : Report α} (safe : r.Safe) (finishes : r.Finishes) :
      (∃ a, r.outcome = .ok a) ∨ ∃ e : Failure, r.outcome = .error e ∧ e.IsExpected := by
    cases held : r.outcome with
    | ok a => exact .inl ⟨a, rfl⟩
    | error e =>
      obtain expected | rfl := safe.of_outcome held
      · exact .inr ⟨e, rfl, expected⟩
      · exact absurd held finishes
  constructor
  · intro depth finishes
    obtain ⟨found, held⟩ | failed := settles (safe depth) finishes
    · obtain ⟨declarations, -, rfl⟩ := yields_of_reads (reads_of_readWithin held)
      exact .inl ⟨_, held⟩
    · exact .inr failed
  · apply settles
    simp only [inferModels, segments?_map_string]
    apply Report.failsOnly_bind (safe _)
    intro found _
    apply safe_of_outcome_eq_ok rfl

/-- A store whose schemas stand where nothing has checked them. -/
def petStore : Json :=
  .object
    [("properties", .object
        [("pet", .object [("$ref", .string "#/components/schemas/Pet")])]),
      ("components", .object
        [("schemas", .object
            [("Pet", .object
                [("type", .string "object"), ("properties", .number (.int 7)),
                  ("required", .bool true)]),
              ("Size", .object
                [("type", .string "array"), ("items", .array [.null, .string "m"]),
                  ("minItems", .number (.int (-1))), ("maxItems", .number (.int 2))]),
              ("Note", .string "a text")])])]

/-- The text among the schemas is no object, and the reading fails for it as expected. -/
theorem expected_of_accepted_petStore :
  (∃ ms, (inferModels petStore (.string "org.acme") defaultMetaNamespace
      [.string "components", .string "schemas"]).outcome = .ok ms) ∨
    ∃ e : Failure, (inferModels petStore (.string "org.acme") defaultMetaNamespace
      [.string "components", .string "schemas"]).outcome = .error e ∧ e.IsExpected
  := by
  obtain ⟨_, accepted⟩ : ∃ u, (checkDocument petStore).outcome = .ok u :=
    Report.exists_outcome_eq_ok (by decide +kernel)
  have finite : petStore.Finite := by simp [petStore, Number.IsFinite]
  have tidy : Tidy petStore := by
    apply tidy_of_structuralRule <;> decide +kernel
  have apart : ["components", "schemas"].head? ≠ some rootTypeName := by decide
  have finishes : (inferModels petStore (.string "org.acme") defaultMetaNamespace
      [.string "components", .string "schemas"]).Finishes := by
    have ends : (match (inferModels petStore (.string "org.acme") defaultMetaNamespace
        [.string "components", .string "schemas"]).outcome with
      | .error .endlessReferences => false
      | _ => true) = true := by decide +kernel
    intro endless
    simp [endless] at ends
  exact (expected_of_accepted accepted finite tidy apart).2 finishes

end Inference

end ConceptModel
