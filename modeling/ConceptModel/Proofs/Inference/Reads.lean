import ConceptModel.Inference.Document
import ConceptModel.Proofs.Json.Fields
import ConceptModel.Proofs.Outcome
import Mathlib.Tactic.Use

/-!
# The rules of reading

`Reads f c r` says by rules that the fragment `f` yields the results `r` in the context
`c`: one rule for each way in which a fragment of each role may be read.  What is
derivable by the rules is what readers of bounded depth yield, as `reads_iff` says.
-/

namespace ConceptModel.Inference

open Text

/-! ### Rules -/

/-- Whether a definition at a path may be a concept: it is an object, or stands where it
need not be one. -/
def MayBeConcept (b : Body) (path : List String) : Prop :=
  ∃ strict, (mustBeObject path).outcome = .ok strict ∧ (strict && !b.hasType "object") = false

/-- At a place with a name, the question whether an object is required has an answer. -/
theorem mustBeObject_eq_pure
    {path : List String} (h : path ≠ []) :
  ∃ strict, mustBeObject path = Pure.pure strict
  := by
  unfold mustBeObject
  split
  · exact absurd rfl h
  · exact ⟨_, rfl⟩
  · exact ⟨_, rfl⟩

/-- By rules: the fragment yields the results in the context. -/
inductive Reads : Fragment → Context → Results → Prop where
  | document {v : Json} {path : List String} {c : Context} {root : String}
      {fields : List (String × Json)} {fromRoot fromDefinitions : Results}
      (named : (rootName v).outcome = .ok root)
      (held : (c.enter v).definitions? = some fields)
      (first : Reads ⟨.definition, v, [root]⟩ (c.enter v) fromRoot)
      (second : Reads ⟨.definitions, .object fields, (c.enter v).container⟩ (c.enter v)
        fromDefinitions) :
      Reads ⟨.document, v, path⟩ c (.one (.models ((c.enter v).modelsWith
        (distinctDeclarations ((fromRoot.flatten ++ fromDefinitions.flatten).filterMap
          Found.declaration?)))))
  | rootOnly {v : Json} {path : List String} {c : Context} {root : String}
      {fromRoot : Results} (named : (rootName v).outcome = .ok root)
      (held : (c.enter v).definitions? = none)
      (first : Reads ⟨.definition, v, [root]⟩ (c.enter v) fromRoot) :
      Reads ⟨.document, v, path⟩ c (.one (.models ((c.enter v).modelsWith
        (distinctDeclarations (fromRoot.flatten.filterMap Found.declaration?)))))
  | definitions {fields : List (String × Json)} {path : List String} {c : Context}
      {found : String × Json → Results}
      (each : ∀ e ∈ fields, Reads ⟨.definition, e.2, path ++ [e.1]⟩ c (found e)) :
      Reads ⟨.definitions, .object fields, path⟩ c
        (.ofList (fields.flatMap fun e => (found e).flatten))
  | enumerated {v : Json} {path : List String} {c : Context} {r : Results}
      {elements : List Json} (rule : v.get? "enum" = some (.array elements))
      (next : Reads ⟨.enumeration, v, path⟩ c r) :
      Reads ⟨.definition, v, path⟩ c r
  | structured {v : Json} {path : List String} {c : Context} {r : Results}
      (rule : ∀ elements, v.get? "enum" ≠ some (.array elements))
      (next : Reads ⟨.structural, v, path⟩ c r) :
      Reads ⟨.definition, v, path⟩ c r
  | enumeration {v value : Json} {path : List String} {c : Context} {elements : List Json}
      (held : v.get? "enum" = some value) (lists : listed value = .ok elements) :
      Reads ⟨.enumeration, v, path⟩ c (.one
        (.declaration (.enumeration (normalizeName (nameOf path)) (enumerationValues elements))))
  | scalar {v : Json} {path : List String} {c : Context}
      (rule : (Body.ofJson v).structuralRule = .scalar) :
      Reads ⟨.structural, v, path⟩ c
        (.one (.declaration (.scalar (normalizeName (nameOf path)) [stringifiedJson])))
  | deferred {v : Json} {path : List String} {c : Context}
      (rule : (Body.ofJson v).structuralRule = .array) :
      Reads ⟨.structural, v, path⟩ c (.one (.deferred (Body.ofJson v) path))
  | firstAlternative {v : Json} {path : List String} {c : Context} {r : Results}
      (rule : (Body.ofJson v).structuralRule = .alternation)
      (next : Reads ⟨.definition, (Body.ofJson v).firstAlternative, path⟩ c r) :
      Reads ⟨.structural, v, path⟩ c r
  | aliased {v : Json} {path : List String} {c : Context} {r : Results}
      (rule : (Body.ofJson v).structuralRule = .reference)
      (next : Reads ⟨.reference, (Body.ofJson v).getD "$ref", path⟩ c r) :
      Reads ⟨.structural, v, path⟩ c r
  | unset {v : Json} {path : List String} {c : Context}
      (rule : (Body.ofJson v).structuralRule = .concept)
      (fits : MayBeConcept (Body.ofJson v) path)
      (unset : (Body.ofJson v).getD "properties" = .null) :
      Reads ⟨.structural, v, path⟩ c .nothing
  | concept {v : Json} {path : List String} {c : Context} {children : Results}
      (rule : (Body.ofJson v).structuralRule = .concept)
      (fits : MayBeConcept (Body.ofJson v) path)
      (isSet : (Body.ofJson v).getD "properties" ≠ .null)
      (next : Reads ⟨.properties, (Body.ofJson v).getD "properties", path ++ ["properties"]⟩
        { c with required := (Body.ofJson v).required? } children) :
      Reads ⟨.structural, v, path⟩ c
        (conceptResults (normalizeName (nameOf path)) children.flatten)
  | properties {fields : List (String × Json)} {path : List String} {c : Context}
      {found : String × Json → Results}
      (each : ∀ e ∈ fields, Reads ⟨.property, e.2, path ++ [e.1]⟩ c (found e)) :
      Reads ⟨.properties, .object fields, path⟩ c
        (.ofList (fields.flatMap fun e => (found e).flatten))
  | reserved {v : Json} {path : List String} {c : Context} (name : nameOf path ∈ reservedNames) :
      Reads ⟨.property, v, path⟩ c .nothing
  | choice {v : Json} {path : List String} {c : Context} {elements : List Json}
      (name : nameOf path ∉ reservedNames)
      (rule : (Body.ofJson v).propertyRule = .enumeration elements) :
      Reads ⟨.property, v, path⟩ c (.ofList
        [.field ((fieldBase (nameOf path) c).field (.declared (normalizeName (pathName path)))),
          .declaration (.enumeration (normalizeName (pathName path))
            (enumerationValues elements))])
  | alternation {v : Json} {path : List String} {c : Context} {r : Results}
      (name : nameOf path ∉ reservedNames)
      (rule : (Body.ofJson v).propertyRule = .alternation)
      (next : Reads ⟨.property, .object (Body.ofJson v).flattened, path⟩ c r) :
      Reads ⟨.property, v, path⟩ c r
  | dropped {v : Json} {path : List String} {c : Context}
      (name : nameOf path ∉ reservedNames)
      (rule : (Body.ofJson v).propertyRule = .reference)
      (consulted : Reads ⟨.reference, (Body.ofJson v).getD "$ref", path⟩ c.bare .nothing) :
      Reads ⟨.property, v, path⟩ c .nothing
  | deferral {v : Json} {path place : List String} {c : Context} {b : Body} {r : Results}
      (name : nameOf path ∉ reservedNames)
      (rule : (Body.ofJson v).propertyRule = .reference)
      (consulted : Reads ⟨.reference, (Body.ofJson v).getD "$ref", path⟩ c.bare
        (.one (.deferred b place)))
      (next : Reads ⟨.property, .object b, place⟩
        { c with overrides := { name := some (nameOf path) } } r) :
      Reads ⟨.property, v, path⟩ c r
  | referral {v : Json} {path : List String} {c : Context} {found : Results} {target : String}
      (name : nameOf path ∉ reservedNames)
      (rule : (Body.ofJson v).propertyRule = .reference)
      (consulted : Reads ⟨.reference, (Body.ofJson v).getD "$ref", path⟩ c.bare found)
      (names : referencedName found = some target) :
      Reads ⟨.property, v, path⟩ c (.ofList
        [.field ((fieldBase (nameOf path) c).field (.declared (normalizeName target)))])
  | array {v : Json} {path : List String} {c : Context} {r : Results}
      (name : nameOf path ∉ reservedNames)
      (rule : (Body.ofJson v).propertyRule = .array)
      (next : Reads ⟨.array, .object (Body.ofJson v), path⟩ c r) :
      Reads ⟨.property, v, path⟩ c r
  | union {v : Json} {path : List String} {c : Context} {types : List Json} {r : Results}
      (name : nameOf path ∉ reservedNames)
      (rule : (Body.ofJson v).propertyRule = .union types)
      (next : Reads ⟨.property,
        .object (Json.setField "type" (.string "string") (Body.ofJson v)), path⟩
        { c with
          overrides := { c.overrides with decorators := some [stringifiedUnion types] } } r) :
      Reads ⟨.property, v, path⟩ c r
  | freeform {v : Json} {path : List String} {c : Context}
      (name : nameOf path ∉ reservedNames)
      (rule : (Body.ofJson v).propertyRule = .freeform) :
      Reads ⟨.property, v, path⟩ c (.one (.field
        { (fieldBase (nameOf path) c).field .string with decorators := [stringifiedJson] }))
  | inline {v : Json} {path : List String} {c : Context} {derived : Results}
      (name : nameOf path ∉ reservedNames)
      (rule : (Body.ofJson v).propertyRule = .inline)
      (next : Reads ⟨.definition, .object (Body.ofJson v), [pathName path]⟩ c.bare derived) :
      Reads ⟨.property, v, path⟩ c (.many
        [.one (.field ((fieldBase (nameOf path) c).field
          (.declared (normalizeName (pathName path))))), derived])
  | primitive {v : Json} {path : List String} {c : Context} {field : Field}
      (name : nameOf path ∉ reservedNames)
      (rule : (Body.ofJson v).propertyRule = .primitive)
      (built : ((Body.ofJson v).primitiveField (nameOf path)
        (fieldBase (nameOf path) c)).outcome = .ok field) :
      Reads ⟨.property, v, path⟩ c (.one (.field field))
  | tupleAsConcept {v : Json} {path : List String} {c : Context} {items : List Json}
      {r : Results} (held : v.get? "items" = some (.array items))
      (rule : (Body.ofJson v).isTuple = true) (next : Reads ⟨.tuple, v, path⟩ c r) :
      Reads ⟨.array, v, path⟩ c r
  | tupleAsText {v : Json} {path : List String} {c : Context} {items : List Json}
      {r : Results} (held : v.get? "items" = some (.array items))
      (rule : (Body.ofJson v).isTuple = false)
      (next : Reads ⟨.property, .object [("type", .string "object")], path⟩ c r) :
      Reads ⟨.array, v, path⟩ c r
  | items {v item : Json} {path : List String} {c : Context} {r : Results}
      (held : v.get? "items" = some item) (rule : item.isArray = false)
      (next : Reads ⟨.property, item, path⟩
        { c with overrides := { c.overrides with isArray := some true } } r) :
      Reads ⟨.array, v, path⟩ c r
  | tuple {v items least greatest : Json} {path : List String} {c : Context}
      {elements : List Json} {from_ upTo : Int} {r : Results}
      (held : v.get? "items" = some items) (greatestHeld : v.get? "maxItems" = some greatest)
      (isUpTo : integerOf greatest = .ok upTo) (lists : elementsOf items = .ok elements)
      (leastHeld : v.get? "minItems" = some least) (isFrom : integerOf least = .ok from_)
      (next : Reads ⟨.property, tupleObject elements from_ upTo, path⟩ c r) :
      Reads ⟨.tuple, v, path⟩ c r
  | remote {v : Json} {path : List String} {c : Context}
      (rule : Reference.isLocal v = false) :
      Reads ⟨.reference, v, path⟩ c .nothing
  | inside {v : Json} {path : List String} {c : Context} {r : Results}
      (rule : Reference.isLocal v = true) (next : Reads ⟨.localReference, v, path⟩ c r) :
      Reads ⟨.reference, v, path⟩ c r
  | traversed {reference : String} {path : List String} {c : Context}
      {resolved : Reference.Resolved}
      (resolves : Reference.resolve c.document c.container reference = .ok resolved)
      (rule : reference ∈ c.traversed) :
      Reads ⟨.localReference, .string reference, path⟩ c
        (.one (.typeName (pathName resolved.pointer)))
  | named {reference : String} {path : List String} {c : Context}
      {resolved : Reference.Resolved}
      (resolves : Reference.resolve c.document c.container reference = .ok resolved)
      (rule : reference ∉ c.traversed) (leads : ∀ v, resolved.target ≠ .definition v) :
      Reads ⟨.localReference, .string reference, path⟩ c
        (.one (.typeName resolved.typeName))
  | followed {reference : String} {path : List String} {c : Context}
      {resolved : Reference.Resolved} {v : Json} {r : Results}
      (resolves : Reference.resolve c.document c.container reference = .ok resolved)
      (rule : reference ∉ c.traversed) (leads : resolved.target = .definition v)
      (next : Reads ⟨.definition, v, resolved.pointer⟩
        { c with traversed := reference :: c.traversed } r) :
      Reads ⟨.localReference, .string reference, path⟩ c r

/-! ### Soundness -/

/-- A required keyword yields its value, if there is one. -/
theorem requireKeyword_outcome_eq_ok
    {v w : Json} {keyword : String} :
  (requireKeyword v keyword).outcome = .ok w ↔ v.get? keyword = some w
  := by
  cases v <;> simp [requireKeyword, Json.get?]

/-- Members are read if they are fields of an object, each of which is read. -/
theorem readMembers_outcome_eq_ok
    {read : Reader} {role : Role} {v : Json} {path : List String} {c : Context} {r : Results} :
  (readMembers read role v path c).outcome = .ok r ↔
    ∃ fields, v = .object fields ∧ ∃ found,
      (readEach read role path c fields).outcome = .ok found ∧ r = .ofList found
  := by
  cases v with
  | object fields => simp [readMembers, eq_comm (a := r)]
  | _ => simp [readMembers]

/-- Fields are read if each of them is, and what is found is what they yield in order. -/
theorem readEach_outcome_eq_ok
    {read : Reader} {role : Role} {path : List String} {c : Context}
    {fields : List (String × Json)} {found : List Found} :
  (readEach read role path c fields).outcome = .ok found ↔
    ∃ each : String × Json → Results,
      (∀ e ∈ fields, (read ⟨role, e.2, path ++ [e.1]⟩ c).outcome = .ok (each e)) ∧
        found = fields.flatMap fun e => (each e).flatten
  := by
  constructor
  · intro h
    have succeed : ∀ e ∈ fields, ∃ r, (read ⟨role, e.2, path ++ [e.1]⟩ c).outcome = .ok r := by
      induction fields generalizing found with
      | nil => simp
      | cons e rest ih =>
        obtain ⟨r, hr, others, hothers, -⟩ := by simpa [readEach] using h
        simp only [List.mem_cons, forall_eq_or_imp]
        exact ⟨⟨r, hr⟩, ih hothers⟩
    use fun e =>
      match (read ⟨role, e.2, path ++ [e.1]⟩ c).outcome with
      | .ok r => r
      | .error _ => .nothing
    constructor
    · intro e he
      obtain ⟨r, hr⟩ := succeed e he
      rw [hr]
    · clear succeed
      induction fields generalizing found with
      | nil => simpa [readEach, eq_comm] using h
      | cons e rest ih =>
        obtain ⟨r, hr, others, hothers, rfl⟩ := by simpa [readEach] using h
        simp [hr, ← ih hothers]
  · rintro ⟨each, h, rfl⟩
    induction fields with
    | nil => rfl
    | cons e rest ih => simp [readEach, h e, ih fun e he => h e (by simp [he])]

section Soundness

variable {read : Reader} (sound : ∀ f c r, (read f c).outcome = .ok r → Reads f c r)
include sound

/-- What is read of fields follows the rules for each of them. -/
theorem reads_of_readEach
    {role : Role} {path : List String} {c : Context} {fields : List (String × Json)}
    {found : List Found} (h : (readEach read role path c fields).outcome = .ok found) :
  ∃ each : String × Json → Results,
    (∀ e ∈ fields, Reads ⟨role, e.2, path ++ [e.1]⟩ c (each e)) ∧
      found = fields.flatMap fun e => (each e).flatten
  := by
  obtain ⟨each, held, rfl⟩ := readEach_outcome_eq_ok.mp h
  exact ⟨each, fun e mem => sound _ _ _ (held e mem), rfl⟩

/-- What is read of a property follows its rules: those of names and keywords, in order. -/
theorem reads_of_readProperty
    {v : Json} {path : List String} {c : Context} {r : Results}
    (h : (readProperty read v path c).outcome = .ok r) :
  Reads ⟨.property, v, path⟩ c r
  := by
  by_cases name : nameOf path ∈ reservedNames
  · obtain rfl : Nested.nothing = r := by simpa [readProperty, name] using h
    exact .reserved name
  · simp only [readProperty, List.contains_iff_mem, name, if_false] at h
    cases rule : (Body.ofJson v).propertyRule with
    | enumeration elements =>
      simp only [rule, Report.pure_outcome, Except.ok.injEq] at h
      subst h
      exact .choice name rule
    | alternation =>
      obtain ⟨-, -, h⟩ := by simpa only [rule, Report.bind_outcome_eq_ok] using h
      exact .alternation name rule (sound _ _ _ h)
    | reference =>
      obtain ⟨referenced, hr, h⟩ := by simpa only [rule, Report.bind_outcome_eq_ok] using h
      have consulted := sound _ _ _ hr
      split at h
      · obtain rfl : Nested.nothing = r := by simpa using h
        exact .dropped name rule consulted
      · exact .deferral name rule consulted (sound _ _ _ h)
      · obtain ⟨target, ht, rfl⟩ := by simpa using h
        exact .referral name rule consulted ht
    | array =>
      simp only [rule] at h
      exact .array name rule (sound _ _ _ h)
    | union types =>
      obtain ⟨-, -, h⟩ := by simpa only [rule, Report.bind_outcome_eq_ok] using h
      exact .union name rule (sound _ _ _ h)
    | freeform =>
      simp only [rule, Report.pure_outcome, Except.ok.injEq] at h
      subst h
      exact .freeform name rule
    | inline =>
      obtain ⟨derived, hd, rfl⟩ := by
        simpa only [rule, Report.bind_outcome_eq_ok, Report.pure_outcome, Except.ok.injEq] using h
      exact .inline name rule (sound _ _ _ hd)
    | primitive =>
      obtain ⟨field, hf, rfl⟩ := by
        simpa only [rule, Report.bind_outcome_eq_ok, Report.pure_outcome, Except.ok.injEq] using h
      exact .primitive name rule hf

/-- What is read of a definition follows its rules. -/
theorem reads_of_readDefinition
    {v : Json} {path : List String} {c : Context} {r : Results}
    (h : (readDefinition read v path c).outcome = .ok r) :
  Reads ⟨.definition, v, path⟩ c r
  := by
  unfold readDefinition at h
  split at h
  next elements rule => exact .enumerated rule (sound _ _ _ h)
  next rule => exact .structured rule (sound _ _ _ h)

/-- What is read of an object definition follows the rule of concepts. -/
theorem reads_of_readConcept
    {v : Json} {path : List String} {c : Context} {r : Results}
    (rule : (Body.ofJson v).structuralRule = .concept)
    (fits : MayBeConcept (Body.ofJson v) path)
    (h : (readConcept read (Body.ofJson v) (normalizeName (nameOf path)) path c).outcome = .ok r) :
  Reads ⟨.structural, v, path⟩ c r
  := by
  unfold readConcept at h
  split at h
  next unset =>
    obtain rfl : Nested.nothing = r := by simpa using h
    exact .unset rule fits unset
  next isSet =>
    obtain ⟨children, hc, rfl⟩ := by simpa using h
    exact .concept rule fits isSet (sound _ _ _ hc)

/-- What is read of a definition that lists no values follows its rules. -/
theorem reads_of_readStructural
    {v : Json} {path : List String} {c : Context} {r : Results}
    (h : (readStructural read v path c).outcome = .ok r) :
  Reads ⟨.structural, v, path⟩ c r
  := by
  unfold readStructural at h
  cases rule : (Body.ofJson v).structuralRule with
  | scalar =>
    simp only [rule, Report.pure_outcome, Except.ok.injEq] at h
    subst h
    exact .scalar rule
  | array =>
    simp only [rule, Report.pure_outcome, Except.ok.injEq] at h
    subst h
    exact .deferred rule
  | alternation =>
    obtain ⟨-, -, h⟩ := by simpa only [rule, Report.bind_outcome_eq_ok] using h
    exact .firstAlternative rule (sound _ _ _ h)
  | reference =>
    simp only [rule] at h
    exact .aliased rule (sound _ _ _ h)
  | concept =>
    obtain ⟨strict, hs, h⟩ := by simpa only [rule, Report.bind_outcome_eq_ok] using h
    split at h
    · simp at h
    next isObject =>
      have fits : MayBeConcept (Body.ofJson v) path := ⟨strict, hs, by simpa using isObject⟩
      exact reads_of_readConcept sound rule fits h

/-- What is read of an array follows its rules: tuples come before the items of one schema. -/
theorem reads_of_readArray
    {v : Json} {path : List String} {c : Context} {r : Results}
    (h : (readArray read v path c).outcome = .ok r) :
  Reads ⟨.array, v, path⟩ c r
  := by
  obtain ⟨items, held, h⟩ := by
    simpa only [readArray, Report.bind_outcome_eq_ok, requireKeyword_outcome_eq_ok] using h
  split at h
  next elements =>
    split at h
    next rule =>
      obtain ⟨-, -, h⟩ := by simpa only [Report.bind_outcome_eq_ok] using h
      exact .tupleAsConcept held rule (sound _ _ _ h)
    next rule =>
      obtain ⟨-, -, h⟩ := by simpa only [Report.bind_outcome_eq_ok] using h
      exact .tupleAsText held (by simpa using rule) (sound _ _ _ h)
  next noArray => exact .items held (Json.isArray_eq_false noArray) (sound _ _ _ h)

/-- What is read of a tuple follows the rule of tuples. -/
theorem reads_of_readTuple
    {v : Json} {path : List String} {c : Context} {r : Results}
    (h : (readTuple read v path c).outcome = .ok r) :
  Reads ⟨.tuple, v, path⟩ c r
  := by
  simp only [readTuple, Report.bind_outcome_eq_ok, requireKeyword_outcome_eq_ok,
    Report.ofExcept_outcome] at h
  obtain ⟨items, held, greatest, greatestHeld, upTo, isUpTo, elements, lists, least, leastHeld,
    from_, isFrom, h⟩ := h
  exact .tuple held greatestHeld isUpTo lists leastHeld isFrom (sound _ _ _ h)

/-- What is read of a reference follows its rules: only local ones lead on. -/
theorem reads_of_readReference
    {v : Json} {path : List String} {c : Context} {r : Results}
    (h : (readReference read v path c).outcome = .ok r) :
  Reads ⟨.reference, v, path⟩ c r
  := by
  unfold readReference at h
  split at h
  next rule => exact .inside rule (sound _ _ _ h)
  next rule =>
    obtain rfl : Nested.nothing = r := by simpa using h
    exact .remote (by simpa using rule)

/-- What is read of a local reference follows the rule of what it refers to. -/
theorem reads_of_readLocalReference
    {v : Json} {path : List String} {c : Context} {r : Results}
    (h : (readLocalReference read v c).outcome = .ok r) :
  Reads ⟨.localReference, v, path⟩ c r
  := by
  cases v with
  | string reference =>
    obtain ⟨resolved, resolves, h⟩ := by
      simpa only [readLocalReference, followReference, Report.bind_outcome_eq_ok,
        Report.ofExcept_outcome] using h
    split at h
    next rule =>
      simp only [Report.pure_outcome, Except.ok.injEq] at h
      subst h
      exact .traversed resolves (by simpa using rule)
    next rule =>
      have rule : reference ∉ c.traversed := by simpa using rule
      split at h
      next v leads => exact .followed resolves rule leads (sound _ _ _ h)
      next leads =>
        simp only [Report.pure_outcome, Except.ok.injEq] at h
        subst h
        exact .named resolves rule leads
  | _ => simp [readLocalReference] at h

/-- What is read of a document follows its rule. -/
theorem reads_of_readDocument
    {v : Json} {path : List String} {c : Context} {r : Results}
    (h : (readDocument read v c).outcome = .ok r) :
  Reads ⟨.document, v, path⟩ c r
  := by
  simp only [readDocument, readContainer, Report.bind_outcome_eq_ok] at h
  obtain ⟨root, named, -, -, fromRoot, first, fromDefinitions, second, -, -, h⟩ := h
  simp only [Report.pure_outcome, Except.ok.injEq] at h
  subst h
  split at second
  next fields held =>
    exact .document named held (sound _ _ _ first) (sound _ _ _ second)
  next held =>
    obtain rfl : Nested.nothing = fromDefinitions := by simpa using second
    have reads : Reads ⟨.document, _, path⟩ c _ := .rootOnly named held (sound _ _ _ first)
    simpa [Nested.flatten] using reads

/-- One step of reading follows the rules if what it hands on does. -/
theorem reads_of_step
    {f : Fragment} {c : Context} {r : Results} (h : (step read f c).outcome = .ok r) :
  Reads f c r
  := by
  obtain ⟨role, v, path⟩ := f
  cases role with
  | document => exact reads_of_readDocument sound h
  | definitions =>
    obtain ⟨fields, rfl, found, hfound, rfl⟩ := readMembers_outcome_eq_ok.mp h
    obtain ⟨each, heach, rfl⟩ := reads_of_readEach sound hfound
    exact .definitions heach
  | definition => exact reads_of_readDefinition sound h
  | enumeration =>
    simp only [step, readEnumeration, Report.bind_outcome_eq_ok, requireKeyword_outcome_eq_ok,
      Report.ofExcept_outcome, Report.pure_outcome, Except.ok.injEq] at h
    obtain ⟨value, held, elements, lists, rfl⟩ := h
    exact .enumeration held lists
  | structural => exact reads_of_readStructural sound h
  | properties =>
    obtain ⟨fields, rfl, found, hfound, rfl⟩ := readMembers_outcome_eq_ok.mp h
    obtain ⟨each, heach, rfl⟩ := reads_of_readEach sound hfound
    exact .properties heach
  | property => exact reads_of_readProperty sound h
  | array => exact reads_of_readArray sound h
  | tuple => exact reads_of_readTuple sound h
  | reference => exact reads_of_readReference sound h
  | localReference => exact reads_of_readLocalReference sound h
  | unspecified => simp [step] at h

end Soundness

/-- What a reader of bounded depth yields follows by the rules. -/
theorem reads_of_readWithin
    {depth : Nat} {f : Fragment} {c : Context} {r : Results}
    (h : (readWithin depth f c).outcome = .ok r) :
  Reads f c r
  := by
  induction depth generalizing f c r with
  | zero => simp [readWithin] at h
  | succ depth ih => exact reads_of_step (fun _ _ _ h => ih h) h

/-- What can be evaluated to what it finds is read by the rules. -/
theorem exists_reads_of_flatten
    (depth : Nat) {f : Fragment} {c : Context} {found : List Found}
    (h : (readWithin depth f c).outcome.toOption.map Nested.flatten = some found) :
  ∃ r, Reads f c r ∧ r.flatten = found
  := by
  cases held : (readWithin depth f c).outcome with
  | error e => simp [held, Except.toOption] at h
  | ok r => exact ⟨r, reads_of_readWithin held, by simpa [held, Except.toOption] using h⟩

end ConceptModel.Inference
