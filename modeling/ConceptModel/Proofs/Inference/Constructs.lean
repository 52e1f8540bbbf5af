import ConceptModel.Proofs.Inference.Adequacy
import Mathlib.Data.List.Flatten

/-!
# Unsupported constructs

What the reading of a fragment warns of, part by part.  A fragment has at most one `remark?`
of its own; its `parts` are what it is read through to without following references; and
`elsewhere` is where the reading goes on when a reference has been resolved.  The warnings
of a reading are its remark, then those of its parts, then those from elsewhere.
-/

namespace ConceptModel.Inference

open Json Relation Text

/-! ### Remarks -/

/-- What reading a fragment warns of before it asks for anything. -/
def Fragment.remark? (f : Fragment) : Option Warning :=
  let b := Body.ofJson f.body
  let name := nameOf f.path
  match f.role with
  | .structural =>
    if b.structuralRule = .alternation then
      some (.firstAlternative b.alternationKeyword name)
    else none
  | .property =>
    if reservedNames.contains name then none
    else
      match b.propertyRule with
      | .alternation => some (.firstAlternative b.alternationKeyword name)
      | .union _ => some (.unionAsText name)
      | .primitive =>
        if b.hasType "string" && !b.isDateTime && (b.getD "format").isTruthy then
          some (.formatIgnored (b.getD "format") name)
        else none
      | _ => none
  | .array =>
    match f.body.get? "items" with
    | some (.array _) => some (if b.isTuple then .tupleAsConcept name else .tupleAsText name)
    | _ => none
  | _ => none

/-- The message about a fragment, if there is one. -/
def Fragment.message? (f : Fragment) : Option String := f.remark?.map Warning.message

/-! ### Parts -/

/-- The visits of the members of an object. -/
def membersOf (role : Role) (v : Json) (path : List String) (c : Context) : List Visit :=
  match v with
  | .object fields => fields.map fun e => (⟨role, e.2, path ++ [e.1]⟩, c)
  | _ => []

/-- The visit of a definition by its kind. -/
def partsOfDefinition (v : Json) (path : List String) (c : Context) : List Visit :=
  match v.get? "enum" with
  | some (.array _) => [(⟨.enumeration, v, path⟩, c)]
  | _ => [(⟨.structural, v, path⟩, c)]

/-- The visits of the properties of a concept. -/
def partsOfConcept (b : Body) (path : List String) (c : Context) : List Visit :=
  match (mustBeObject path).outcome with
  | .ok strict =>
    if strict && !b.hasType "object" || b.getD "properties" = .null then []
    else
      [(⟨.properties, b.getD "properties", path ++ ["properties"]⟩,
        { c with required := b.required? })]
  | .error _ => []

/-- The visits inside a definition that is no enumeration. -/
def partsOfStructural (v : Json) (path : List String) (c : Context) : List Visit :=
  let b := Body.ofJson v
  match b.structuralRule with
  | .scalar | .array => []
  | .alternation => [(⟨.definition, b.firstAlternative, path⟩, c)]
  | .reference => [(⟨.reference, b.getD "$ref", path⟩, c)]
  | .concept => partsOfConcept b path c

/-- The visits inside a property. -/
def partsOfProperty (v : Json) (path : List String) (c : Context) : List Visit :=
  let b := Body.ofJson v
  if reservedNames.contains (nameOf path) then []
  else
    match b.propertyRule with
    | .alternation => [(⟨.property, .object b.flattened, path⟩, c)]
    | .reference => [(⟨.reference, b.getD "$ref", path⟩, c.bare)]
    | .array => [(⟨.array, .object b, path⟩, c)]
    | .union types =>
      [(⟨.property, .object (setField "type" (.string "string") b), path⟩,
        { c with
          overrides := { c.overrides with decorators := some [stringifiedUnion types] } })]
    | .inline => [(⟨.definition, .object b, [pathName path]⟩, c.bare)]
    | _ => []

/-- The visit of the items of an array. -/
def partsOfArray (v : Json) (path : List String) (c : Context) : List Visit :=
  match v.get? "items" with
  | some (.array _) =>
    if (Body.ofJson v).isTuple then [(⟨.tuple, v, path⟩, c)]
    else [(⟨.property, .object [("type", .string "object")], path⟩, c)]
  | some item =>
    [(⟨.property, item, path⟩, { c with overrides := { c.overrides with isArray := some true } })]
  | none => []

/-- The visit of the object that a tuple stands for. -/
def partsOfTuple (v : Json) (path : List String) (c : Context) : List Visit :=
  match v.get? "items", v.get? "maxItems", v.get? "minItems" with
  | some items, some greatest, some least =>
    match integerOf greatest, elementsOf items, integerOf least with
    | .ok greatest, .ok elements, .ok least =>
      [(⟨.property, tupleObject elements least greatest, path⟩, c)]
    | _, _, _ => []
  | _, _, _ => []

/-- The visits that the reading of a fragment asks for at the same place of the document. -/
def partsOf (x : Visit) : List Visit :=
  let ⟨role, v, path⟩ := x.1
  match role with
  | .definitions => membersOf .definition v path x.2
  | .definition => partsOfDefinition v path x.2
  | .structural => partsOfStructural v path x.2
  | .properties => membersOf .property v path x.2
  | .property => partsOfProperty v path x.2
  | .array => partsOfArray v path x.2
  | .tuple => partsOfTuple v path x.2
  | .reference => if Reference.isLocal v then [(⟨.localReference, v, path⟩, x.2)] else []
  | _ => []

/-! ### Elsewhere -/

/-- The visit of the definition that a reference is followed to. -/
def followedOf (reference : String) (c : Context) : List Visit :=
  match Reference.resolve c.document c.container reference with
  | .ok ⟨pointer, .definition v⟩ =>
    if c.traversed.contains reference then []
    else [(⟨.definition, v, pointer⟩, { c with traversed := reference :: c.traversed })]
  | _ => []

/-- The visit of the array that the reference of a property has come to. -/
def resumedOf (read : Reader) (v : Json) (path : List String) (c : Context) : List Visit :=
  let b := Body.ofJson v
  if reservedNames.contains (nameOf path) || b.propertyRule ≠ .reference then []
  else
    match (read ⟨.reference, b.getD "$ref", path⟩ c.bare).outcome with
    | .ok (.one (.deferred b place)) =>
      [(⟨.property, .object b, place⟩, { c with overrides := { name := some (nameOf path) } })]
    | _ => []

/-- The visits that the reading of a fragment asks for at another place of the document. -/
def elsewhere (read : Reader) (x : Visit) : List Visit :=
  match x.1.role with
  | .localReference =>
    match x.1.body with
    | .string reference => followedOf reference x.2
    | _ => []
  | .property => resumedOf read x.1.body x.1.path x.2
  | _ => []

/-! ### Visits that are asked for -/

section

variable {v : Json} {path : List String} {c : Context} {y : Visit}

/-- A definition asks for its parts. -/
theorem asks_of_mem_partsOfDefinition
    (h : y ∈ partsOfDefinition v path c) :
  Asks (⟨.definition, v, path⟩, c) y
  := by
  unfold partsOfDefinition at h
  split at h
  next rule =>
    obtain rfl := List.mem_singleton.mp h
    exact .handsOn (.enumerated rule)
  next rule =>
    obtain rfl := List.mem_singleton.mp h
    exact .handsOn (.structured rule)

/-- A definition that lists no values asks for its parts. -/
theorem asks_of_mem_partsOfStructural
    (h : y ∈ partsOfStructural v path c) :
  Asks (⟨.structural, v, path⟩, c) y
  := by
  unfold partsOfStructural at h
  cases rule : (Body.ofJson v).structuralRule with
  | scalar | array => simp [rule] at h
  | alternation =>
    obtain rfl : y = _ := by simpa [rule] using h
    exact .handsOn (.firstAlternative rule)
  | reference =>
    obtain rfl : y = _ := by simpa [rule] using h
    exact .handsOn (.aliased rule)
  | concept =>
    simp only [rule, partsOfConcept] at h
    split at h
    next strict stands =>
      split at h
      · simp at h
      next fits =>
        simp only [Bool.or_eq_true, decide_eq_true_eq, not_or] at fits
        obtain rfl := List.mem_singleton.mp h
        exact .handsOn (.concept rule ⟨strict, stands, by simpa using fits.1⟩ fits.2)
    · simp at h

/-- A property asks for its parts. -/
theorem asks_of_mem_partsOfProperty
    (h : y ∈ partsOfProperty v path c) :
  Asks (⟨.property, v, path⟩, c) y
  := by
  unfold partsOfProperty at h
  by_cases name : nameOf path ∈ reservedNames
  · simp [name] at h
  · simp only [List.contains_iff_mem, name, if_false] at h
    cases rule : (Body.ofJson v).propertyRule with
    | enumeration | freeform | primitive => simp [rule] at h
    | alternation =>
      obtain rfl : y = _ := by simpa [rule] using h
      exact .handsOn (.alternation name rule)
    | reference =>
      obtain rfl : y = _ := by simpa [rule] using h
      exact .consults name rule
    | array =>
      obtain rfl : y = _ := by simpa [rule] using h
      exact .handsOn (.array name rule)
    | union types =>
      obtain rfl : y = _ := by simpa [rule] using h
      exact .handsOn (.union name rule)
    | inline =>
      obtain rfl : y = _ := by simpa [rule] using h
      exact .handsOn (.inline name rule)

/-- An array asks for its parts. -/
theorem asks_of_mem_partsOfArray
    (h : y ∈ partsOfArray v path c) :
  Asks (⟨.array, v, path⟩, c) y
  := by
  unfold partsOfArray at h
  split at h
  next items held =>
    split at h
    next rule =>
      obtain rfl := List.mem_singleton.mp h
      exact .handsOn (.tupleAsConcept held rule)
    next rule =>
      obtain rfl := List.mem_singleton.mp h
      exact .handsOn (.tupleAsText held (by simpa using rule))
  next item noArray held =>
    obtain rfl := List.mem_singleton.mp h
    exact .handsOn (.items held (Json.isArray_eq_false noArray))
  · simp at h

/-- A tuple asks for its parts. -/
theorem asks_of_mem_partsOfTuple
    (h : y ∈ partsOfTuple v path c) :
  Asks (⟨.tuple, v, path⟩, c) y
  := by
  unfold partsOfTuple at h
  split at h
  next held greatestHeld leastHeld =>
    split at h
    next isUpTo lists isFrom =>
      obtain rfl := List.mem_singleton.mp h
      exact .handsOn (.tuple held greatestHeld isUpTo lists leastHeld isFrom)
    · simp at h
  · simp at h

end

/-- The parts of a fragment are asked for when it is read. -/
theorem asks_of_mem_partsOf
    {x y : Visit} (h : y ∈ partsOf x) :
  Asks x y
  := by
  obtain ⟨⟨role, v, path⟩, c⟩ := x
  cases role with
  | definitions =>
    cases v with
    | object fields =>
      obtain ⟨e, held, rfl⟩ := List.mem_map.mp h
      exact .handsOn (.named held)
    | _ => simp [partsOf, membersOf] at h
  | properties =>
    cases v with
    | object fields =>
      obtain ⟨e, held, rfl⟩ := List.mem_map.mp h
      exact .handsOn (.member held)
    | _ => simp [partsOf, membersOf] at h
  | definition => exact asks_of_mem_partsOfDefinition h
  | structural => exact asks_of_mem_partsOfStructural h
  | property => exact asks_of_mem_partsOfProperty h
  | array => exact asks_of_mem_partsOfArray h
  | tuple => exact asks_of_mem_partsOfTuple h
  | reference =>
    simp only [partsOf] at h
    split at h
    next rule =>
      obtain rfl := List.mem_singleton.mp h
      exact .handsOn (.inside rule)
    · simp at h
  | _ => simp [partsOf] at h

/-- What a fragment leads to is asked for when it is read. -/
theorem asks_of_mem_elsewhere
    {read : Reader} (sound : ∀ f c r, (read f c).outcome = .ok r → Reads f c r)
    {x y : Visit} (h : y ∈ elsewhere read x) :
  Asks x y
  := by
  obtain ⟨⟨role, v, path⟩, c⟩ := x
  cases role with
  | localReference =>
    cases v with
    | string reference =>
      simp only [elsewhere, followedOf] at h
      split at h
      next pointer w resolves =>
        split at h
        · simp at h
        next fresh =>
          obtain rfl := List.mem_singleton.mp h
          exact .handsOn (.followed resolves (by simpa using fresh) rfl)
      · simp at h
    | _ => simp [elsewhere] at h
  | property =>
    simp only [elsewhere, resumedOf] at h
    split at h
    · simp at h
    next rule =>
      simp only [Bool.or_eq_true, decide_eq_true_eq, not_or, List.contains_iff_mem, not_not]
        at rule
      split at h
      next b place consulted =>
        obtain rfl := List.mem_singleton.mp h
        exact .handsOn (.deferral rule.1 rule.2 (sound _ _ _ consulted))
      · simp at h
  | _ => simp [elsewhere] at h

/-! ### Warnings of a step -/

section

variable {read : Reader} {v : Json} {path : List String} {c : Context} {r : Results}

/-- The warnings of readings one after the other. -/
def warningsOfAll (read : Reader) (visits : List Visit) : List String :=
  visits.flatMap fun y => (read y.1 y.2).warnings

/-- The warnings of fields are those of each, one after the other. -/
theorem readEach_warnings
    {role : Role} {fields : List (String × Json)} {found : List Found}
    (h : (readEach read role path c fields).outcome = .ok found) :
  (readEach read role path c fields).warnings =
    warningsOfAll read (membersOf role (.object fields) path c)
  := by
  induction fields generalizing found with
  | nil => rfl
  | cons e rest ih =>
    obtain ⟨first, held, others, later, -⟩ := by simpa [readEach] using h
    simp only [readEach, Report.bind_warnings held, Report.bind_warnings_of_pure, ih later]
    rfl

/-- The warnings of members are those of each, one after the other. -/
theorem readMembers_warnings
    {role : Role} (h : (readMembers read role v path c).outcome = .ok r) :
  (readMembers read role v path c).warnings = warningsOfAll read (membersOf role v path c)
  := by
  obtain ⟨fields, rfl, found, held, -⟩ := readMembers_outcome_eq_ok.mp h
  simp only [readMembers, Report.bind_warnings_of_pure, readEach_warnings held]

/-- A definition has the warnings of its parts. -/
theorem readDefinition_warnings :
  (readDefinition read v path c).warnings = warningsOfAll read (partsOfDefinition v path c)
  := by
  simp only [readDefinition, partsOfDefinition]
  split
  · simp_all [warningsOfAll]
  · simp [warningsOfAll]

theorem requireKeyword_warnings
    (v : Json) (keyword : String) :
  (requireKeyword v keyword).warnings = []
  := by
  unfold requireKeyword
  split
  · exact Report.ofOption_warnings _ _
  · rfl

theorem readEnumeration_warnings :
  (readEnumeration v path).warnings = []
  := by
  apply Report.bind_warnings_eq_nil (requireKeyword_warnings _ _)
  · intro value
    apply Report.bind_warnings_eq_nil (Report.ofExcept_warnings _)
    intro elements
    rfl

theorem mustBeObject_warnings
    (path : List String) :
  (mustBeObject path).warnings = []
  := by
  unfold mustBeObject
  split <;> rfl

/-- A concept has the warnings of its parts. -/
theorem readConcept_warnings
    {b : Body} {name : String} (fits : MayBeConcept b path) :
  (readConcept read b name path c).warnings = warningsOfAll read (partsOfConcept b path c)
  := by
  obtain ⟨strict, stands, isObject⟩ := fits
  simp only [readConcept, partsOfConcept, stands, isObject]
  split
  next unset => simp [unset, warningsOfAll]
  next isSet =>
    have isSet : b.getD "properties" ≠ .null := isSet
    simp [isSet, warningsOfAll, Report.bind_warnings_of_pure]

/-- A definition that lists no values warns itself first. -/
theorem readStructural_warnings
    (h : (readStructural read v path c).outcome = .ok r) :
  (readStructural read v path c).warnings =
    (Fragment.message? ⟨.structural, v, path⟩).toList ++
      warningsOfAll read (partsOfStructural v path c)
  := by
  simp only [readStructural, partsOfStructural, Fragment.message?, Fragment.remark?] at h ⊢
  cases rule : (Body.ofJson v).structuralRule with
  | scalar | array => simp [warningsOfAll]
  | alternation =>
    simp only
    rw [Report.bind_warnings (Report.warn_outcome _)]
    simp [warningsOfAll]
  | reference => simp [warningsOfAll]
  | concept =>
    simp only [rule] at h ⊢
    obtain ⟨strict, stands, h⟩ := Report.bind_outcome_eq_ok.mp h
    rw [Report.bind_warnings stands]
    split at h
    · simp at h
    next isObject =>
      have fits : MayBeConcept (Body.ofJson v) path := ⟨strict, stands, by simpa using isObject⟩
      simp [isObject, mustBeObject_warnings, readConcept_warnings fits]

/-- A type warns of a format that is ignored. -/
theorem fieldType_warnings
    {b : Body} {name : String} {type : FieldType} (h : (b.fieldType name).outcome = .ok type) :
  (b.fieldType name).warnings =
    if b.hasType "string" && !b.isDateTime && (b.getD "format").isTruthy then
      [(Warning.formatIgnored (b.getD "format") name).message]
    else []
  := by
  unfold Body.fieldType at h ⊢
  split
  next isString =>
    have isString : b.hasType "string" := by simp [Body.hasType, isString]
    cases date : b.isDateTime with
    | true => simp
    | false =>
      cases held : (b.getD "format").isTruthy <;> simp [isString, Report.bind_warnings_of_pure]
  next other => simp [Body.hasType, other]
  next other => simp [Body.hasType, other]
  next other => simp [Body.hasType, other]
  next => simp at h

/-- A property warns itself first, and last is what it resumes. -/
theorem readProperty_warnings
    (h : (readProperty read v path c).outcome = .ok r) :
  (readProperty read v path c).warnings =
    (Fragment.message? ⟨.property, v, path⟩).toList ++
      warningsOfAll read (partsOfProperty v path c ++ resumedOf read v path c)
  := by
  by_cases name : nameOf path ∈ reservedNames
  · simp [readProperty, partsOfProperty, resumedOf, Fragment.message?, Fragment.remark?, name,
      warningsOfAll]
  · simp only [readProperty, partsOfProperty, resumedOf, Fragment.message?, Fragment.remark?,
      List.contains_iff_mem, name, if_false] at h ⊢
    cases rule : (Body.ofJson v).propertyRule with
    | enumeration | freeform => simp [warningsOfAll]
    | alternation | union types =>
      simp only
      rw [Report.bind_warnings (Report.warn_outcome _)]
      simp [warningsOfAll]
    | array => simp [warningsOfAll]
    | inline => simp [warningsOfAll, Report.bind_warnings_of_pure]
    | primitive =>
      simp only [rule, Report.bind_outcome_eq_ok, Body.primitiveField] at h ⊢
      obtain ⟨_, ⟨type, typed, -⟩, -⟩ := h
      rw [Report.bind_warnings_of_pure, Report.bind_warnings_of_pure, fieldType_warnings typed]
      simp only [warningsOfAll]
      split <;> simp_all
    | reference =>
      simp only [rule] at h ⊢
      obtain ⟨found, consulted, h⟩ := Report.bind_outcome_eq_ok.mp h
      rw [Report.bind_warnings consulted]
      simp only [consulted]
      cases found with
      | nothing => simp [warningsOfAll]
      | one x => cases x <;> simp_all [warningsOfAll, Report.bind_warnings_of_pure]
      | many xs => simp_all [warningsOfAll, Report.bind_warnings_of_pure]

/-- An array warns itself first. -/
theorem readArray_warnings
    (h : (readArray read v path c).outcome = .ok r) :
  (readArray read v path c).warnings =
    (Fragment.message? ⟨.array, v, path⟩).toList ++ warningsOfAll read (partsOfArray v path c)
  := by
  obtain ⟨items, held, h⟩ := Report.bind_outcome_eq_ok.mp h
  rw [readArray, Report.bind_warnings held]
  rw [requireKeyword_outcome_eq_ok] at held
  simp only [requireKeyword_warnings, partsOfArray, Fragment.message?, Fragment.remark?, held]
  cases items with
  | array elements =>
    cases rule : (Body.ofJson v).isTuple with
    | true | false =>
      simp only [Bool.false_eq_true, if_true, if_false]
      rw [Report.bind_warnings (Report.warn_outcome _)]
      simp [warningsOfAll]
  | _ => simp [warningsOfAll]

/-- A tuple has the warnings of its parts. -/
theorem readTuple_warnings
    (h : (readTuple read v path c).outcome = .ok r) :
  (readTuple read v path c).warnings = warningsOfAll read (partsOfTuple v path c)
  := by
  simp only [readTuple, Report.bind_outcome_eq_ok, Report.ofExcept_outcome] at h
  obtain ⟨items, held, greatest, greatestHeld, upTo, isUpTo, elements, lists, least, leastHeld,
    from_, isFrom, -⟩ := h
  have parts : partsOfTuple v path c =
      [(⟨.property, tupleObject elements from_ upTo, path⟩, c)] := by
    rw [requireKeyword_outcome_eq_ok] at held greatestHeld leastHeld
    simp only [partsOfTuple, held, greatestHeld, leastHeld, isUpTo, lists, isFrom]
  rw [readTuple, Report.bind_warnings held, Report.bind_warnings greatestHeld, isUpTo,
    Report.bind_warnings (Report.ofExcept_outcome _), lists,
    Report.bind_warnings (Report.ofExcept_outcome _), Report.bind_warnings leastHeld, isFrom,
    Report.bind_warnings (Report.ofExcept_outcome _), parts]
  simp [warningsOfAll, requireKeyword_warnings]

/-- A local reference has the warnings of what it leads to. -/
theorem readLocalReference_warnings
    (path : List String) (h : (readLocalReference read v c).outcome = .ok r) :
  (readLocalReference read v c).warnings =
    warningsOfAll read (elsewhere read (⟨.localReference, v, path⟩, c))
  := by
  cases v with
  | string reference =>
    obtain ⟨resolved, resolves, h⟩ := Report.bind_outcome_eq_ok.mp h
    rw [readLocalReference, followReference, Report.bind_warnings resolves]
    rw [Report.ofExcept_outcome] at resolves
    obtain ⟨pointer, target⟩ := resolved
    simp only [elsewhere, followedOf, resolves, Report.ofExcept_warnings]
    by_cases fresh : reference ∈ c.traversed
    · cases target <;> simp [fresh, warningsOfAll]
    · cases target <;> simp [fresh, warningsOfAll]
  | _ => simp [readLocalReference] at h

/-- The warnings of a step are its remark, then those of the parts of the fragment, then
those from elsewhere. -/
theorem step_warnings
    {f : Fragment} (inside : f.role ≠ .document) (h : (step read f c).outcome = .ok r) :
  (step read f c).warnings =
    f.message?.toList ++ warningsOfAll read (partsOf (f, c) ++ elsewhere read (f, c))
  := by
  obtain ⟨role, v, path⟩ := f
  have silent {role : Role} (h : role ≠ .structural ∧ role ≠ .property ∧ role ≠ .array) :
      (Fragment.message? ⟨role, v, path⟩).toList = [] := by
    cases role <;> simp_all [Fragment.message?, Fragment.remark?]
  cases role with
  | document => exact absurd rfl inside
  | definitions | properties =>
    simp [step, readMembers_warnings h, silent, partsOf, elsewhere]
  | definition => simp [step, readDefinition_warnings, silent, partsOf, elsewhere]
  | enumeration => simp [step, readEnumeration_warnings, silent, partsOf, elsewhere, warningsOfAll]
  | structural => simp [step, readStructural_warnings h, partsOf, elsewhere]
  | property => simp [step, readProperty_warnings h, partsOf, elsewhere]
  | array => simp [step, readArray_warnings h, partsOf, elsewhere]
  | tuple => simp [step, readTuple_warnings h, silent, partsOf, elsewhere]
  | reference =>
    cases rule : Reference.isLocal v <;>
      simp [step, readReference, rule, silent, partsOf, elsewhere, warningsOfAll,
        Report.bind_warnings_of_pure]
  | localReference =>
    simp [step, readLocalReference_warnings path h, silent, partsOf]
  | unspecified => simp [step] at h

end

/-! ### Reading through -/

/-- The parts of a visit's fragment do not depend on its context. -/
theorem map_fst_partsOf
    (f : Fragment) (c d : Context) :
  (partsOf (f, c)).map Prod.fst = (partsOf (f, d)).map Prod.fst
  := by
  obtain ⟨role, v, path⟩ := f
  have members (role : Role) : (membersOf role v path c).map Prod.fst =
      (membersOf role v path d).map Prod.fst := by
    unfold membersOf
    split <;> simp
  cases role with
  | definitions | properties => exact members _
  | definition =>
    simp only [partsOf, partsOfDefinition]
    split <;> rfl
  | structural =>
    simp only [partsOf, partsOfStructural, partsOfConcept]
    split
    · rfl
    · rfl
    · rfl
    · rfl
    · split
      · split <;> rfl
      · rfl
  | property =>
    simp only [partsOf, partsOfProperty]
    split
    · rfl
    · split <;> rfl
  | array =>
    simp only [partsOf, partsOfArray]
    split
    · split <;> rfl
    · rfl
    · rfl
  | tuple =>
    simp only [partsOf, partsOfTuple]
    split
    · split <;> rfl
    · rfl
  | reference =>
    simp only [partsOf]
    split <;> rfl
  | _ => rfl

namespace Fragment

/-- The parts of a fragment. -/
def parts (f : Fragment) : List Fragment := (partsOf (f, {})).map Prod.fst

/-- In a document without definitions no reference leads to one. -/
theorem definition?_of_empty
    (container : List String) (key : String) :
  definition? (.object []) container key = none
  := by
  have place : placeOf container ≠ [] := by
    unfold placeOf
    split
    · decide
    · assumption
  obtain ⟨first, rest, same⟩ := List.exists_cons_of_ne_nil place
  simp [definition?, same, Json.getPath?, Json.get?, Json.lookup?]

/-- The parts of a fragment weigh less. -/
theorem weight_lt_of_mem_parts
    {f g : Fragment} (fits : f.Fits) (h : g ∈ f.parts) :
  g.weight < f.weight ∧ g.Fits
  := by
  -- In a document without definitions a reading can do nothing but descend.
  rw [parts, map_fst_partsOf f _ { document := .object [] }] at h
  obtain ⟨y, mem, rfl⟩ := List.mem_map.mp h
  have asks := asks_of_mem_partsOf mem
  have inside : f.role ≠ .document := by
    intro document
    simp [partsOf, document] at mem
  refine ⟨?_, fits_of_asks asks⟩
  cases proceeds_of_asks inside fits asks with
  | descends _ weight => exact weight
  | follows _ _ leads => simpa [definition?_of_empty] using leads.definition?
  | defers _ ends =>
    obtain ⟨v, held, -⟩ := ends.definition?
    simp [definition?_of_empty] at held

/-- The fragments that a fragment is read through to, in a number of steps. -/
def insideWithin : Nat → Fragment → List Fragment
  | 0, _ => []
  | steps + 1, f => f :: f.parts.flatMap (insideWithin steps)

/-- The fragments that a fragment is read through to without following references, itself
included. -/
def inside (f : Fragment) : List Fragment := insideWithin (f.weight + 1) f

/-- With enough steps all that is inside a fragment is found. -/
theorem insideWithin_eq
    {f : Fragment} {steps : Nat} (fits : f.Fits) (enough : f.weight < steps) :
  insideWithin steps f = f.inside
  := by
  suffices ∀ {m n : Nat} {f : Fragment}, f.Fits → f.weight < m → f.weight < n →
      insideWithin m f = insideWithin n f from this fits enough (Nat.lt_succ_self _)
  intro m
  induction m with
  | zero => simp
  | succ m ih =>
    intro n f fits hm hn
    obtain ⟨n, rfl⟩ := Nat.exists_eq_succ_of_ne_zero (Nat.ne_zero_of_lt hn)
    rw [insideWithin, insideWithin, List.flatMap_congr]
    intro g mem
    obtain ⟨less, fits⟩ := weight_lt_of_mem_parts fits mem
    exact ih fits (by omega) (by omega)

/-- What is inside a fragment is itself and what is inside its parts. -/
theorem inside_eq
    {f : Fragment} (fits : f.Fits) :
  f.inside = f :: f.parts.flatMap inside
  := by
  rw [inside, insideWithin, List.flatMap_congr]
  intro g mem
  obtain ⟨less, fits⟩ := weight_lt_of_mem_parts fits mem
  exact insideWithin_eq fits less

/-- The messages about what is inside a fragment. -/
def messages (f : Fragment) : List String := f.inside.filterMap message?

/-- The messages of a fragment are its own and those of its parts. -/
theorem messages_eq
    {f : Fragment} (fits : f.Fits) :
  f.messages = f.message?.toList ++ f.parts.flatMap messages
  := by
  rw [messages, inside_eq fits, List.filterMap_cons, List.filterMap_flatMap]
  cases f.message? <;> rfl

end Fragment

end ConceptModel.Inference
