import ConceptModel.Proofs.Inference.Reads
import Mathlib.Logic.Relation

/-!
# Visits

A visit is a fragment with the context in which it is read.  `HandsOn x y` says that the
reading of `x` hands on to `y`, whose results are among those of `x`; `Asks x y` adds the
references that a property consults for a name only.  A step depends on its reader only at
the visits that it asks for: `step_similar`.  So a deeper reader never changes a report
that finishes, and the rules of reading are complete: `reads_iff`.
-/

namespace ConceptModel.Inference

open Relation Text

/-- A fragment with the context in which it is read. -/
abbrev Visit := Fragment × Context

/-! ### What is read on the way -/

/-- The reading of the first fragment hands on to the second one, whose results are among
its own. -/
inductive HandsOn : Visit → Visit → Prop where
  | root {v : Json} {path : List String} {c : Context} {root : String}
      (named : (rootName v).outcome = .ok root) :
      HandsOn (⟨.document, v, path⟩, c) (⟨.definition, v, [root]⟩, c.enter v)
  | container {v : Json} {path : List String} {c : Context} {fields : List (String × Json)}
      (held : (c.enter v).definitions? = some fields) :
      HandsOn (⟨.document, v, path⟩, c)
        (⟨.definitions, .object fields, (c.enter v).container⟩, c.enter v)
  | named {fields : List (String × Json)} {path : List String} {c : Context}
      {key : String} {v : Json} (held : (key, v) ∈ fields) :
      HandsOn (⟨.definitions, .object fields, path⟩, c) (⟨.definition, v, path ++ [key]⟩, c)
  | enumerated {v : Json} {path : List String} {c : Context} {elements : List Json}
      (rule : v.get? "enum" = some (.array elements)) :
      HandsOn (⟨.definition, v, path⟩, c) (⟨.enumeration, v, path⟩, c)
  | structured {v : Json} {path : List String} {c : Context}
      (rule : ∀ elements, v.get? "enum" ≠ some (.array elements)) :
      HandsOn (⟨.definition, v, path⟩, c) (⟨.structural, v, path⟩, c)
  | firstAlternative {v : Json} {path : List String} {c : Context}
      (rule : (Body.ofJson v).structuralRule = .alternation) :
      HandsOn (⟨.structural, v, path⟩, c)
        (⟨.definition, (Body.ofJson v).firstAlternative, path⟩, c)
  | aliased {v : Json} {path : List String} {c : Context}
      (rule : (Body.ofJson v).structuralRule = .reference) :
      HandsOn (⟨.structural, v, path⟩, c) (⟨.reference, (Body.ofJson v).getD "$ref", path⟩, c)
  | concept {v : Json} {path : List String} {c : Context}
      (rule : (Body.ofJson v).structuralRule = .concept)
      (fits : MayBeConcept (Body.ofJson v) path)
      (isSet : (Body.ofJson v).getD "properties" ≠ .null) :
      HandsOn (⟨.structural, v, path⟩, c)
        (⟨.properties, (Body.ofJson v).getD "properties", path ++ ["properties"]⟩,
          { c with required := (Body.ofJson v).required? })
  | member {fields : List (String × Json)} {path : List String} {c : Context}
      {key : String} {v : Json} (held : (key, v) ∈ fields) :
      HandsOn (⟨.properties, .object fields, path⟩, c) (⟨.property, v, path ++ [key]⟩, c)
  | alternation {v : Json} {path : List String} {c : Context}
      (name : nameOf path ∉ reservedNames)
      (rule : (Body.ofJson v).propertyRule = .alternation) :
      HandsOn (⟨.property, v, path⟩, c)
        (⟨.property, .object (Body.ofJson v).flattened, path⟩, c)
  | deferral {v : Json} {path place : List String} {c : Context} {b : Body}
      (name : nameOf path ∉ reservedNames)
      (rule : (Body.ofJson v).propertyRule = .reference)
      (consulted : Reads ⟨.reference, (Body.ofJson v).getD "$ref", path⟩ c.bare
        (.one (.deferred b place))) :
      HandsOn (⟨.property, v, path⟩, c)
        (⟨.property, .object b, place⟩, { c with overrides := { name := some (nameOf path) } })
  | array {v : Json} {path : List String} {c : Context}
      (name : nameOf path ∉ reservedNames)
      (rule : (Body.ofJson v).propertyRule = .array) :
      HandsOn (⟨.property, v, path⟩, c) (⟨.array, .object (Body.ofJson v), path⟩, c)
  | union {v : Json} {path : List String} {c : Context} {types : List Json}
      (name : nameOf path ∉ reservedNames)
      (rule : (Body.ofJson v).propertyRule = .union types) :
      HandsOn (⟨.property, v, path⟩, c)
        (⟨.property, .object (Json.setField "type" (.string "string") (Body.ofJson v)), path⟩,
          { c with
            overrides := { c.overrides with decorators := some [stringifiedUnion types] } })
  | inline {v : Json} {path : List String} {c : Context}
      (name : nameOf path ∉ reservedNames)
      (rule : (Body.ofJson v).propertyRule = .inline) :
      HandsOn (⟨.property, v, path⟩, c)
        (⟨.definition, .object (Body.ofJson v), [pathName path]⟩, c.bare)
  | tupleAsConcept {v : Json} {path : List String} {c : Context} {items : List Json}
      (held : v.get? "items" = some (.array items)) (rule : (Body.ofJson v).isTuple = true) :
      HandsOn (⟨.array, v, path⟩, c) (⟨.tuple, v, path⟩, c)
  | tupleAsText {v : Json} {path : List String} {c : Context} {items : List Json}
      (held : v.get? "items" = some (.array items)) (rule : (Body.ofJson v).isTuple = false) :
      HandsOn (⟨.array, v, path⟩, c)
        (⟨.property, .object [("type", .string "object")], path⟩, c)
  | items {v item : Json} {path : List String} {c : Context}
      (held : v.get? "items" = some item) (rule : item.isArray = false) :
      HandsOn (⟨.array, v, path⟩, c)
        (⟨.property, item, path⟩, { c with overrides := { c.overrides with isArray := some true } })
  | tuple {v items least greatest : Json} {path : List String} {c : Context}
      {elements : List Json} {from_ upTo : Int}
      (held : v.get? "items" = some items) (greatestHeld : v.get? "maxItems" = some greatest)
      (isUpTo : integerOf greatest = .ok upTo) (lists : elementsOf items = .ok elements)
      (leastHeld : v.get? "minItems" = some least) (isFrom : integerOf least = .ok from_) :
      HandsOn (⟨.tuple, v, path⟩, c) (⟨.property, tupleObject elements from_ upTo, path⟩, c)
  | inside {v : Json} {path : List String} {c : Context} (rule : Reference.isLocal v = true) :
      HandsOn (⟨.reference, v, path⟩, c) (⟨.localReference, v, path⟩, c)
  | followed {reference : String} {path : List String} {c : Context}
      {resolved : Reference.Resolved} {v : Json}
      (resolves : Reference.resolve c.document c.container reference = .ok resolved)
      (rule : reference ∉ c.traversed) (leads : resolved.target = .definition v) :
      HandsOn (⟨.localReference, .string reference, path⟩, c)
        (⟨.definition, v, resolved.pointer⟩, { c with traversed := reference :: c.traversed })

/-- The reading of the first fragment asks for the second one: it hands on to it, or it is
a property that consults its reference. -/
inductive Asks : Visit → Visit → Prop where
  | handsOn {x y : Visit} (h : HandsOn x y) : Asks x y
  | consults {v : Json} {path : List String} {c : Context}
      (name : nameOf path ∉ reservedNames)
      (rule : (Body.ofJson v).propertyRule = .reference) :
      Asks (⟨.property, v, path⟩, c) (⟨.reference, (Body.ofJson v).getD "$ref", path⟩, c.bare)

/-- A reading stays in its document. -/
theorem stays_of_asks
    {x y : Visit} (inside : x.1.role ≠ .document) (h : Asks x y) :
  y.2.document = x.2.document ∧ y.2.container = x.2.container ∧ y.1.role ≠ .document
  := by
  cases h with
  | handsOn h =>
    cases h <;> simp at inside ⊢
    all_goals simp [Context.bare]
  | consults => simp [Context.bare]

/-- Visits that are reached from a part of a document stay in it, with the same definitions. -/
theorem stays_of_reached
    {x y : Visit} (inside : x.1.role ≠ .document) (h : ReflTransGen Asks x y) :
  y.2.document = x.2.document ∧ y.2.container = x.2.container ∧ y.1.role ≠ .document
  := by
  induction h with
  | refl => exact ⟨rfl, rfl, inside⟩
  | tail _ step ih =>
    obtain ⟨sameDocument, sameContainer, inside⟩ := ih
    have stays := stays_of_asks inside step
    exact ⟨stays.1.trans sameDocument, stays.2.1.trans sameContainer, stays.2.2⟩

/-! ### Failures of a step of its own -/

theorem listed_ne_endless
    (v : Json) :
  listed v ≠ .error .endlessReferences
  := by
  cases v <;> simp [listed]

theorem elementsOf_ne_endless
    (v : Json) :
  elementsOf v ≠ .error .endlessReferences
  := by
  cases v <;> simp [elementsOf]

theorem integerOf_ne_endless
    (v : Json) :
  integerOf v ≠ .error .endlessReferences
  := by
  unfold integerOf
  split
  · simp
  · split
    · simp
    · split <;> simp
  · split <;> simp
  · simp

theorem resolve_ne_endless
    (document : Json) (container : List String) (reference : String) :
  Reference.resolve document container reference ≠ .error .endlessReferences
  := by
  unfold Reference.resolve
  split <;> simp

/-- Looking up a keyword comes to an end. -/
theorem finishes_requireKeyword
    (v : Json) (keyword : String) :
  (requireKeyword v keyword).Finishes
  := by
  unfold requireKeyword
  split
  · apply Report.finishes_ofOption (by simp)
  · apply Report.finishes_fail (by simp)

/-- Deciding whether a definition must be an object comes to an end. -/
theorem finishes_mustBeObject
    (path : List String) :
  (mustBeObject path).Finishes
  := by
  unfold mustBeObject
  split
  · apply Report.finishes_fail (by simp)
  · apply Report.finishes_pure
  · apply Report.finishes_pure

/-- A primitive field has the type that its keywords name, and their default and validator. -/
theorem primitiveField_outcome_eq_ok
    {b : Body} {name : String} {base : FieldBase} {f : Field} :
  (b.primitiveField name base).outcome = .ok f ↔ ∃ type, (b.fieldType name).outcome = .ok type ∧
    f = { base.field type with defaultValue := b.defaultValue?, validator := b.validator? }
  := by
  simp only [Body.primitiveField, Report.bind_outcome_eq_ok, Report.pure_outcome, Except.ok.injEq,
    eq_comm (a := f)]

/-- Building a primitive field comes to an end. -/
theorem finishes_primitiveField
    (b : Body) (name : String) (base : FieldBase) :
  (b.primitiveField name base).Finishes
  := by
  unfold Body.primitiveField
  apply Report.finishes_bind
  · unfold Body.fieldType
    split
    · split
      · apply Report.finishes_pure
      · split
        · apply Report.finishes_bind (Report.finishes_warn _)
          intro _ _
          apply Report.finishes_pure
        · apply Report.finishes_pure
    · apply Report.finishes_pure
    · apply Report.finishes_pure
    · apply Report.finishes_pure
    · apply Report.finishes_fail (by simp)
  · intro _ _
    apply Report.finishes_pure

/-- The check of a document comes to an end. -/
theorem check_ne_endless
    (d : Dialect) (v : Json) :
  d.check v ≠ .error .endlessReferences
  := by
  unfold Dialect.check
  split <;> simp

/-- The choice of a dialect comes to an end. -/
theorem ofDocument_ne_endless
    (v : Json) :
  Dialect.ofDocument v ≠ .error .endlessReferences
  := by
  unfold Dialect.ofDocument
  split
  · split
    · simp
    · unfold Dialect.named
      split
      · simp
      · split <;> simp
    · simp
    · simp
    · split <;> simp
  · simp
  · split <;> simp
  · split <;> simp
  · simp
  · simp

theorem schemaId_ne_endless
    (v : Json) :
  SchemaId.ofJson? v ≠ .error .endlessReferences
  := by
  unfold SchemaId.ofJson?
  split
  · split
    · simp
    · split <;> simp
  · simp

/-- The name of the root is found or missing. -/
theorem finishes_rootName
    (v : Json) :
  (rootName v).Finishes
  := by
  unfold rootName checkDocument
  apply Report.finishes_bind
  · apply Report.finishes_bind (Report.finishes_ofExcept (ofDocument_ne_endless v))
    intro d _
    apply Report.finishes_bind (Report.finishes_note _)
    intro _ _
    apply Report.finishes_ofExcept (check_ne_endless d v)
  · intro _ _
    apply Report.finishes_bind (Report.finishes_ofExcept (schemaId_ne_endless _))
    intro id _
    split
    · apply Report.finishes_pure
    · split <;> apply Report.finishes_pure

/-! ### What a step depends on -/

/-- The context with its document changed. -/
def Context.mapDocument (g : Json → Json) (c : Context) : Context :=
  { c with document := g c.document }

/-- What a field takes from its place does not depend on the document. -/
theorem fieldBase_mapDocument
    (g : Json → Json) (name : String) (c : Context) :
  fieldBase name (c.mapDocument g) = fieldBase name c
  := rfl

section Similar

variable {Rel : {α : Type} → Report α → Report α → Prop} (similar : Report.Similarity Rel)
  {read read' : Reader} {g : Json → Json}
include similar

/-- The readings of fields are related if those of each field are. -/
theorem readEach_similar
    {role : Role} {path : List String} {c : Context} {fields : List (String × Json)}
    (h : ∀ e ∈ fields, Rel (read ⟨role, e.2, path ++ [e.1]⟩ c)
      (read' ⟨role, e.2, path ++ [e.1]⟩ (c.mapDocument g))) :
  Rel (readEach read role path c fields) (readEach read' role path (c.mapDocument g) fields)
  := by
  induction fields with
  | nil => apply similar.refl (Report.finishes_pure _)
  | cons e rest ih =>
    apply similar.bind (h e (by simp))
    intro found _
    apply similar.bind (ih fun e he => h e (by simp [he]))
    intro others _
    apply similar.refl (Report.finishes_pure _)

/-- The readings of members are related if those of each member are. -/
theorem readMembers_similar
    {role : Role} {v : Json} {path : List String} {c : Context}
    (h : ∀ fields, v = .object fields → ∀ e ∈ fields, Rel (read ⟨role, e.2, path ++ [e.1]⟩ c)
      (read' ⟨role, e.2, path ++ [e.1]⟩ (c.mapDocument g))) :
  Rel (readMembers read role v path c) (readMembers read' role v path (c.mapDocument g))
  := by
  unfold readMembers
  split
  next fields =>
    apply similar.bind (readEach_similar similar (h fields rfl))
    intro _ _
    apply similar.refl (Report.finishes_pure _)
  next => apply similar.refl (Report.finishes_fail (by simp))

omit similar in
/-- The readings of a definition are related if those of all that it asks for are. -/
theorem readDefinition_similar
    {v : Json} {path : List String} {c : Context}
    (h : ∀ y, Asks (⟨.definition, v, path⟩, c) y →
      Rel (read y.1 y.2) (read' y.1 (y.2.mapDocument g))) :
  Rel (readDefinition read v path c) (readDefinition read' v path (c.mapDocument g))
  := by
  unfold readDefinition
  split
  next rule => apply h _ (.handsOn (.enumerated rule))
  next rule => apply h _ (.handsOn (.structured rule))

/-- The readings of a definition without values are related if those of all that it asks for are. -/
theorem readStructural_similar
    {v : Json} {path : List String} {c : Context}
    (h : ∀ y, Asks (⟨.structural, v, path⟩, c) y →
      Rel (read y.1 y.2) (read' y.1 (y.2.mapDocument g))) :
  Rel (readStructural read v path c) (readStructural read' v path (c.mapDocument g))
  := by
  simp only [readStructural]
  cases rule : (Body.ofJson v).structuralRule with
  | scalar => apply similar.refl (Report.finishes_pure _)
  | array => apply similar.refl (Report.finishes_pure _)
  | alternation =>
    apply similar.bind (similar.refl (Report.finishes_warn _))
    intro _ _
    apply h _ (.handsOn (.firstAlternative rule))
  | reference => apply h _ (.handsOn (.aliased rule))
  | concept =>
    apply similar.bind (similar.refl (finishes_mustBeObject path))
    intro strict hs
    split
    · apply similar.refl (Report.finishes_fail (by simp))
    next isObject =>
      have fits : MayBeConcept (Body.ofJson v) path := ⟨strict, hs, by simpa using isObject⟩
      unfold readConcept
      split
      · apply similar.refl (Report.finishes_pure _)
      next isSet =>
        apply similar.bind (h _ (.handsOn (.concept rule fits isSet)))
        intro _ _
        apply similar.refl (Report.finishes_pure _)

/-- The readings of a property are related if those of all that it asks for are. -/
theorem readProperty_similar
    (sound : ∀ f c r, (read f c).outcome = .ok r → Reads f c r)
    {v : Json} {path : List String} {c : Context}
    (h : ∀ y, Asks (⟨.property, v, path⟩, c) y →
      Rel (read y.1 y.2) (read' y.1 (y.2.mapDocument g))) :
  Rel (readProperty read v path c) (readProperty read' v path (c.mapDocument g))
  := by
  by_cases name : nameOf path ∈ reservedNames
  · simp only [readProperty, List.contains_iff_mem, name, if_true]
    apply similar.refl (Report.finishes_pure _)
  · simp only [readProperty, List.contains_iff_mem, name, if_false, fieldBase_mapDocument]
    cases rule : (Body.ofJson v).propertyRule with
    | enumeration elements => apply similar.refl (Report.finishes_pure _)
    | alternation =>
      apply similar.bind (similar.refl (Report.finishes_warn _))
      intro _ _
      apply h _ (.handsOn (.alternation name rule))
    | reference =>
      apply similar.bind (h _ (.consults name rule))
      intro referenced hr
      split
      · apply similar.refl (Report.finishes_pure _)
      · apply h _ (.handsOn (.deferral name rule (sound _ _ _ hr)))
      · apply similar.bind (similar.refl (Report.finishes_ofOption (by simp) _))
        intro _ _
        apply similar.refl (Report.finishes_pure _)
    | array => apply h _ (.handsOn (.array name rule))
    | union types =>
      apply similar.bind (similar.refl (Report.finishes_warn _))
      intro _ _
      apply h _ (.handsOn (.union name rule))
    | freeform => apply similar.refl (Report.finishes_pure _)
    | inline =>
      apply similar.bind (h _ (.handsOn (.inline name rule)))
      intro _ _
      apply similar.refl (Report.finishes_pure _)
    | primitive =>
      apply similar.bind (similar.refl (finishes_primitiveField _ _ _))
      intro _ _
      apply similar.refl (Report.finishes_pure _)

/-- The readings of an array are related if those of all that it asks for are. -/
theorem readArray_similar
    {v : Json} {path : List String} {c : Context}
    (h : ∀ y, Asks (⟨.array, v, path⟩, c) y →
      Rel (read y.1 y.2) (read' y.1 (y.2.mapDocument g))) :
  Rel (readArray read v path c) (readArray read' v path (c.mapDocument g))
  := by
  apply similar.bind (similar.refl (finishes_requireKeyword _ _))
  intro items held
  rw [requireKeyword_outcome_eq_ok] at held
  split
  next elements =>
    split
    next rule =>
      apply similar.bind (similar.refl (Report.finishes_warn _))
      intro _ _
      apply h _ (.handsOn (.tupleAsConcept held rule))
    next rule =>
      apply similar.bind (similar.refl (Report.finishes_warn _))
      intro _ _
      apply h _ (.handsOn (.tupleAsText held (by simpa using rule)))
  next noArray => apply h _ (.handsOn (.items held (Json.isArray_eq_false noArray)))

/-- The readings of a tuple are related if those of all that it asks for are. -/
theorem readTuple_similar
    {v : Json} {path : List String} {c : Context}
    (h : ∀ y, Asks (⟨.tuple, v, path⟩, c) y →
      Rel (read y.1 y.2) (read' y.1 (y.2.mapDocument g))) :
  Rel (readTuple read v path c) (readTuple read' v path (c.mapDocument g))
  := by
  apply similar.bind (similar.refl (finishes_requireKeyword _ _))
  intro items held
  apply similar.bind (similar.refl (finishes_requireKeyword _ _))
  intro greatest greatestHeld
  apply similar.bind (similar.refl (Report.finishes_ofExcept (integerOf_ne_endless _)))
  intro upTo isUpTo
  apply similar.bind (similar.refl (Report.finishes_ofExcept (elementsOf_ne_endless _)))
  intro elements lists
  apply similar.bind (similar.refl (finishes_requireKeyword _ _))
  intro least leastHeld
  apply similar.bind (similar.refl (Report.finishes_ofExcept (integerOf_ne_endless _)))
  intro from_ isFrom
  rw [requireKeyword_outcome_eq_ok] at held greatestHeld leastHeld
  rw [Report.ofExcept_outcome] at isUpTo lists isFrom
  apply h _ (.handsOn (.tuple held greatestHeld isUpTo lists leastHeld isFrom))

/-- The readings of a reference are related if those of all that it asks for are. -/
theorem readReference_similar
    {v : Json} {path : List String} {c : Context}
    (h : ∀ y, Asks (⟨.reference, v, path⟩, c) y →
      Rel (read y.1 y.2) (read' y.1 (y.2.mapDocument g))) :
  Rel (readReference read v path c) (readReference read' v path (c.mapDocument g))
  := by
  unfold readReference
  split
  next rule => apply h _ (.handsOn (.inside rule))
  next =>
    apply similar.bind (similar.refl (Report.finishes_note _))
    intro _ _
    apply similar.refl (Report.finishes_pure _)

/-- The readings of a local reference that leads to one place in both documents are related if those
of all that it asks for are. -/
theorem readLocalReference_similar
    {v : Json} {path : List String} {c : Context}
    (same : ∀ reference, v = .string reference →
      Reference.resolve (g c.document) c.container reference =
        Reference.resolve c.document c.container reference)
    (h : ∀ y, Asks (⟨.localReference, v, path⟩, c) y →
      Rel (read y.1 y.2) (read' y.1 (y.2.mapDocument g))) :
  Rel (readLocalReference read v c) (readLocalReference read' v (c.mapDocument g))
  := by
  cases v with
  | string reference =>
    simp only [readLocalReference, followReference, Context.mapDocument, same reference rfl]
    apply similar.bind (similar.refl (Report.finishes_ofExcept (resolve_ne_endless _ _ _)))
    intro resolved resolves
    rw [Report.ofExcept_outcome] at resolves
    by_cases rule : reference ∈ c.traversed
    · simp only [List.contains_iff_mem, rule, if_true]
      apply similar.refl (Report.finishes_pure _)
    · simp only [List.contains_iff_mem, rule, if_false]
      cases leads : resolved.target with
      | definition w => apply h _ (.handsOn (.followed resolves rule leads))
      | _ => apply similar.refl (Report.finishes_pure _)
  | _ => apply similar.refl (Report.finishes_fail (by simp))

/-- The readings of a document are related if those of all that it asks for are. -/
theorem readDocument_similar
    {v : Json} {path : List String} {c : Context}
    (h : ∀ y, Asks (⟨.document, v, path⟩, c) y → Rel (read y.1 y.2) (read' y.1 y.2)) :
  Rel (readDocument read v c) (readDocument read' v c)
  := by
  apply similar.bind (similar.refl (finishes_rootName v))
  intro root named
  apply similar.bind (similar.refl (Report.finishes_note _))
  intro _ _
  apply similar.bind (h _ (.handsOn (.root named)))
  intro fromRoot _
  apply similar.bind
  · unfold readContainer
    split
    next fields held => apply h _ (.handsOn (.container held))
    next => apply similar.refl (Report.finishes_pure _)
  · intro fromDefinitions _
    apply similar.bind (similar.refl (Report.finishes_note _))
    intro _ _
    apply similar.refl (Report.finishes_pure _)

/-- A step depends on its reader only at the visits that it asks for, and on the document
only by what its references lead to. -/
theorem step_similar
    (sound : ∀ f c r, (read f c).outcome = .ok r → Reads f c r) {f : Fragment} {c : Context}
    (inside : f.role ≠ .document)
    (same : ∀ reference, f.role = .localReference → f.body = .string reference →
      Reference.resolve (g c.document) c.container reference =
        Reference.resolve c.document c.container reference)
    (h : ∀ y, Asks (f, c) y → Rel (read y.1 y.2) (read' y.1 (y.2.mapDocument g))) :
  Rel (step read f c) (step read' f (c.mapDocument g))
  := by
  obtain ⟨role, v, path⟩ := f
  cases role with
  | document => exact absurd rfl inside
  | definitions =>
    apply readMembers_similar similar
    rintro fields rfl e he
    apply h _ (.handsOn (.named he))
  | definition => apply readDefinition_similar h
  | enumeration =>
    apply similar.bind (similar.refl (finishes_requireKeyword _ _))
    intro value _
    apply similar.bind (similar.refl (Report.finishes_ofExcept (listed_ne_endless _)))
    intro _ _
    apply similar.refl (Report.finishes_pure _)
  | structural => apply readStructural_similar similar h
  | properties =>
    apply readMembers_similar similar
    rintro fields rfl e he
    apply h _ (.handsOn (.member he))
  | property => apply readProperty_similar similar sound h
  | array => apply readArray_similar similar h
  | tuple => apply readTuple_similar similar h
  | reference => apply readReference_similar similar h
  | localReference => apply readLocalReference_similar similar (same · rfl) h
  | unspecified => apply similar.refl (Report.finishes_fail (by simp))

/-- A step depends on its reader only at the visits that it asks for. -/
theorem step_similar_id
    (sound : ∀ f c r, (read f c).outcome = .ok r → Reads f c r) {f : Fragment} {c : Context}
    (h : ∀ y, Asks (f, c) y → Rel (read y.1 y.2) (read' y.1 y.2)) :
  Rel (step read f c) (step read' f c)
  := by
  obtain ⟨role, v, path⟩ := f
  by_cases inside : role = .document
  · subst inside
    exact readDocument_similar similar h
  · apply step_similar similar (g := id) sound inside (fun _ _ _ => rfl) h

end Similar

/-! ### Depth -/

/-- A deeper reading has the result of one that is not given up. -/
theorem readWithin_below
    (depth : Nat) (f : Fragment) (c : Context) :
  Report.Below (readWithin depth f c) (readWithin (depth + 1) f c)
  := by
  induction depth generalizing f c with
  | zero => exact fun h => absurd rfl h
  | succ depth ih =>
    apply step_similar_id Report.similarity_below (fun _ _ _ => reads_of_readWithin)
    intro y _
    apply ih

/-- A report that finishes is that of every deeper reader. -/
theorem readWithin_eq_of_le
    {depth deeper : Nat} (le : depth ≤ deeper) {f : Fragment} {c : Context}
    (h : (readWithin depth f c).Finishes) :
  readWithin deeper f c = readWithin depth f c
  := by
  induction le with
  | refl => rfl
  | step _ ih =>
    rw [← ih] at h ⊢
    apply readWithin_below _ f c h

/-- A step finishes when all that it asks for do. -/
theorem finishes_readWithin_succ
    {depth : Nat} {f : Fragment} {c : Context}
    (h : ∀ y, Asks (f, c) y → (readWithin depth y.1 y.2).Finishes) :
  (readWithin (depth + 1) f c).Finishes
  := by
  have sound : ∀ f c r, (readWithin depth f c).outcome = .ok r → Reads f c r :=
    fun _ _ _ => reads_of_readWithin
  exact @step_similar_id _ Report.similarity_finishes _ (readWithin depth) sound f c h

/-- A visit finishes within a depth that exceeds its measure, if what it asks for measures
less. -/
theorem finishes_of_measure_lt
    {P : Visit → Prop} {measure : Visit → Nat}
    (step : ∀ x y, P x → Asks x y → P y ∧ measure y < measure x) {x : Visit} (holds : P x)
    {depth : Nat} (h : measure x < depth) :
  (readWithin depth x.1 x.2).Finishes
  := by
  induction depth generalizing x with
  | zero => omega
  | succ depth ih =>
    apply finishes_readWithin_succ
    intro y asks
    obtain ⟨holds, less⟩ := step x y holds asks
    apply ih holds
    omega

/-! ### Completeness -/

/-- A result within a depth is the result within any greater one. -/
theorem outcome_eq_ok_of_le
    {depth deeper : Nat} (le : depth ≤ deeper) {f : Fragment} {c : Context} {r : Results}
    (h : (readWithin depth f c).outcome = .ok r) :
  (readWithin deeper f c).outcome = .ok r
  := by
  rw [readWithin_eq_of_le le (Report.finishes_of_outcome_eq_ok h), h]

/-- Fields that are each read within some depth are all read within one. -/
theorem exists_depth_of_forall
    {role : Role} {path : List String} {c : Context} {fields : List (String × Json)}
    {each : String × Json → Results}
    (h : ∀ e ∈ fields, ∃ depth,
      (readWithin depth ⟨role, e.2, path ++ [e.1]⟩ c).outcome = .ok (each e)) :
  ∃ depth, ∀ e ∈ fields,
    (readWithin depth ⟨role, e.2, path ++ [e.1]⟩ c).outcome = .ok (each e)
  := by
  induction fields with
  | nil => exact ⟨0, by simp⟩
  | cons e rest ih =>
    obtain ⟨depth, hrest⟩ := ih fun e he => h e (by simp [he])
    obtain ⟨depth', hfirst⟩ := h e (by simp)
    use max depth depth'
    simp only [List.mem_cons, forall_eq_or_imp]
    constructor
    · apply outcome_eq_ok_of_le (by omega) hfirst
    · intro e he
      apply outcome_eq_ok_of_le (by omega) (hrest e he)

/-- What follows by the rules is what readers of some depth yield. -/
theorem exists_depth_of_reads
    {f : Fragment} {c : Context} {r : Results} (h : Reads f c r) :
  ∃ depth, (readWithin depth f c).outcome = .ok r
  := by
  induction h with
  | document named held _ _ first second =>
    obtain ⟨depth, first⟩ := first
    obtain ⟨depth', second⟩ := second
    use max depth depth' + 1
    have first := outcome_eq_ok_of_le (Nat.le_max_left depth depth') first
    have second := outcome_eq_ok_of_le (Nat.le_max_right depth depth') second
    simp [readWithin, step, readDocument, readContainer, named, held, first, second]
  | rootOnly named held _ first =>
    obtain ⟨depth, first⟩ := first
    use depth + 1
    simp [readWithin, step, readDocument, readContainer, named, held, first, Nested.flatten]
  | definitions _ each | properties _ each =>
    obtain ⟨depth, each⟩ := exists_depth_of_forall each
    use depth + 1
    have found := readEach_outcome_eq_ok.mpr ⟨_, each, rfl⟩
    simp [readWithin, step, readMembers, found]
  | enumerated rule _ next =>
    obtain ⟨depth, next⟩ := next
    use depth + 1
    simp [readWithin, step, readDefinition, rule, next]
  | structured rule _ next =>
    obtain ⟨depth, next⟩ := next
    use depth + 1
    simp [readWithin, step, readDefinition, next]
  | enumeration held lists =>
    use 1
    simp [readWithin, step, readEnumeration, requireKeyword_outcome_eq_ok.mpr held, lists]
  | scalar rule | deferred rule =>
    use 1
    simp [readWithin, step, readStructural, rule]
  | firstAlternative rule _ next | aliased rule _ next =>
    obtain ⟨depth, next⟩ := next
    use depth + 1
    simp [readWithin, step, readStructural, rule, next]
  | unset rule fits unset =>
    obtain ⟨strict, stands, isObject⟩ := fits
    use 1
    simp only [readWithin, step, readStructural, rule, Report.bind_outcome_eq_ok]
    use strict, stands
    simp [isObject, readConcept, unset]
  | concept rule fits isSet _ next =>
    obtain ⟨strict, stands, isObject⟩ := fits
    obtain ⟨depth, next⟩ := next
    use depth + 1
    simp only [readWithin, step, readStructural, rule, Report.bind_outcome_eq_ok]
    use strict, stands
    simp [isObject, readConcept, next]
  | reserved name =>
    use 1
    simp [readWithin, step, readProperty, name]
  | choice name rule | freeform name rule =>
    use 1
    simp [readWithin, step, readProperty, name, rule]
  | alternation name rule _ next | array name rule _ next | union name rule _ next
  | inline name rule _ next =>
    obtain ⟨depth, next⟩ := next
    use depth + 1
    simp [readWithin, step, readProperty, name, rule, next]
  | dropped name rule _ consulted =>
    obtain ⟨depth, consulted⟩ := consulted
    use depth + 1
    simp [readWithin, step, readProperty, name, rule, consulted]
  | deferral name rule _ _ consulted next =>
    obtain ⟨depth, consulted⟩ := consulted
    obtain ⟨depth', next⟩ := next
    use max depth depth' + 1
    have consulted := outcome_eq_ok_of_le (Nat.le_max_left depth depth') consulted
    have next := outcome_eq_ok_of_le (Nat.le_max_right depth depth') next
    simp [readWithin, step, readProperty, name, rule, consulted, next]
  | @referral _ _ _ found _ name rule _ names consulted =>
    obtain ⟨depth, consulted⟩ := consulted
    use depth + 1
    simp only [readWithin, step, readProperty, List.contains_iff_mem, name, if_false, rule,
      Report.bind_outcome_eq_ok]
    use found, consulted
    split
    · simp [referencedName] at names
    · simp [referencedName] at names
    · simp [names]
  | primitive name rule built =>
    use 1
    simp [readWithin, step, readProperty, name, rule, built]
  | tupleAsConcept held rule _ next | tupleAsText held rule _ next =>
    obtain ⟨depth, next⟩ := next
    use depth + 1
    simp [readWithin, step, readArray, requireKeyword_outcome_eq_ok.mpr held, rule, next]
  | @items _ item _ _ _ held rule _ next =>
    obtain ⟨depth, next⟩ := next
    use depth + 1
    simp only [readWithin, step, readArray, Report.bind_outcome_eq_ok,
      requireKeyword_outcome_eq_ok]
    use item, held
    cases item with
    | array elements => simp [Json.isArray] at rule
    | _ => exact next
  | tuple held greatestHeld isUpTo lists leastHeld isFrom _ next =>
    obtain ⟨depth, next⟩ := next
    use depth + 1
    simp [readWithin, step, readTuple, requireKeyword_outcome_eq_ok.mpr held,
      requireKeyword_outcome_eq_ok.mpr greatestHeld, requireKeyword_outcome_eq_ok.mpr leastHeld,
      isUpTo, isFrom, lists, next]
  | remote rule =>
    use 1
    simp [readWithin, step, readReference, rule]
  | inside rule _ next =>
    obtain ⟨depth, next⟩ := next
    use depth + 1
    simp [readWithin, step, readReference, rule, next]
  | traversed resolves rule =>
    use 1
    simp [readWithin, step, readLocalReference, followReference, resolves, rule]
  | named resolves rule leads =>
    use 1
    simp [readWithin, step, readLocalReference, followReference, resolves, rule]
  | followed resolves rule leads _ next =>
    obtain ⟨depth, next⟩ := next
    use depth + 1
    simp [readWithin, step, readLocalReference, followReference, resolves, rule, leads, next]

/-- The rules of reading derive what readers of some depth yield. -/
theorem reads_iff
    {f : Fragment} {c : Context} {r : Results} :
  Reads f c r ↔ ∃ depth, (readWithin depth f c).outcome = .ok r
  := by
  constructor
  · exact exists_depth_of_reads
  · rintro ⟨depth, h⟩
    apply reads_of_readWithin h

/-- A fragment has one result in a context. -/
theorem Reads.unique
    {f : Fragment} {c : Context} {r s : Results} (hr : Reads f c r) (hs : Reads f c s) :
  r = s
  := by
  obtain ⟨depth, hr⟩ := exists_depth_of_reads hr
  obtain ⟨depth', hs⟩ := exists_depth_of_reads hs
  have hr := outcome_eq_ok_of_le (Nat.le_max_left depth depth') hr
  have hs := outcome_eq_ok_of_le (Nat.le_max_right depth depth') hs
  simpa [hr] using hs

/-- What is a result of a fragment is its only one. -/
theorem Reads.eq_iff
    {f : Fragment} {c : Context} {r found : Results} (h : Reads f c r) :
  Reads f c found ↔ found = r
  := by
  constructor
  · exact fun other => other.unique h
  · rintro rfl
    exact h

end ConceptModel.Inference
