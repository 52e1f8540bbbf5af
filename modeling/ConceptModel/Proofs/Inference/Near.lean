import ConceptModel.Proofs.Inference.Models
import ConceptModel.Proofs.Json.Altered

/-!
# Reading altered documents

Documents may differ in the object at one place, that of their definitions.  What is read
inside of one of them is read as before in the other one, as long as its references lead to
the same: `readWithin_mapDocument`.  The bodies of both are `Near`, so that the root is read
as before as well, with the same events and the same declarations, when the definitions do
not stand among its properties: `likewise_root`.
-/

namespace ConceptModel.Inference

open Json

/-! ### References -/

/-- What is read inside a document depends on the document only by what its references lead
to. -/
theorem readWithin_mapDocument
    {v w : Json} {container : List String}
    (same : ∀ r ∈ v.references,
      Reference.resolve w container r = Reference.resolve v container r)
    {depth : Nat} {x : Visit} (inside : Inside v container x) :
  readWithin depth x.1 x.2 = readWithin depth x.1 (x.2.mapDocument fun _ => w)
  := by
  induction depth generalizing x with
  | zero => rfl
  | succ depth ih =>
    apply step_similar Report.similarity_eq
    · exact fun _ _ _ => reads_of_readWithin
    · exact inside.role
    · intro reference role body
      rw [inside.document_eq, inside.container_eq]
      apply same reference
      obtain ⟨⟨_, _, path⟩, c⟩ := x
      obtain ⟨rfl, rfl⟩ : _ = Role.localReference ∧ _ = Json.string reference := ⟨role, body⟩
      exact inside.references (mem_references_of_fits inside.fits)
    · intro y asks
      exact ih (inside.asks asks)

/-! ### The root -/

/-- Whether two bodies hold the same under every keyword but for objects. -/
structure Near (b b' : Body) : Prop where
  filled : b.isEmpty = false
  filled' : b'.isEmpty = false
  values : ∀ keyword, b'.getD keyword = b.getD keyword ∨
    ∃ fields fields', b.getD keyword = .object fields ∧ b'.getD keyword = .object fields'

section

variable {b b' : Body} (near : Near b b')
include near

/-- What does not depend on the fields of an object is the same for near bodies. -/
theorem Near.congr
    {α : Type} (f : Json → α) (blind : ∀ fields fields', f (.object fields') = f (.object fields))
    (keyword : String) :
  f (b'.getD keyword) = f (b.getD keyword)
  := by
  obtain same | ⟨fields, fields', held, held'⟩ := near.values keyword
  · rw [same]
  · rw [held, held']
    apply blind

theorem Near.hasType
    (name : String) :
  b'.hasType name = b.hasType name
  := near.congr (fun v => decide (v = .string name)) (by simp) "type"

theorem Near.isAlternation :
  b'.isAlternation = b.isAlternation
  := by
  simp only [Body.isAlternation, near.congr isTruthy (fun _ _ => rfl)]

theorem Near.isReference :
  b'.isReference = b.isReference
  := near.congr isString (fun _ _ => rfl) "$ref"

theorem Near.isFreeform :
  b'.isFreeform = b.isFreeform
  := by
  simp only [Body.isFreeform, near.filled, near.filled', near.hasType,
    near.congr isObject (fun _ _ => rfl), near.congr (fun v => decide (v = .bool true)) (by simp)]

/-- Bodies that are near are read by one rule. -/
theorem Near.structuralRule :
  b'.structuralRule = b.structuralRule
  := by
  simp only [Body.structuralRule, near.isFreeform, near.hasType, near.isAlternation,
    near.isReference]

theorem Near.alternationKeyword :
  b'.alternationKeyword = b.alternationKeyword
  := by
  simp only [Body.alternationKeyword, near.congr isTruthy (fun _ _ => rfl)]

/-- Bodies that are near have one first alternative. -/
theorem Near.firstAlternative :
  b'.firstAlternative = b.firstAlternative
  := by
  unfold Body.firstAlternative
  rw [near.alternationKeyword]
  obtain same | ⟨fields, fields', held, held'⟩ := near.values b.alternationKeyword
  · rw [same]
  · rw [held, held']

theorem Near.required? :
  b'.required? = b.required?
  := by
  unfold Body.required?
  obtain same | ⟨fields, fields', held, held'⟩ := near.values "required"
  · rw [same]
  · rw [held, held']

/-- Near bodies list their values under the same conditions. -/
theorem Near.get?_enum
    (elements : List Json) :
  b'.get? "enum" = some (.array elements) ↔ b.get? "enum" = some (.array elements)
  := by
  rw [Body.get?_eq_array_iff, Body.get?_eq_array_iff]
  obtain same | ⟨fields, fields', held, held'⟩ := near.values "enum"
  · rw [same]
  · simp [held, held']

end

theorem Near.symm
    {b b' : Body} (near : Near b b') :
  Near b' b
  where
  filled := near.filled'
  filled' := near.filled
  values keyword := by
    obtain same | ⟨fields, fields', held, held'⟩ := near.values keyword
    · exact .inl same.symm
    · exact .inr ⟨fields', fields, held', held⟩

/-- A field that is altered changes no other keyword. -/
theorem getD_of_altered
    {fields fields' : List (String × Json)} {key keyword : String}
    (altered : Altered key fields fields') (other : keyword ≠ key) :
  Body.getD fields' keyword = Body.getD fields keyword
  := by
  simp only [Body.getD, Body.get?, altered.lookup?_of_ne other]

/-- Documents that differ in the object under one key have near bodies. -/
theorem near_of_altered
    {fields fields' : List (String × Json)} {key : String}
    (altered : Altered key fields fields') :
  Near fields fields'
  := by
  obtain ⟨filled, filled'⟩ := altered.filled
  refine ⟨filled, filled', ?_⟩
  intro keyword
  by_cases same : keyword = key
  · subst same
    obtain ⟨inner, inner', held, held'⟩ := altered.objects
    right
    use inner, inner'
    simp [Body.getD, Body.get?, held, held']
  · exact .inl (getD_of_altered altered same)

/-- Documents with near bodies have one name for their roots, if both are schemas. -/
theorem rootName_of_near
    {fields fields' : List (String × Json)} (near : Near fields fields')
    (checked : (checkDocument (.object fields')).outcome = .ok ()) {root : String}
    (h : (rootName (.object fields)).outcome = .ok root) :
  (rootName (.object fields')).outcome = .ok root
  := by
  obtain ⟨_, -, h⟩ := Report.bind_outcome_eq_ok.mp h
  apply Report.bind_outcome_eq_ok.mpr
  use (), checked
  simp only [Body.ofJson_object] at h ⊢
  rw [near.congr SchemaId.ofJson? (fun _ _ => rfl) "$id"]
  obtain ⟨id, suggests, h⟩ := Report.bind_outcome_eq_ok.mp h
  apply Report.bind_outcome_eq_ok.mpr
  use id, suggests
  cases id with
  | some id => exact h
  | none =>
    obtain same | ⟨inner, inner', held, held'⟩ := near.values "title"
    · simpa only [same] using h
    · simpa only [held, held'] using h

/-! ### Declarations of the root -/

/-- Whether two reports have the same events, and the same declarations if any. -/
structure Likewise (r s : Report Results) : Prop where
  events : s.events = r.events
  declarations : s.outcome.toOption.map declarationsIn = r.outcome.toOption.map declarationsIn

theorem Likewise.of_eq
    {r s : Report Results} (h : r = s) :
  Likewise r s
  := by
  subst h
  exact ⟨rfl, rfl⟩

theorem Likewise.symm
    {r s : Report Results} (h : Likewise r s) :
  Likewise s r
  := ⟨h.events.symm, h.declarations.symm⟩

/-- Computations that are alike have the same warnings. -/
theorem Likewise.warnings
    {r s : Report Results} (h : Likewise r s) :
  s.warnings = r.warnings
  := congrArg warningMessages h.events

/-- Computations that go on alike are alike. -/
theorem Likewise.bind
    {α : Type} {r : Report α} {f g : α → Report Results}
    (h : ∀ a, r.outcome = .ok a → Likewise (f a) (g a)) :
  Likewise (r >>= f) (r >>= g)
  := by
  obtain ⟨events, outcome⟩ := r
  cases outcome with
  | error e => exact ⟨rfl, rfl⟩
  | ok a =>
    obtain ⟨same, declarations⟩ := h a rfl
    exact ⟨congrArg (events ++ ·) same, declarations⟩

/-- A result on one side has one on the other, with the same declarations. -/
theorem Likewise.exists_outcome
    {r s : Report Results} (h : Likewise r s) {found : Results} (held : r.outcome = .ok found) :
  ∃ found', s.outcome = .ok found' ∧ declarationsIn found' = declarationsIn found
  := by
  have declarations := h.declarations
  cases held' : s.outcome with
  | error e => simp [held, held', Except.toOption] at declarations
  | ok found' =>
    use found', rfl
    simpa [held, held', Except.toOption] using declarations

section

variable {fields fields' : List (String × Json)} {w : Json} {path : List String} {c : Context}
  (near : Near fields fields')
  (properties : Body.getD fields' "properties" = Body.getD fields "properties")
include near properties

/-- Concepts of near bodies are read alike if their properties are. -/
theorem readConcept_eq_of_near
    {read : Reader} (same : Body.getD fields "properties" ≠ .null →
      read ⟨.properties, Body.getD fields "properties", path ++ ["properties"]⟩
          { c with required := Body.required? fields } =
        read ⟨.properties, Body.getD fields "properties", path ++ ["properties"]⟩
          { c.mapDocument (fun _ => w) with required := Body.required? fields })
    (name : String) :
  readConcept read fields name path c =
    readConcept read fields' name path (c.mapDocument fun _ => w)
  := by
  unfold readConcept
  rw [properties, near.required?]
  split
  · rfl
  next isSet => rw [same isSet]

/-- The root of a document is read as before when its body is near, and has the same
declarations. -/
theorem likewise_readStructural
    {read : Reader} (same : ∀ y, Asks (⟨.structural, .object fields, path⟩, c) y →
      read y.1 y.2 = read y.1 (y.2.mapDocument fun _ => w)) :
  Likewise (readStructural read (.object fields) path c)
    (readStructural read (.object fields') path (c.mapDocument fun _ => w))
  := by
  simp only [readStructural, Body.ofJson_object, near.structuralRule]
  cases rule : Body.structuralRule fields with
  | scalar => exact .of_eq rfl
  | array => exact ⟨rfl, rfl⟩
  | alternation =>
    simp only [near.alternationKeyword, near.firstAlternative]
    apply Likewise.bind
    intro _ _
    exact .of_eq (same _ (.handsOn (.firstAlternative rule)))
  | reference =>
    have held : Body.getD fields' "$ref" = Body.getD fields "$ref" := by
      obtain same | ⟨inner, _, held, -⟩ := near.values "$ref"
      · exact same
      · have isReference := Body.isReference_of_structuralRule rule
        simp [Body.isReference, held, isString] at isReference
    simp only [held]
    exact .of_eq (same _ (.handsOn (.aliased rule)))
  | concept =>
    apply Likewise.bind
    intro strict stands
    simp only [near.hasType]
    by_cases stops : (strict && !Body.hasType fields "object") = true
    · simp only [stops, if_true]
      exact ⟨rfl, rfl⟩
    · simp only [stops, Bool.false_eq_true, if_false]
      have fits : MayBeConcept fields path := ⟨strict, stands, by simpa using stops⟩
      apply Likewise.of_eq
      apply readConcept_eq_of_near near properties
      intro isSet
      exact same _ (.handsOn (.concept rule fits isSet))

end

/-- A definition that lists no values is read by its structure. -/
theorem readDefinition_eq_structural
    {read : Reader} {v : Json} {path : List String} {c : Context} (noList : ¬ Lists v) :
  readDefinition read v path c = read ⟨.structural, v, path⟩ c
  := by
  unfold readDefinition
  split
  next elements lists => exact absurd ⟨elements, lists⟩ noList
  next => rfl

theorem readWithin_one_definition
    {v : Json} {path : List String} {c : Context} (noList : ¬ Lists v) :
  readWithin 1 ⟨.definition, v, path⟩ c = .fail .endlessReferences
  := by
  simp only [readWithin, step, readDefinition_eq_structural noList]

/-- What does not list its values is read by the rule that fits it, two levels below. -/
theorem readWithin_definition
    {v : Json} {path : List String} {c : Context} (noList : ¬ Lists v) (depth : Nat) :
  readWithin (depth + 2) ⟨.definition, v, path⟩ c = readStructural (readWithin depth) v path c
  := by
  simp only [readWithin, step, readDefinition_eq_structural noList]

/-- The root of a document is read as before, with the same events and declarations, when the
object under a key other than that of its properties is altered. -/
theorem likewise_root
    {fields fields' : List (String × Json)} {key root : String} {container : List String}
    {c : Context} (altered : Altered key fields fields') (outside : key ≠ "properties")
    (inside : Inside (.object fields) container (⟨.definition, .object fields, [root]⟩, c))
    (same : ∀ r ∈ (Json.object fields).references,
      Reference.resolve (.object fields') container r =
        Reference.resolve (.object fields) container r)
    (depth : Nat) :
  Likewise (readWithin depth ⟨.definition, .object fields, [root]⟩ c)
    (readWithin depth ⟨.definition, .object fields', [root]⟩
      (c.mapDocument fun _ => .object fields'))
  := by
  have near := near_of_altered altered
  have properties : Body.getD fields' "properties" = Body.getD fields "properties" :=
    getD_of_altered altered (Ne.symm outside)
  cases depth with
  | zero => exact ⟨rfl, rfl⟩
  | succ depth =>
    by_cases lists : Lists (.object fields)
    · obtain ⟨elements, lists⟩ := lists
      have lists : lookup? "enum" fields = some (.array elements) := lists
      have lists' : lookup? "enum" fields' = some (.array elements) :=
        (near.get?_enum elements).mpr lists
      simp only [readWithin, step, readDefinition, get?, lists, lists']
      cases depth with
      | zero => exact ⟨rfl, rfl⟩
      | succ depth =>
        simp only [readWithin, step, readEnumeration, requireKeyword, lists, lists']
        exact .of_eq rfl
    · have noList : ¬ Lists (.object fields') := by
        rintro ⟨elements, lists'⟩
        exact lists ⟨elements, (near.get?_enum elements).mp lists'⟩
      simp only [readWithin, step, readDefinition_eq_structural lists,
        readDefinition_eq_structural noList]
      cases depth with
      | zero => exact ⟨rfl, rfl⟩
      | succ depth =>
        apply likewise_readStructural near properties
        intro y asks
        have structured := inside.asks (.handsOn (.structured (not_exists.mp lists)))
        exact readWithin_mapDocument same (structured.asks asks)

end ConceptModel.Inference
