import ConceptModel.Proofs.Inference.Near

/-!
# First alternatives

A property that has alternatives is read as the first one merged over the rest of its schema.
A definition that has alternatives is read as the first one by itself, and the rest of its
schema is left out, unless it is freeform or an array, which it then stays.  What a definition
comes to depends on its `reading` only.  So merging makes no difference to a definition when
it makes none to the reading of what is taken for it: `concludes_of_alternatives`.
-/

namespace ConceptModel.Inference

open Text

/-! ### What a definition is read for -/

/-- What a definition is read for. -/
inductive Reading where
  /-- The values that it lists. -/
  | enumeration (elements : List Json)
  /-- Nothing, as it holds any JSON value. -/
  | scalar
  /-- Nothing, as it is an array, which is left to be read. -/
  | array
  /-- The first alternative of a keyword. -/
  | alternation (keyword : String) (first : Json)
  /-- What a reference leads to. -/
  | reference (target : Json)
  /-- Its type, its properties and the names of those that are required. -/
  | concept (type properties : Json) (required : Option (List Json))
deriving DecidableEq, Repr

namespace Body

/-- What a definition is read for that does not list its values. -/
def structuralReading (b : Body) : Reading :=
  match b.structuralRule with
  | .scalar => .scalar
  | .array => .array
  | .alternation => .alternation b.alternationKeyword b.firstAlternative
  | .reference => .reference (b.getD "$ref")
  | .concept => .concept (b.getD "type") (b.getD "properties") b.required?

/-- What a definition is read for. -/
def reading (b : Body) : Reading :=
  match b.enumeration? with
  | some elements => .enumeration elements
  | none => b.structuralReading

/-- The schema that a definition with alternatives is read as. -/
def taken (b : Body) : Body :=
  if b.structuralRule = .alternation then ofJson b.firstAlternative else b

/-- The warning that the rest of a definition is left out, if that is so. -/
def takenEvents (b : Body) (name : String) : List Event :=
  if b.structuralRule = .alternation then
    [.warning (.firstAlternative b.alternationKeyword name)]
  else []

variable {b b' : Body}

theorem structuralReading_ne_enumeration
    {elements : List Json} :
  b.structuralReading ≠ .enumeration elements
  := by
  unfold structuralReading
  split <;> simp

/-- A body is read as an enumeration just in case it lists its values. -/
theorem reading_eq_enumeration
    {elements : List Json} :
  b.enumeration? = some elements ↔ b.reading = .enumeration elements
  := by
  unfold reading
  cases b.enumeration? with
  | some values => simp
  | none => simp [structuralReading_ne_enumeration]

/-- Bodies of one reading list the same values. -/
theorem enumeration?_congr
    (same : b.reading = b'.reading) :
  b.enumeration? = b'.enumeration?
  := by
  apply Option.ext
  intro elements
  rw [reading_eq_enumeration, reading_eq_enumeration, same]

/-- Bodies of one reading that list no values have one structure. -/
theorem structuralReading_congr
    (same : b.reading = b'.reading) (noList : b.enumeration? = none) :
  b.structuralReading = b'.structuralReading
  := by
  have noList' := noList
  rw [enumeration?_congr same] at noList'
  simpa [reading, noList, noList'] using same

/-- Bodies of one structure are read by one rule. -/
theorem structuralRule_congr
    (same : b.structuralReading = b'.structuralReading) :
  b.structuralRule = b'.structuralRule
  := by
  unfold structuralReading at same
  cases rule : b.structuralRule <;> cases rule' : b'.structuralRule <;> simp [rule, rule'] at same ⊢

end Body

/-! ### Definitions of one reading -/

theorem get?_enum_iff
    {v : Json} {elements : List Json} :
  v.get? "enum" = some (.array elements) ↔ (Body.ofJson v).enumeration? = some elements
  := by
  rw [Body.enumeration?_eq_some, ← Body.get?_eq_array_iff]
  constructor
  · exact Body.get?_ofJson
  · intro held
    have isSet : (Body.ofJson v).getD "enum" ≠ .null := by
      simp [Body.get?_eq_array_iff.mp held]
    rw [← Body.object_ofJson isSet (by decide)]
    exact held

theorem lists_iff
    {v : Json} :
  Lists v ↔ (Body.ofJson v).enumeration? ≠ none
  := by
  simp [Lists, get?_enum_iff, Option.ne_none_iff_exists']

/-- Whether two results hold the same declarations. -/
def SameDeclarations (found found' : Results) : Prop :=
  declarationsIn found = declarationsIn found'

section

variable {v w : Json} {path : List String} {c : Context}

/-- A body that lists its values is read as an enumeration of them. -/
theorem readEnumeration_eq
    {elements : List Json} (listed : (Body.ofJson v).enumeration? = some elements) :
  readEnumeration v path = Pure.pure (.one
    (.declaration (.enumeration (normalizeName (nameOf path)) (enumerationValues elements))))
  := by
  have held := get?_enum_iff.mpr listed
  cases v with
  | object fields =>
    simp only [readEnumeration, requireKeyword, show Json.lookup? "enum" fields = _ from held]
    rfl
  | _ => simp [Json.get?] at held

/-- Definitions of one structural reading are read alike, but for arrays, which are left to be
read. -/
theorem agree_readStructural
    (same : (Body.ofJson v).structuralReading = (Body.ofJson w).structuralReading)
    (read : Reader) :
  Report.Agree SameDeclarations (readStructural read v path c) (readStructural read w path c)
  := by
  have rules := Body.structuralRule_congr same
  have refl (r : Report Results) : Report.Agree SameDeclarations r r :=
    Report.agree_refl r fun _ => rfl
  unfold readStructural
  dsimp only
  cases rule : (Body.ofJson v).structuralRule with
  | scalar =>
    simp only [← rules, rule]
    exact refl _
  | array =>
    simp only [← rules, rule]
    exact Report.agree_pure rfl
  | alternation =>
    simp only [Body.structuralReading, ← rules, rule, Reading.alternation.injEq] at same ⊢
    obtain ⟨keyword, first⟩ := same
    rw [keyword, first]
    exact refl _
  | reference =>
    simp only [Body.structuralReading, ← rules, rule, Reading.reference.injEq] at same ⊢
    rw [same]
    exact refl _
  | concept =>
    simp only [Body.structuralReading, ← rules, rule, Reading.concept.injEq] at same ⊢
    obtain ⟨type, properties, required⟩ := same
    simp only [readConcept, Body.hasType, type, properties, required]
    exact refl _

/-- Definitions of one reading come to the same declarations or the same failure. -/
theorem agree_of_reading
    (same : (Body.ofJson v).reading = (Body.ofJson w).reading) (depth : Nat) :
  Report.Agree SameDeclarations (readWithin depth ⟨.definition, v, path⟩ c)
    (readWithin depth ⟨.definition, w, path⟩ c)
  := by
  cases depth with
  | zero => exact .error
  | succ depth =>
    cases listed : (Body.ofJson v).enumeration? with
    | some elements =>
      have listed' := listed
      rw [Body.enumeration?_congr same] at listed'
      simp only [readWithin, step, readDefinition, get?_enum_iff.mpr listed,
        get?_enum_iff.mpr listed']
      cases depth with
      | zero => exact .error
      | succ depth =>
        simp only [readWithin, step, readEnumeration_eq listed, readEnumeration_eq listed']
        exact Report.agree_refl _ fun _ => rfl
    | none =>
      have noList : ¬ Lists v := by simp [lists_iff, listed]
      have noList' : ¬ Lists w := by simp [lists_iff, ← Body.enumeration?_congr same, listed]
      simp only [readWithin, step, readDefinition_eq_structural noList,
        readDefinition_eq_structural noList']
      cases depth with
      | zero => exact .error
      | succ depth => exact agree_readStructural (Body.structuralReading_congr same listed) _

end

/-! ### Conclusions -/

/-- Whether reading a fragment comes to an end, at whatever depth, with the events and with
the declarations or the failure. -/
def Concludes (f : Fragment) (c : Context) (events : List Event)
    (declared : Except Failure (List Declaration)) : Prop :=
  declared ≠ .error .endlessReferences ∧ ∃ depth, (readWithin depth f c).events = events ∧
    (readWithin depth f c).outcome.map declarationsIn = declared

section

variable {f g : Fragment} {c c' : Context} {events : List Event}
  {declared : Except Failure (List Declaration)}

/-- A fragment comes to one conclusion at most. -/
theorem Concludes.unique
    {events' : List Event} {declared' : Except Failure (List Declaration)}
    (h : Concludes f c events declared) (h' : Concludes f c events' declared') :
  events = events' ∧ declared = declared'
  := by
  have finishes {depth : Nat} (ends : (readWithin depth f c).outcome.map declarationsIn ≠
      .error .endlessReferences) : (readWithin depth f c).Finishes := by
    intro endless
    simp [endless, Except.map] at ends
  obtain ⟨ends, depth, rfl, rfl⟩ := h
  obtain ⟨ends', depth', rfl, rfl⟩ := h'
  have left := readWithin_eq_of_le (Nat.le_max_left depth depth') (finishes ends)
  have right := readWithin_eq_of_le (Nat.le_max_right depth depth') (finishes ends')
  rw [← left, ← right]
  exact ⟨rfl, rfl⟩

/-- Fragments whose readings agree come to the same conclusions. -/
theorem concludes_iff_of_agree
    (h : ∀ depth, Report.Agree SameDeclarations (readWithin depth f c) (readWithin depth g c')) :
  Concludes f c events declared ↔ Concludes g c' events declared
  := by
  unfold Concludes
  apply and_congr_right
  intro _
  apply exists_congr
  intro depth
  have agree := h depth
  generalize readWithin depth f c = r at agree ⊢
  generalize readWithin depth g c' = s at agree ⊢
  cases agree with
  | ok related => simp [Except.map, show declarationsIn _ = declarationsIn _ from related]
  | error => rfl

end

section

variable {b : Body} {path : List String} {c : Context} {events : List Event}
  {declared : Except Failure (List Declaration)}

/-- A definition that takes its first alternative comes to what this comes to, after a
warning. -/
theorem concludes_firstAlternative_iff
    (noList : b.enumeration? = none) (rule : b.structuralRule = .alternation) :
  Concludes ⟨.definition, .object b, path⟩ c (b.takenEvents (nameOf path) ++ events) declared ↔
    Concludes ⟨.definition, b.firstAlternative, path⟩ c events declared
  := by
  have noList : ¬ Lists (.object b) := by simp [lists_iff, noList]
  have two (depth : Nat) : readWithin (depth + 2) ⟨.definition, .object b, path⟩ c =
      Report.warn (.firstAlternative b.alternationKeyword (nameOf path)) >>= fun _ =>
        readWithin depth ⟨.definition, b.firstAlternative, path⟩ c := by
    simp [readWithin_definition noList, readStructural, rule]
  have warns (r : Report Results) :
      (Report.warn (.firstAlternative b.alternationKeyword (nameOf path)) >>= fun _ => r) =
        ⟨b.takenEvents (nameOf path) ++ r.events, r.outcome⟩ := by
    simp [Body.takenEvents, rule, Bind.bind, Report.bind, Report.warn, Report.tell]
  unfold Concludes
  apply and_congr_right
  intro ends
  constructor
  · rintro ⟨depth, sameEvents, sameOutcome⟩
    obtain _ | _ | depth := depth
    · exact absurd sameOutcome.symm ends
    · rw [readWithin_one_definition noList] at sameOutcome
      exact absurd sameOutcome.symm ends
    · rw [two, warns] at sameEvents sameOutcome
      exact ⟨depth, List.append_cancel_left sameEvents, sameOutcome⟩
  · rintro ⟨depth, rfl, rfl⟩
    use depth + 2
    rw [two, warns]
    exact ⟨rfl, rfl⟩

/-- A definition declares what its first alternative declares by itself, or what it declares
itself when it is freeform or an array.  Merging the alternative over the rest makes no
difference to the declarations, or to the failure, when it makes none to the reading. -/
theorem concludes_of_alternatives
    (noList : b.enumeration? = none) :
  (∀ declarations, Concludes ⟨.definition, .object b.taken, path⟩ c events (.ok declarations) →
      Concludes ⟨.definition, .object b, path⟩ c (b.takenEvents (nameOf path) ++ events)
        (.ok declarations)) ∧
    (b.flattened.reading = b.taken.reading → ∀ declared,
      (Concludes ⟨.definition, .object b, path⟩ c (b.takenEvents (nameOf path) ++ events)
          declared ↔
        Concludes ⟨.definition, .object b.flattened, path⟩ c events declared))
  := by
  have taken (declared : Except Failure (List Declaration)) :
      Concludes ⟨.definition, .object b, path⟩ c (b.takenEvents (nameOf path) ++ events)
          declared ↔
        Concludes ⟨.definition, .object b.taken, path⟩ c events declared := by
    by_cases rule : b.structuralRule = .alternation
    · rw [concludes_firstAlternative_iff noList rule]
      apply concludes_iff_of_agree
      apply agree_of_reading
      simp [Body.taken, rule]
    · simp [Body.takenEvents, Body.taken, rule]
  constructor
  · intro declarations
    exact (taken _).mpr
  · intro same declared
    rw [taken declared]
    apply concludes_iff_of_agree
    exact agree_of_reading same.symm

end

/-- A payment by card or by transfer. -/
def payment : Body :=
  [("description", .string "How an order is paid."),
    ("oneOf", .array
      [.object
        [("type", .string "object"),
          ("properties", .object [("card", .object [("type", .string "string")])]),
          ("required", .array [.string "card"])],
        .object [("$ref", .string "#/definitions/Transfer")]])]

theorem concludes_of_alternatives_payment :
  payment.enumeration? = none ∧ payment.flattened.reading = payment.taken.reading ∧
    Concludes ⟨.definition, .object payment, ["definitions", "Payment"]⟩ {}
      [.warning (.firstAlternative "oneOf" "Payment")]
      (.ok [.concept "Payment" false [{ name := "card", type := .string }]])
  := by
  have noList : payment.enumeration? = none := by decide +kernel
  have same : payment.flattened.reading = payment.taken.reading := by decide +kernel
  have merged : Concludes ⟨.definition, .object payment.flattened, ["definitions", "Payment"]⟩ {}
      [] (.ok [.concept "Payment" false [{ name := "card", type := .string }]]) := by
    refine ⟨by simp, 9, by decide +kernel, by decide +kernel⟩
  exact ⟨noList, same, ((concludes_of_alternatives noList).2 same _).mpr merged⟩

/-- An address in a street or of a box, whose alternatives only say what is required. -/
def address : Body :=
  [("type", .string "object"),
    ("properties", .object
      [("street", .object [("type", .string "string")]),
        ("box", .object [("type", .string "integer")])]),
    ("anyOf", .array
      [.object [("type", .string "object"), ("required", .array [.string "street"])],
        .object [("type", .string "object"), ("required", .array [.string "box"])]])]

/-- The first alternative of an address has no properties, and so the definition loses those
that it has itself. -/
theorem lost_by_alternatives_address :
  address.isAlternation = true ∧ address.enumeration? = none ∧
    ¬ ∀ declared, (∃ events, Concludes ⟨.definition, .object address, ["definitions", "Address"]⟩
        {} events declared) ↔
      ∃ events, Concludes ⟨.definition, .object address.flattened, ["definitions", "Address"]⟩
        {} events declared
  := by
  have alone : Concludes ⟨.definition, .object address, ["definitions", "Address"]⟩ {}
      [.warning (.firstAlternative "anyOf" "Address")]
      (.ok [.scalar "Address" [stringifiedJson]]) :=
    ⟨by simp, 4, by decide +kernel, by decide +kernel⟩
  have merged : Concludes ⟨.definition, .object address.flattened, ["definitions", "Address"]⟩ {}
      [] (.ok [.concept "Address" false
        [{ name := "street", type := .string },
          { name := "box", type := .integer, isOptional := true }]]) :=
    ⟨by simp, 9, by decide +kernel, by decide +kernel⟩
  refine ⟨by decide +kernel, by decide +kernel, ?_⟩
  intro same
  obtain ⟨events, alone'⟩ := (same _).mpr ⟨[], merged⟩
  simpa using (alone.unique alone').2

end ConceptModel.Inference
