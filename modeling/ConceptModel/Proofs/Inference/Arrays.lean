import ConceptModel.Proofs.Inference.FieldNames

/-!
# Arrays of fields

A field is an array when its property is read on at the items of one.  An array definition to
which a reference leads forgets that an array is pending, as it forgets the pending name.  So
the field of an array is an array exactly when every array definition that its route passes
goes on to items in turn, and does not end at a tuple: `isArray_iff_encloses`.
-/

namespace ConceptModel.Inference

open Relation Text

/-- Whether the schema of a property is read as itself with its first alternative merged over
it. -/
def Merges (v w : Json) : Prop :=
  (Body.ofJson v).propertyRule = .alternation ∧ w = .object (Body.ofJson v).flattened

section

variable (document : Json) (container : List String)

/-- Whether the route of a property goes on to the items of an array. -/
def Iterates (v : Json) : Prop :=
  ∃ keys u item, Route document container v keys u ∧ (Body.ofJson u).propertyRule = .array ∧
    (Body.ofJson u).get? "items" = some item ∧ item.isArray = false

/-- Whether every array definition that the route of a property passes goes on to the items of
an array. -/
def Encloses (v : Json) : Prop :=
  ∀ keys u key w, Route document container v keys u → Passes document container u key w →
    Iterates document container w

/-- Whether fields are arrays as the property says: when nothing on its route forgets what is
pending before the end, and an array is pending there. -/
def Flagged (v : Json) (pending : Bool) (fields : List Field) : Prop :=
  ∀ f ∈ fields, (f.isArray = true ↔
    Encloses document container v ∧ (pending = true ∨ Iterates document container v))

end

/-! ### Steps of a route -/

section

variable {document : Json} {container : List String} {v w u : Json} {key : String}
  {keys : List String}

/-- A route goes on where a schema is read as another. -/
theorem route_onward_iff
    (step : Onward v w) :
  Route document container v keys u ↔ keys = [] ∧ u = v ∨ Route document container w keys u
  := by
  constructor
  · intro route
    cases route with
    | here => exact .inl ⟨rfl, rfl⟩
    | onward step' rest =>
      obtain rfl := step.unique step'
      exact .inr rest
    | through passes => exact absurd passes step.not_passes
  · rintro (⟨rfl, rfl⟩ | rest)
    · exact .here
    · exact .onward step rest

/-- A route goes on with the key that a schema passes. -/
theorem route_passes_iff
    (passes : Passes document container v key w) :
  Route document container v keys u ↔
    keys = [] ∧ u = v ∨ ∃ rest, keys = key :: rest ∧ Route document container w rest u
  := by
  constructor
  · intro route
    cases route with
    | here => exact .inl ⟨rfl, rfl⟩
    | onward step => exact absurd passes step.not_passes
    | through passes' rest =>
      obtain ⟨rfl, rfl⟩ := passes.unique passes'
      exact .inr ⟨_, rfl, rest⟩
  · rintro (⟨rfl, rfl⟩ | ⟨rest, rfl, route⟩)
    · exact .here
    · exact .through passes route

/-- An array of what is no array iterates. -/
theorem iterates_of_items
    {item : Json} (rule : (Body.ofJson v).propertyRule = .array)
    (held : (Body.ofJson v).get? "items" = some item) (noArray : item.isArray = false) :
  Iterates document container v
  := ⟨[], v, item, .here, rule, held, noArray⟩

theorem Iterates.onward
    (step : Onward v w) (h : Iterates document container w) :
  Iterates document container v
  := by
  obtain ⟨keys, u, item, route, rest⟩ := h
  exact ⟨keys, u, item, .onward step route, rest⟩

theorem Iterates.through
    (passes : Passes document container v key w) (h : Iterates document container w) :
  Iterates document container v
  := by
  obtain ⟨keys, u, item, route, rest⟩ := h
  exact ⟨key :: keys, u, item, .through passes route, rest⟩

theorem iterates_alternation_iff
    (rule : (Body.ofJson v).propertyRule = .alternation) :
  Iterates document container v ↔ Iterates document container (.object (Body.ofJson v).flattened)
  := by
  constructor
  · rintro ⟨keys, u, item, route, isArray, rest⟩
    obtain ⟨-, rfl⟩ | route := (route_onward_iff (.alternation rule)).mp route
    · simp [rule] at isArray
    · exact ⟨keys, u, item, route, isArray, rest⟩
  · exact .onward (.alternation rule)

/-- What a schema is read as encloses arrays just like it. -/
theorem encloses_onward_iff
    (step : Onward v w) :
  Encloses document container v ↔ Encloses document container w
  := by
  constructor
  · intro h keys u key x route
    exact h keys u key x (.onward step route)
  · intro h keys u key x route passes
    obtain ⟨-, rfl⟩ | route := (route_onward_iff step).mp route
    · exact absurd passes step.not_passes
    · exact h keys u key x route passes

/-- A schema that passes a key encloses arrays if the definition iterates and encloses. -/
theorem encloses_passes_iff
    (passes : Passes document container v key w) :
  Encloses document container v ↔
    Iterates document container w ∧ Encloses document container w
  := by
  constructor
  · intro h
    constructor
    · exact h [] v key w .here passes
    · intro keys u key' x route
      exact h (key :: keys) u key' x (.through passes route)
  · rintro ⟨iterates, h⟩ keys u key' x route passes'
    obtain ⟨-, rfl⟩ | ⟨rest, -, route⟩ := (route_passes_iff passes).mp route
    · obtain ⟨-, rfl⟩ := passes.unique passes'
      exact iterates
    · exact h rest u key' x route passes'

end

/-! ### Flags -/

section

variable {document : Json} {container : List String} {v w : Json} {pending : Bool}
  {fields : List Field}

/-- The fields of flattened alternatives are those of the alternation. -/
theorem Flagged.alternation
    (rule : (Body.ofJson v).propertyRule = .alternation)
    (h : Flagged document container (.object (Body.ofJson v).flattened) pending fields) :
  Flagged document container v pending fields
  := by
  intro f mem
  rw [h f mem, encloses_onward_iff (.alternation rule), iterates_alternation_iff rule]

/-- The items of an array have one pending. -/
theorem Flagged.items
    {item : Json} (rule : (Body.ofJson v).propertyRule = .array)
    (held : (Body.ofJson v).get? "items" = some item) (noArray : item.isArray = false)
    (h : Flagged document container item true fields) :
  Flagged document container v pending fields
  := by
  have iterates : Iterates document container v := iterates_of_items rule held noArray
  intro f mem
  rw [h f mem, encloses_onward_iff (.items rule held noArray)]
  simp [iterates]

/-- An array definition has none pending, whatever leads to it. -/
theorem Flagged.through
    {key : String} (passes : Passes document container v key w)
    (h : Flagged document container w false fields) :
  Flagged document container v pending fields
  := by
  intro f mem
  rw [h f mem, encloses_passes_iff passes]
  constructor
  · rintro ⟨encloses, iterates⟩
    have iterates : Iterates document container w := by simpa using iterates
    exact ⟨⟨iterates, encloses⟩, .inr (iterates.through passes)⟩
  · rintro ⟨⟨iterates, encloses⟩, -⟩
    exact ⟨encloses, .inr iterates⟩

/-- A property that is read as it is has a field that is an array if one is pending. -/
theorem Flagged.here
    (final : Final document container v)
    (h : ∀ f ∈ fields, f.isArray = pending) :
  Flagged document container v pending fields
  := by
  have encloses : Encloses document container v := by
    intro keys u key w route passes
    obtain ⟨-, rfl⟩ := final.route route
    exact absurd passes (final.2 key w)
  have stays : ¬ Iterates document container v := by
    rintro ⟨keys, u, item, route, rule, held, noArray⟩
    obtain ⟨-, rfl⟩ := final.route route
    exact final.1 item (.items rule held noArray)
  intro f mem
  simp [h f mem, encloses, stays]

/-- Which fields of a property are arrays, while concepts are being read. -/
theorem RouteFields.flagged
    {c : Context} {name : String} {o : Overrides} (h : RouteFields c v name o fields)
    (away : ∀ t ∈ c.traversed, Conceptual c.document c.container t) :
  Flagged c.document c.container v (o.isArray.getD false) fields
  := by
  induction h with
  | reserved | dropped => simp [Flagged]
  | own free final based =>
    apply Flagged.here (final away).1
    simp [based.isArray, fieldBase]
  | alternation rule _ ih => exact ih.alternation rule
  | items rule held noArray _ ih => exact ih.items rule held noArray
  -- The definition is read with its name as the only override, so nothing is pending there.
  | through _ passes _ ih => exact ih.through passes

end

/-! ### Properties of a document -/

theorem Iterates.merges
    {document v a : Json} {container : List String} (h : ReflTransGen Merges v a)
    (iterates : Iterates document container a) :
  Iterates document container v
  := by
  induction h using ReflTransGen.head_induction_on with
  | refl => exact iterates
  | head step _ ih =>
    rw [iterates_alternation_iff step.1, ← step.2]
    exact ih

/-- The field of a property that is an array of items, once first alternatives have been
merged, is an array exactly when every array definition on the route goes on to items. -/
theorem isArray_iff_encloses
    {document namespaceName : Json} {metaNamespace : String} {given : List String} {ms : Models}
    (inferred : (inferModels document namespaceName metaNamespace
      (given.map .string)).outcome = .ok ms)
    {v a : Json} {path : List String} {c : Context} {items : List (String × Json)}
    (visited : ReflTransGen Asks
      (⟨.document, document, []⟩, .start namespaceName metaNamespace given)
      (⟨.property, v, path⟩, c))
    (merges : ReflTransGen Merges v a) (rule : (Body.ofJson a).propertyRule = .array)
    (held : (Body.ofJson a).get? "items" = some (.object items)) :
  ∃ found, Reads ⟨.property, v, path⟩ c found ∧ ∀ f, .field f ∈ found.flatten →
    (f.isArray = true ↔ Encloses (wholeOf document) (containerOf document given) v)
  := by
  obtain ⟨tracked, sameDocument, sameContainer, found, reads⟩ :=
    reads_of_visited inferred Role.noConfusion visited
  have iterates : Iterates (wholeOf document) (containerOf document given) v :=
    (iterates_of_items rule held rfl).merges merges
  have route := routeFields_of_reads reads
  have flags := route.flagged (tracked.away (.inl rfl))
  use found, reads
  intro f mem
  rw [← sameDocument, ← sameContainer] at iterates ⊢
  rw [flags f (mem_filterMap_field?.mpr mem)]
  exact and_iff_left (.inr iterates)

/-- A pair of numbers, as a tuple. -/
def numberPair : Json :=
  .object
    [("type", .string "array"),
      ("items", .array
        [.object [("type", .string "number")], .object [("type", .string "number")]]),
      ("minItems", .number (.int 2)), ("maxItems", .number (.int 2))]

/-- A reference to the definition of pairs. -/
def pairReference : Json := .object [("$ref", .string "#/definitions/Pair")]

/-- A list of rows, each of which is an item. -/
def rowsOf (item : Json) : Json := .object [("type", .string "array"), ("items", item)]

/-- A table of rows, with a definition of pairs. -/
def tableOf (item : Json) : Json :=
  .object
    [("properties", .object [("rows", rowsOf item)]),
      ("definitions", .object [("Pair", numberPair)])]

theorem isArray_iff_encloses_tableOf :
  ∃ found, Reads ⟨.property, rowsOf pairReference, ["Root", "properties"] ++ ["rows"]⟩
      ((Context.start (.string "org.acme") defaultMetaNamespace []).enter (tableOf pairReference))
      found ∧
    ∀ f, .field f ∈ found.flatten → (f.isArray = true ↔
      Encloses (wholeOf (tableOf pairReference)) (containerOf (tableOf pairReference) [])
        (rowsOf pairReference))
  := by
  obtain ⟨ms, inferred⟩ : ∃ ms, (inferModels (tableOf pairReference) (.string "org.acme")
      defaultMetaNamespace []).outcome = .ok ms := Report.exists_outcome_eq_ok (by decide +kernel)
  have root : (rootName (tableOf pairReference)).outcome = .ok "Root" := by decide +kernel
  have noList : ∀ elements, (tableOf pairReference).get? "enum" ≠ some (.array elements) := by
    simp [tableOf, Json.get?, Json.lookup?]
  have rule : (Body.ofJson (tableOf pairReference)).structuralRule = .concept := by
    decide +kernel
  have isSet : (Body.ofJson (tableOf pairReference)).getD "properties" ≠ .null := by
    decide +kernel
  have visited : ReflTransGen Asks (⟨.document, tableOf pairReference, []⟩,
      .start (.string "org.acme") defaultMetaNamespace [])
      (⟨.property, rowsOf pairReference, ["Root", "properties"] ++ ["rows"]⟩,
        (Context.start (.string "org.acme") defaultMetaNamespace []).enter
          (tableOf pairReference)) :=
    .head (.handsOn (.root root)) (.head (.handsOn (.structured noList))
      (.head (.handsOn (.concept rule ⟨false, rfl, rfl⟩ isSet))
        (.single (.handsOn (.member (List.mem_singleton_self _))))))
  exact @isArray_iff_encloses _ _ _ [] ms inferred _ _ _ _ _ visited .refl (by decide +kernel) rfl

/-- The rows of a table are an array when the pair stands among them, and no longer when they
refer to its definition. -/
theorem isArray_tableOf :
  [numberPair, pairReference].map (fun item =>
      (inferModels (tableOf item) (.string "org.acme") defaultMetaNamespace
        []).outcome.toOption.map fun ms =>
      ms.models.flatMap fun m => m.declarations.flatMap fun d =>
        (d.fields.filter fun f => f.name = "rows").map Field.isArray) =
    [some [true], some [false]]
  := by
  decide +kernel

end ConceptModel.Inference
