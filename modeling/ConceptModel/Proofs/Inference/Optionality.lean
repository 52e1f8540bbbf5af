import ConceptModel.Proofs.Inference.FieldNames

/-!
# Optional fields

A field is built where the route of its property ends, and whether it is optional is decided
there: by the list of required names of the object that holds the property, whatever is passed
on the way, and by the name of the place.  That is the key of the property, unless array
definitions are passed; then it is the key of the last of them: `isOptional_iff_unlisted`.
-/

namespace ConceptModel.Inference

open Relation Text

/-! ### Routes -/

/-- A field is optional as the place says at which the route of its property ends, while
concepts are being read. -/
theorem RouteFields.optional
    {c : Context} {v : Json} {name : String} {o : Overrides} {fields : List Field}
    (h : RouteFields c v name o fields)
    (away : ∀ t ∈ c.traversed, Conceptual c.document c.container t) {f : Field} (mem : f ∈ fields) :
  ∃ keys u, Route c.document c.container v keys u ∧ Final c.document c.container u ∧
    f.isOptional = (fieldBase (keys.getLastD name) c).isOptional
  := by
  induction h with
  | reserved | dropped => simp at mem
  | @own v _ _ _ _ final based =>
    obtain rfl := List.mem_singleton.mp mem
    exact ⟨[], v, .here, (final away).1, based.isOptional⟩
  | alternation rule _ ih =>
    obtain ⟨keys, u, route, rest⟩ := ih mem
    exact ⟨keys, u, .onward (.alternation rule) route, rest⟩
  | items rule held noArray _ ih =>
    obtain ⟨keys, u, route, rest⟩ := ih mem
    exact ⟨keys, u, .onward (.items rule held noArray) route, rest⟩
  | @through _ _ _ key _ _ _ passes _ ih =>
    obtain ⟨keys, u, route, final, optional⟩ := ih mem
    use key :: keys, u, .through passes route, final
    rw [optional, List.getLastD_cons]

/-! ### Properties of a concept -/

/-- Whether the property of a key yields the field, when a schema is read as a concept. -/
def YieldsField (v : Json) (path : List String) (c : Context) (e : String × Json) (f : Field) :
    Prop :=
  ∃ own, Reads ⟨.property, e.2, path ++ ["properties"] ++ [e.1]⟩
    { c with required := (Body.ofJson v).required? } own ∧ .field f ∈ own.flatten

section

variable {v : Json} {path : List String} {c : Context} {members : List (String × Json)}

/-- The fields of a concept are those that its properties yield. -/
theorem mem_fields_iff_of_concept
    (rule : (Body.ofJson v).structuralRule = .concept)
    (held : (Body.ofJson v).getD "properties" = .object members) {found : Results}
    (reads : Reads ⟨.structural, v, path⟩ c found) :
  ∃ d rest, found.flatten = .declaration d :: rest ∧ d.name = normalizeName (nameOf path) ∧
    ∀ f, f ∈ d.fields ↔ ∃ e ∈ members, YieldsField v path c e f
  := by
  obtain ⟨each, read, rfl⟩ := each_of_concept rule held reads
  refine ⟨_, _, flatten_conceptResults _ _, rfl, fun f => ?_⟩
  simp only [Declaration.fields, mem_filterMap_field?, List.mem_flatMap]
  constructor
  · rintro ⟨e, mem, yields⟩
    exact ⟨e, mem, each e, read e mem, yields⟩
  · rintro ⟨e, mem, own, reads, yields⟩
    obtain rfl := reads.unique (read e mem)
    exact ⟨e, mem, yields⟩

/-- The fields of a concept are those that its properties yield; and a field is optional unless
the object of its property lists a name as required: the key of the property, or that of the last
array definition that its route passes. -/
theorem isOptional_iff_unlisted
    {document namespaceName : Json} {metaNamespace : String} {given : List String}
    (visited : ReflTransGen Asks
      (⟨.document, document, []⟩, .start namespaceName metaNamespace given)
      (⟨.structural, v, path⟩, c))
    (rule : (Body.ofJson v).structuralRule = .concept)
    (held : (Body.ofJson v).getD "properties" = .object members) :
  (∀ found, Reads ⟨.structural, v, path⟩ c found →
    ∃ d rest, found.flatten = .declaration d :: rest ∧ d.name = normalizeName (nameOf path) ∧
      ∀ f, f ∈ d.fields ↔ ∃ e ∈ members, YieldsField v path c e f) ∧
  ∀ e ∈ members, ∀ f, YieldsField v path c e f →
    (∃ keys u, Route (wholeOf document) (containerOf document given) e.2 keys u ∧
      Final (wholeOf document) (containerOf document given) u) ∧
    ∀ keys u, Route (wholeOf document) (containerOf document given) e.2 keys u →
      Final (wholeOf document) (containerOf document given) u →
      (f.isOptional = true ↔ ∀ names, (Body.ofJson v).getD "required" = .array names →
        .string (keys.getLastD e.1) ∉ names)
  := by
  refine ⟨fun found => mem_fields_iff_of_concept rule held, ?_⟩
  rintro e - f ⟨own, reads, mem⟩
  obtain ⟨tracked, sameDocument, sameContainer⟩ := tracked_of_visited Role.noConfusion visited
  have away := tracked.conceptual rule (by simp [held])
  obtain ⟨keys, u, route, final, optional⟩ :=
    (routeFields_of_reads reads).optional away (mem_filterMap_field?.mpr mem)
  rw [← sameDocument, ← sameContainer]
  use ⟨keys, u, route, final⟩
  intro keys' u' route' final'
  obtain ⟨rfl, -⟩ := route.unique final route' final'
  have last : nameOf (path ++ ["properties"] ++ [e.1]) = e.1 := by simp [nameOf]
  rw [optional, isOptional_fieldBase_iff, last]
  simp only [Context.bare, Body.required?_eq_some]

/-- A plan of rows of seats, with a list of required names. -/
def seatingPlan (required : List Json) : Json :=
  .object
    [("required", .array required),
      ("properties", .object
        [("rows", .object [("$ref", .string "#/definitions/Rows")]),
          ("aisles", .object [("type", .string "integer")])]),
      ("definitions", .object
        [("Rows", .object
            [("type", .string "array"),
              ("items", .object [("$ref", .string "#/definitions/Row")])]),
          ("Row", .object
            [("type", .string "array"),
              ("items", .object [("type", .string "string")])])])]

theorem isOptional_iff_unlisted_seatingPlan :
  let plan := seatingPlan [.string "Row"]
  let c := (Context.start (.string "org.acme") defaultMetaNamespace []).enter plan
  let members : List (String × Json) :=
    [("rows", .object [("$ref", .string "#/definitions/Rows")]),
      ("aisles", .object [("type", .string "integer")])]
  (∀ found, Reads ⟨.structural, plan, ["Root"]⟩ c found →
    ∃ d rest, found.flatten = .declaration d :: rest ∧ d.name = normalizeName (nameOf ["Root"]) ∧
      ∀ f, f ∈ d.fields ↔ ∃ e ∈ members, YieldsField plan ["Root"] c e f) ∧
  ∀ e ∈ members, ∀ f, YieldsField plan ["Root"] c e f →
    (∃ keys u, Route (wholeOf plan) (containerOf plan []) e.2 keys u ∧
      Final (wholeOf plan) (containerOf plan []) u) ∧
    ∀ keys u, Route (wholeOf plan) (containerOf plan []) e.2 keys u →
      Final (wholeOf plan) (containerOf plan []) u →
      (f.isOptional = true ↔ ∀ names, (Body.ofJson plan).getD "required" = .array names →
        .string (keys.getLastD e.1) ∉ names)
  := by
  intro plan c members
  have root : (rootName plan).outcome = .ok "Root" := by decide +kernel
  have noList : ∀ elements, plan.get? "enum" ≠ some (.array elements) := by
    simp [plan, seatingPlan, Json.get?, Json.lookup?]
  have visited : ReflTransGen Asks (⟨.document, plan, []⟩,
      .start (.string "org.acme") defaultMetaNamespace []) (⟨.structural, plan, ["Root"]⟩, c) :=
    .head (.handsOn (.root root)) (.single (.handsOn (.structured noList)))
  exact @isOptional_iff_unlisted plan ["Root"] c members plan (.string "org.acme")
    defaultMetaNamespace [] visited (by decide +kernel) rfl

-- The rows are required by the name of the array definition passed last, not by their own key.
example :
  ["rows", "Rows", "Row"].map (fun name =>
      (inferModels (seatingPlan [.string name]) (.string "org.acme") defaultMetaNamespace
        []).outcome.toOption.map fun ms =>
      ms.models.flatMap fun m => m.declarations.flatMap fun d => d.fields.map Field.isOptional) =
    [some [true, true], some [true, true], some [false, true]]
  := by
  decide +kernel

end

end ConceptModel.Inference
