import ConceptModel.Proofs.Inference.RouteFields

/-!
# Names of fields

Each property of a concept becomes at most one field, whose name is what its route says:
`RouteFields.named`.  This takes that no reference of the property is being followed already
when its chain ends at an array or is dropped, which holds as only concepts have properties:
`Tracked`.
-/

namespace ConceptModel.Inference

open Relation Text

/-! ### Names along routes -/

/-- The names of the fields among results. -/
def fieldNames (found : Results) : List String :=
  (found.flatten.filterMap Found.field?).map Field.name

/-- The names of the fields of a property, while concepts are being read. -/
theorem RouteFields.named
    {c : Context} {v : Json} {name : String} {o : Overrides} {fields : List Field}
    (h : RouteFields c v name o fields)
    (away : ∀ t ∈ c.traversed, Conceptual c.document c.container t) :
  Named c.document c.container v name (o.name.getD name) (fields.map Field.name)
  := by
  induction h with
  | reserved bars => exact .barred .here ⟨_, .head _, bars⟩ rfl
  | dropped drops => exact .dropped .here drops rfl
  | own free final based =>
    obtain ⟨final, keeps⟩ := final away
    exact .here final keeps free (by simp [based.name, fieldBase])
  | alternation rule _ ih => exact ih.onward (.alternation rule)
  | items rule held noArray _ ih => exact ih.onward (.items rule held noArray)
  | through free passes _ ih => exact ih.through passes free

/-! ### Visits -/

/-- Whether a reference that is being followed is on its way to the fragment. -/
def OnTheWay (x : Visit) (t : String) : Prop :=
  match x.1.role with
  | .definition | .structural =>
    (x.1.role = .structural → ¬ Lists x.1.body) ∧
      ∃ last key v, ReflTransGen (Onto x.2.document x.2.container) t last ∧
        LeadsTo x.2.document x.2.container last key v ∧ ReflTransGen Takes v x.1.body
  | .reference => ∀ r, x.1.body = .string r → Reference.isLocal (.string r) →
      ReflTransGen (Onto x.2.document x.2.container) t r
  | .localReference => ∀ r, x.1.body = .string r →
      ReflTransGen (Onto x.2.document x.2.container) t r
  | .enumeration => True
  | _ => False

/-- A visit in whose context a name is pending only for a property, and which has followed
only references to concepts, unless they are still being followed. -/
structure Tracked (x : Visit) : Prop where
  overrides : x.1.role.isOfProperty = false → x.2.overrides = {}
  traversed : ∀ t ∈ x.2.traversed,
    Conceptual x.2.document x.2.container t ∨ OnTheWay x t

section

variable {x y : Visit} (tracked : Tracked x)
include tracked

theorem Tracked.away
    (role : x.1.role.isOfProperty = true ∨ x.1.role = .properties) :
  ∀ t ∈ x.2.traversed, Conceptual x.2.document x.2.container t
  := by
  intro t mem
  obtain conceptual | onTheWay := tracked.traversed t mem
  · exact conceptual
  · exfalso
    unfold OnTheWay at onTheWay
    split at onTheWay <;> simp_all [Role.isOfProperty]

omit tracked in
/-- While a concept is being read, it is what the references that are being followed lead to,
or an earlier one. -/
theorem Tracked.conceptual
    {v : Json} {path : List String} {c : Context} (tracked : Tracked (⟨.structural, v, path⟩, c))
    (rule : (Body.ofJson v).structuralRule = .concept)
    (isSet : (Body.ofJson v).getD "properties" ≠ .null) :
  ∀ t ∈ c.traversed, Conceptual c.document c.container t
  := by
  intro t mem
  obtain conceptual | ⟨-, last, key, w, chain, leads, taken⟩ := tracked.traversed t mem
  · exact conceptual
  · have rests : Rests v := by apply rests_of_structuralRule <;> simp [rule]
    exact ⟨key, v, ⟨last, w, chain, leads, taken, rests⟩, .inr (.inr ⟨rule, isSet⟩), rule⟩

/-- Outside of properties nothing is pending. -/
theorem Tracked.overrides_of_asks
    (h : Asks x y) (role : y.1.role.isOfProperty = false) :
  y.2.overrides = {}
  := by
  cases h with
  | consults => rfl
  | handsOn h =>
    cases h with
    | inline => rfl
    | member | alternation | deferral | array | union | tupleAsConcept | tupleAsText | items
    | tuple => simp [Role.isOfProperty] at role
    | _ => exact tracked.overrides rfl

/-- References that were followed lead to concepts or are on the way. -/
theorem Tracked.traversed_of_asks
    (inside : x.1.role ≠ .document) (h : Asks x y) :
  ∀ t ∈ y.2.traversed, Conceptual y.2.document y.2.container t ∨ OnTheWay y t
  := by
  intro t mem
  cases h with
  | consults => exact .inl (tracked.away (.inl rfl) t mem)
  | handsOn h =>
    cases h with
    | root | container => exact absurd rfl inside
    | named => exact (tracked.traversed t mem).imp_right False.elim
    | enumerated => exact .inr trivial
    | structured noList =>
      exact (tracked.traversed t mem).imp_right fun onTheWay =>
        ⟨fun _ => not_exists.mpr noList, onTheWay.2⟩
    | firstAlternative rule =>
      obtain conceptual | ⟨noList, last, key, v, chain, leads, taken⟩ := tracked.traversed t mem
      · exact .inl conceptual
      · have step : Takes _ _ := ⟨noList rfl, rule, rfl⟩
        exact .inr ⟨Role.noConfusion, last, key, v, chain, leads, taken.tail step⟩
    | aliased rule =>
      obtain conceptual | ⟨noList, last, key, v, chain, leads, taken⟩ := tracked.traversed t mem
      · exact .inl conceptual
      · apply Or.inr
        intro r held isLocal
        exact chain.tail ⟨key, v, _, leads, taken, noList rfl, rule, held, isLocal⟩
    | concept rule _ isSet => exact .inl (tracked.conceptual rule isSet t mem)
    | member => exact .inl (tracked.away (.inr rfl) t mem)
    | alternation | deferral | array | union | inline | tupleAsConcept | tupleAsText | items
    | tuple => exact .inl (tracked.away (.inl rfl) t mem)
    | inside rule =>
      apply (tracked.traversed t mem).imp_right
      rintro onTheWay r rfl
      exact onTheWay r rfl rule
    | followed resolves _ leads =>
      obtain ⟨key, leadsTo, -⟩ := resolve_eq_definition resolves leads
      obtain rfl | mem := List.mem_cons.mp mem
      · exact .inr ⟨Role.noConfusion, t, key, _, .refl, leadsTo, .refl⟩
      · apply (tracked.traversed t mem).imp_right
        intro onTheWay
        exact ⟨Role.noConfusion, _, key, _, onTheWay _ rfl, leadsTo, .refl⟩

/-- What a tracked visit reaches is tracked. -/
theorem Tracked.reached
    (inside : x.1.role ≠ .document) (h : ReflTransGen Asks x y) :
  Tracked y
  := by
  induction h with
  | refl => exact tracked
  | tail reached step ih =>
    have inside := (stays_of_reached inside reached).2.2
    exact ⟨ih.overrides_of_asks step, ih.traversed_of_asks inside step⟩

omit tracked in
/-- The parts of a document are tracked. -/
theorem tracked_of_part
    {document : Json} {path : List String} {c : Context} (fresh : c.traversed = [])
    (bare : c.overrides = {}) (h : HandsOn (⟨.document, document, path⟩, c) x) :
  Tracked x ∧ x.1.role ≠ .document ∧ x.2.document = wholeOf document ∧
    x.2.container = containerOf document c.container
  := by
  have none : ∀ t, t ∉ (c.enter document).traversed := by simp [Context.enter, fresh]
  cases h with
  | root | container =>
    exact ⟨⟨fun _ => bare, fun t mem => absurd mem (none t)⟩, Role.noConfusion, rfl, rfl⟩

end

/-! ### Fields of a concept -/

section

variable {α β : Type} {l : List α} {names : α → List β} {key : α → β} {kept : α → Bool}

theorem length_flatMap_le_filter
    (few : ∀ a ∈ l, (names a).length ≤ 1) (left : ∀ a ∈ l, kept a = false → names a = []) :
  (l.flatMap names).length ≤ (l.filter kept).length
  := by
  induction l with
  | nil => simp
  | cons a rest ih =>
    obtain ⟨few, fewer⟩ := List.forall_mem_cons.mp few
    obtain ⟨left, others⟩ := List.forall_mem_cons.mp left
    have ih := ih fewer others
    cases isKept : kept a with
    | false => simpa [left isKept, isKept] using ih
    | true =>
      simp only [List.flatMap_cons, List.length_append, List.filter_cons_of_pos isKept,
        List.length_cons]
      omega

/-- When every element has one name at most, and none unless it is kept, the names are the
keys of what is kept only if each of these has its key for a name. -/
theorem flatMap_eq_map_filter_iff
    (few : ∀ a ∈ l, (names a).length ≤ 1) (left : ∀ a ∈ l, kept a = false → names a = []) :
  l.flatMap names = (l.filter kept).map key ↔ ∀ a ∈ l, kept a = true → names a = [key a]
  := by
  induction l with
  | nil => simp
  | cons a rest ih =>
    obtain ⟨few, fewer⟩ := List.forall_mem_cons.mp few
    obtain ⟨left, others⟩ := List.forall_mem_cons.mp left
    rw [List.forall_mem_cons, ← ih fewer others]
    cases isKept : kept a with
    | false => simp [left isKept, isKept]
    | true =>
      simp only [List.flatMap_cons, List.filter_cons_of_pos isKept, List.map_cons, forall_const]
      have short := length_flatMap_le_filter fewer others
      constructor
      · intro same
        cases own : names a with
        | nil =>
          -- the rest has too few names to make up for this one
          have := congrArg List.length same
          simp only [own, List.nil_append, List.length_cons, List.length_map] at this
          omega
        | cons b more =>
          obtain rfl : more = [] := by simpa [own] using few
          simpa [own] using same
      · rintro ⟨own, same⟩
        simp [own, same]

end

theorem map_name_filterMap_field?
    {members : List (String × Json)} {each : String × Json → Results} :
  ((members.flatMap fun e => (each e).flatten).filterMap Found.field?).map Field.name =
    members.flatMap fun e => fieldNames (each e)
  := by
  rw [List.filterMap_flatMap, List.map_flatMap]
  rfl

open Classical in
/-- The names of the fields of a concept, among other concepts that are being read. -/
theorem fieldNames_of_concept
    {v : Json} {path : List String} {c : Context} {found : Results}
    (tracked : Tracked (⟨.structural, v, path⟩, c))
    (rule : (Body.ofJson v).structuralRule = .concept)
    {members : List (String × Json)} (held : (Body.ofJson v).getD "properties" = .object members)
    (reads : Reads ⟨.structural, v, path⟩ c found) :
  ∃ d rest, found.flatten = .declaration d :: rest ∧ d.name = normalizeName (nameOf path) ∧
    (d.fields.map Field.name =
        (members.filter fun e => Kept c.document c.container e.1 e.2).map Prod.fst ↔
      ∀ e ∈ members, Kept c.document c.container e.1 e.2 →
        Faithful c.document c.container e.1 e.2)
  := by
  obtain ⟨each, read, rfl⟩ := each_of_concept rule held reads
  have named : ∀ e ∈ members, Named c.document c.container e.2 e.1 e.1 (fieldNames (each e)) := by
    intro e mem
    have bare : c.overrides = {} := tracked.overrides rfl
    have route := routeFields_of_reads (read e mem)
    have names := route.named (tracked.conceptual rule (by simp [held]))
    simpa [fieldNames, nameOf, bare, Context.bare] using names
  refine ⟨_, _, flatten_conceptResults _ _, rfl, ?_⟩
  simp only [Declaration.fields, map_name_filterMap_field?]
  rw [flatMap_eq_map_filter_iff]
  · simp only [decide_eq_true_eq]
    constructor
    · intro same e mem kept
      exact ((named e mem).eq_singleton_iff kept).mp (same e mem kept)
    · intro faithful e mem kept
      exact ((named e mem).eq_singleton_iff kept).mpr (faithful e mem kept)
  · exact fun e mem => (named e mem).length_le
  · exact fun e mem left => (named e mem).eq_nil (by simpa using left)

section

variable {document namespaceName : Json} {metaNamespace : String} {given : List String}

/-- A visit on the way from a document is tracked and stays in it. -/
theorem tracked_of_visited
    {x : Visit} (inside : x.1.role ≠ .document)
    (visited : ReflTransGen Asks
      (⟨.document, document, []⟩, .start namespaceName metaNamespace given) x) :
  Tracked x ∧ x.2.document = wholeOf document ∧ x.2.container = containerOf document given
  := by
  obtain rfl | ⟨y, step, reached⟩ := visited.cases_head
  · exact absurd rfl inside
  cases step with
  | handsOn step =>
    obtain ⟨tracked, inside, sameDocument, sameContainer⟩ := tracked_of_part rfl rfl step
    have stays := stays_of_reached inside reached
    exact ⟨tracked.reached inside reached, stays.1.trans sameDocument,
      stays.2.1.trans sameContainer⟩

/-- A visit on the way of an inference that succeeds is tracked, stays in the document and has
results. -/
theorem reads_of_visited
    {ms : Models}
    (inferred : (inferModels document namespaceName metaNamespace
      (given.map .string)).outcome = .ok ms)
    {x : Visit} (inside : x.1.role ≠ .document)
    (visited : ReflTransGen Asks
      (⟨.document, document, []⟩, .start namespaceName metaNamespace given) x) :
  Tracked x ∧ x.2.document = wholeOf document ∧ x.2.container = containerOf document given ∧
    ∃ found, Reads x.1 x.2 found
  := by
  obtain ⟨tracked, sameDocument, sameContainer⟩ := tracked_of_visited inside visited
  obtain ⟨_, reads, -⟩ := reads_of_inferModels inferred
  exact ⟨tracked, sameDocument, sameContainer, exists_reads_of_reached reads visited⟩

open Classical in
/-- The fields of a concept have the keys of its properties for names, leaving out those that
are reserved or dropped, exactly when all others are faithful. -/
theorem fieldNames_eq_keys_iff
    {ms : Models}
    (inferred : (inferModels document namespaceName metaNamespace
      (given.map .string)).outcome = .ok ms)
    {v : Json} {path : List String} {c : Context}
    (visited : ReflTransGen Asks
      (⟨.document, document, []⟩, .start namespaceName metaNamespace given)
      (⟨.structural, v, path⟩, c))
    (rule : (Body.ofJson v).structuralRule = .concept)
    {members : List (String × Json)} (held : (Body.ofJson v).getD "properties" = .object members) :
  ∃ found d rest, Reads ⟨.structural, v, path⟩ c found ∧
    found.flatten = .declaration d :: rest ∧ d.name = normalizeName (nameOf path) ∧
    (d.fields.map Field.name =
        (members.filter fun e =>
          Kept (wholeOf document) (containerOf document given) e.1 e.2).map Prod.fst ↔
      ∀ e ∈ members, Kept (wholeOf document) (containerOf document given) e.1 e.2 →
        Faithful (wholeOf document) (containerOf document given) e.1 e.2)
  := by
  obtain ⟨tracked, sameDocument, sameContainer, found, reads⟩ :=
    reads_of_visited inferred Role.noConfusion visited
  obtain ⟨d, rest, names⟩ := fieldNames_of_concept tracked rule held reads
  rw [← sameDocument, ← sameContainer]
  exact ⟨found, d, rest, reads, names⟩

/-- A matrix as a list of lists. -/
def nestedLists : Json :=
  .object
    [("properties", .object [("matrix", .object [("$ref", .string "#/definitions/Rows")])]),
      ("definitions", .object
        [("Rows", .object
            [("type", .string "array"),
              ("items", .object [("$ref", .string "#/definitions/Row")])]),
          ("Row", .object
            [("type", .string "array"),
              ("items", .object [("type", .string "number")])])])]

open Classical in
theorem fieldNames_eq_keys_iff_nestedLists :
  ∃ found d rest, Reads ⟨.structural, nestedLists, ["Root"]⟩
      ((Context.start (.string "org.acme") defaultMetaNamespace []).enter nestedLists) found ∧
    found.flatten = .declaration d :: rest ∧ d.name = normalizeName (nameOf ["Root"]) ∧
    (d.fields.map Field.name =
        ([("matrix", .object [("$ref", .string "#/definitions/Rows")])].filter fun e =>
          Kept (wholeOf nestedLists) (containerOf nestedLists []) e.1 e.2).map Prod.fst ↔
      ∀ e ∈ [("matrix", .object [("$ref", .string "#/definitions/Rows")])],
        Kept (wholeOf nestedLists) (containerOf nestedLists []) e.1 e.2 →
          Faithful (wholeOf nestedLists) (containerOf nestedLists []) e.1 e.2)
  := by
  obtain ⟨ms, inferred⟩ : ∃ ms, (inferModels nestedLists (.string "org.acme") defaultMetaNamespace
      []).outcome = .ok ms := Report.exists_outcome_eq_ok (by decide +kernel)
  have root : (rootName nestedLists).outcome = .ok "Root" := by decide +kernel
  have noList : ∀ elements, nestedLists.get? "enum" ≠ some (.array elements) := by
    simp [nestedLists, Json.get?, Json.lookup?]
  have visited : ReflTransGen Asks (⟨.document, nestedLists, []⟩,
      .start (.string "org.acme") defaultMetaNamespace []) (⟨.structural, nestedLists, ["Root"]⟩,
        (Context.start (.string "org.acme") defaultMetaNamespace []).enter nestedLists) :=
    .head (.handsOn (.root root)) (.single (.handsOn (.structured noList)))
  exact @fieldNames_eq_keys_iff _ _ _ [] ms inferred _ _ _ visited (by decide +kernel) _ rfl

/-- The field of the matrix has the name of the list of its rows. -/
theorem fieldNames_nestedLists :
  ((inferModels nestedLists (.string "org.acme") defaultMetaNamespace
      []).outcome.toOption.map fun ms =>
    ms.models.map fun m => m.declarations.map fun d => (d.name, d.fields.map Field.name)) =
      some [[("Root", ["Rows"])]]
  := by
  decide +kernel

end

end ConceptModel.Inference
