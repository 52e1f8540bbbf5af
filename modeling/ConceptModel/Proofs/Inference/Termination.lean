import ConceptModel.Proofs.Inference.Entry
import Mathlib.Data.Finset.Card
import Mathlib.Tactic.Linarith
import Mathlib.Tactic.Positivity

/-!
# Termination

A document is read within a depth that its size bounds, unless the definition of an array
leads back to itself.  A reading that follows a reference has one reference less to follow,
and a reading that goes on at an array leaves the definition of this array behind; in
between it descends to fragments of less weight.
-/

namespace ConceptModel.Inference

open Json Relation

/-! ### Definitions -/

/-- Whether the definition of a key is an array, or has one in its chain of first
alternatives. -/
def IsArrayDefinition (document : Json) (container : List String) (key : String) : Prop :=
  ∃ v u, definition? document container key = some v ∧ ReflTransGen Takes v u ∧
    (Body.ofJson u).hasType "array"

/-- The keys of the definitions. -/
def definitionKeys (document : Json) (container : List String) : List String :=
  match document.getPath? (placeOf container) with
  | some (.object fields) => fields.map Prod.fst
  | _ => []

section

variable {document : Json} {container : List String} {key : String} {v u : Json}

/-- The key of a definition is one of the keys of the document. -/
theorem mem_definitionKeys
    (h : definition? document container key = some v) :
  key ∈ definitionKeys document container
  := by
  obtain ⟨w, held, h⟩ := Option.bind_eq_some_iff.mp h
  cases w with
  | object fields =>
    simp only [definitionKeys, held]
    exact List.mem_map_of_mem (f := Prod.fst) (mem_of_lookup?_eq_some h)
  | _ => simp [get?] at h

end

/-- A definition is no larger than the document. -/
theorem size_le_of_definition?
    {document : Json} {container : List String} {key : String} {v : Json}
    (h : definition? document container key = some v) :
  v.size ≤ document.size
  := by
  obtain ⟨w, held, h⟩ := Option.bind_eq_some_iff.mp h
  have outer := size_le_of_getPath? held
  have inner : v.size ≤ w.size := by
    have place : w.getPath? [key] = some v := by simp [getPath?, h]
    exact size_le_of_getPath? place
  omega

/-- A definition is nested no deeper than the document is large. -/
theorem nesting_le_of_definition?
    {document : Json} {container : List String} {key : String} {v : Json}
    (h : definition? document container key = some v) :
  v.nesting ≤ document.size
  := Nat.le_trans (nesting_le_size v) (size_le_of_definition? h)

/-- The array at which a chain ends nests no deeper than the document. -/
theorem nesting_le_of_endsAt
    {document : Json} {container : List String} {r key : String} {u : Json}
    (ends : EndsAt document container r key u) (rule : (Body.ofJson u).structuralRule = .array) :
  (Json.object (Body.ofJson u)).nesting ≤ document.size
  := by
  obtain ⟨v, held, taken⟩ := ends.definition?
  have typed : (Body.ofJson u).getD "type" ≠ .null := by
    have hasType := Body.hasType_of_structuralRule rule
    intro unset
    simp [Body.hasType, unset] at hasType
  rw [Body.object_ofJson typed (by decide)]
  exact Nat.le_trans (nesting_le_of_takes taken) (nesting_le_of_definition? held)

/-- A document has no more definitions than its size. -/
theorem length_definitionKeys_le
    (document : Json) (container : List String) :
  (definitionKeys document container).length ≤ document.size
  := by
  unfold definitionKeys
  split
  next fields held =>
    have := size_le_of_getPath? held
    have := length_le_sizeFields fields
    simp only [size, List.length_map] at *
    omega
  next => simp

/-! ### What remains -/

/-- Whether the definition of a key may be reached from a fragment by references. -/
def Fragment.Reaches (f : Fragment) (document : Json) (container : List String)
    (key : String) : Prop :=
  ∃ r ∈ f.references, ∃ first v, LeadsTo document container r first v ∧
    ReflTransGen (Refers document container) first key

open Classical in
/-- The references that a visit has not followed yet. -/
noncomputable def unfollowed (document : Json) (x : Visit) : Finset String :=
  document.references.toFinset \ x.2.traversed.toFinset

open Classical in
/-- The arrays among the definitions that a visit may reach. -/
noncomputable def arraysAhead (document : Json) (container : List String) (x : Visit) :
    Finset String :=
  (definitionKeys document container).toFinset.filter fun key =>
    IsArrayDefinition document container key ∧ x.1.Reaches document container key

/-- What remains to be done for a visit in a document: the references to be followed and
the arrays ahead count more than any fragment of the document weighs. -/
noncomputable def remaining (document : Json) (container : List String) (x : Visit) : Nat :=
  (8 * document.size + 6) *
      ((unfollowed document x).card + (arraysAhead document container x).card)
    + x.1.weight

section

variable {document : Json} {container : List String} {x y : Visit}

/-- A visit that reaches no more definitions has no more arrays ahead. -/
theorem arraysAhead_subset
    (h : ∀ key, y.1.Reaches document container key → x.1.Reaches document container key) :
  arraysAhead document container y ⊆ arraysAhead document container x
  := by
  intro key mem
  simp only [arraysAhead, Finset.mem_filter] at mem ⊢
  exact ⟨mem.1, mem.2.1, h key mem.2.2⟩

/-- What is left to be followed outweighs every fragment of the document. -/
theorem weighted_lt_of_lt
    {m n : Nat} (less : m < n) (nesting : y.1.body.nesting ≤ document.size) :
  (8 * document.size + 6) * m + y.1.weight < (8 * document.size + 6) * n + x.1.weight
  := by
  have rank := y.1.rank_le
  have weight : y.1.weight < 8 * document.size + 6 := by
    unfold Fragment.weight
    omega
  have product := Nat.mul_le_mul_left (8 * document.size + 6) (Nat.succ_le_of_lt less)
  rw [Nat.mul_succ] at product
  omega

/-- A lighter visit counts less, with no more arrays ahead. -/
theorem weighted_lt_of_le
    {m n : Nat} (le : m ≤ n) (weight : y.1.weight < x.1.weight) :
  (8 * document.size + 6) * m + y.1.weight < (8 * document.size + 6) * n + x.1.weight
  := by
  have product := Nat.mul_le_mul_left (8 * document.size + 6) le
  omega

theorem unfollowed_eq
    (traversed : y.2.traversed = x.2.traversed) :
  unfollowed document y = unfollowed document x
  := by
  simp only [unfollowed, traversed]

/-- Following a reference leaves fewer to follow. -/
theorem card_unfollowed_lt
    {r : String} (mem : r ∈ document.references) (fresh : r ∉ x.2.traversed)
    (traversed : y.2.traversed = r :: x.2.traversed) :
  (unfollowed document y).card < (unfollowed document x).card
  := by
  apply Finset.card_lt_card
  apply Finset.ssubset_iff_of_subset _ |>.mpr
  · use r
    simp [unfollowed, traversed, fresh, mem]
  · intro s hs
    simp only [unfollowed, traversed, Finset.mem_sdiff, List.mem_toFinset, List.mem_cons,
      not_or] at hs ⊢
    exact ⟨hs.1, hs.2.2⟩

theorem card_unfollowed_le :
  (unfollowed document x).card ≤ document.size
  := by
  have := Finset.card_le_card (Finset.sdiff_subset (s := document.references.toFinset)
    (t := x.2.traversed.toFinset))
  have := List.toFinset_card_le document.references
  have := references_length_le document
  unfold unfollowed
  omega

/-- Every step leaves less to be done, when no array definition leads back to itself. -/
theorem remaining_lt_of_asks
    (noCycle : ∀ key, TransGen (Refers document container) key key →
      ¬ IsArrayDefinition document container key)
    (inside : Inside document container x) (h : Asks x y) :
  remaining document container y < remaining document container x
  := by
  cases proceeds_of_asks inside.role inside.fits h with
  | descends references weight traversed =>
    have fewer : arraysAhead document container y ⊆ arraysAhead document container x :=
      arraysAhead_subset fun key ⟨r, mem, reached⟩ => ⟨r, references mem, reached⟩
    unfold remaining
    rw [unfollowed_eq traversed]
    apply weighted_lt_of_le _ weight
    apply Nat.add_le_add_left (Finset.card_le_card fewer)
  | @follows r key v mem fresh leads next traversed =>
    rw [inside.document_eq, inside.container_eq] at leads
    have less := card_unfollowed_lt (inside.references mem) fresh traversed
    have ahead : arraysAhead document container y ⊆ arraysAhead document container x := by
      apply arraysAhead_subset
      rintro other ⟨s, hs, first, w, leads', reached⟩
      rw [next] at hs
      exact ⟨r, mem, key, v, leads, .head ⟨v, s, w, leads.definition?, hs, leads'⟩ reached⟩
    apply weighted_lt_of_lt
    · have := Finset.card_le_card ahead
      omega
    · rw [next]
      exact nesting_le_of_definition? leads.definition?
  | @defers r key u mem ends rule next traversed =>
    rw [inside.document_eq, inside.container_eq] at ends
    have nesting := nesting_le_of_endsAt ends rule
    obtain ⟨last, v, chain, leads, taken, -⟩ := ends
    have hasType := Body.hasType_of_structuralRule rule
    -- What the array reaches lies beyond its definition.
    have beyond (other : String) (h : y.1.Reaches document container other) :
        TransGen (Refers document container) key other := by
      obtain ⟨s, hs, first, w, leads', reached⟩ := h
      rw [next] at hs
      have mem := references_subset_of_takes taken (Body.references_ofJson_subset hs)
      exact .head' ⟨v, s, w, leads.definition?, mem, leads'⟩ reached
    have reaches : x.1.Reaches document container key := by
      obtain ⟨first, w, leads'⟩ := exists_leadsTo_of_chain chain leads
      exact ⟨r, mem, first, w, leads', refers_of_onto chain leads' leads⟩
    have isArray : IsArrayDefinition document container key :=
      ⟨v, u, leads.definition?, taken, hasType⟩
    have less : arraysAhead document container y ⊂ arraysAhead document container x := by
      apply Finset.ssubset_iff_of_subset _ |>.mpr
      · use key
        simp only [arraysAhead, Finset.mem_filter, List.mem_toFinset]
        constructor
        · exact ⟨mem_definitionKeys leads.definition?, isArray, reaches⟩
        · rintro ⟨-, -, again⟩
          exact noCycle key (beyond key again) isArray
      · apply arraysAhead_subset
        intro other h
        obtain ⟨r, mem, first, w, leads', reached⟩ := reaches
        exact ⟨r, mem, first, w, leads', reached.trans (beyond other h).to_reflTransGen⟩
    unfold remaining
    rw [unfollowed_eq traversed]
    apply weighted_lt_of_lt
    · have := Finset.card_lt_card less
      omega
    · rwa [next]

/-- A visit finishes within a depth that exceeds what remains to be done. -/
theorem finishes_of_remaining_lt
    (noCycle : ∀ key, TransGen (Refers document container) key key →
      ¬ IsArrayDefinition document container key)
    (inside : Inside document container x) {depth : Nat}
    (h : remaining document container x < depth) :
  (readWithin depth x.1 x.2).Finishes
  := by
  apply finishes_of_measure_lt _ inside h
  intro x y inside asks
  exact ⟨inside.asks asks, remaining_lt_of_asks noCycle inside asks⟩

end

/-! ### Documents -/

/-- The depth within which a document is read. -/
def documentDepth (document : Json) : Nat :=
  16 * ((document.size + 3) * (document.size + 3) * (document.size + 3))

/-- The bound of a document's visit is its depth. -/
theorem depthBound_start
    (document namespaceName : Json) (metaNamespace : String) (container : List String) :
  depthBound ⟨.document, document, []⟩ (.start namespaceName metaNamespace container) =
    documentDepth document
  := by
  have size : Json.null.size + document.size + 2 = document.size + 3 := by
    simp only [Json.size]
    omega
  simp only [depthBound, Context.start, size, documentDepth]

theorem size_wholeOf_le
    (document : Json) :
  (wholeOf document).size ≤ document.size + 1
  := by
  cases document with
  | object fields => exact Nat.le_succ _
  | bool value => cases value <;> decide
  | _ => simp [wholeOf, Body.ofJson, Json.size, sizeFields]

/-- The parts of a document lie inside of it, and nest hardly deeper than its size. -/
theorem inside_of_asks_document
    {document : Json} {c : Context} {path : List String} {y : Visit}
    (asks : Asks (⟨.document, document, path⟩, c) y) :
  Inside (wholeOf document) (containerOf document c.container) y ∧
    y.1.body.nesting ≤ document.size + 1
  := by
  cases asks with
  | handsOn h =>
    cases h with
    | root named =>
      constructor
      · exact inside_root named
      · exact Nat.le_succ_of_le (nesting_le_size document)
    | container held =>
      constructor
      · exact inside_definitions held
      · have within := size_le_of_getPath? (definitions?_eq_some held).1
        exact Nat.le_trans (nesting_le_size _) (Nat.le_trans within (size_wholeOf_le document))

/-- What remains of a visit is bounded by the size of the document. -/
theorem remaining_le
    {document : Json} {container : List String} {x : Visit} {bound : Nat}
    (document_le : document.size ≤ bound) (nesting_le : x.1.body.nesting ≤ bound) :
  remaining document container x ≤ (8 * bound + 6) * (2 * bound) + 8 * bound + 5
  := by
  have followed : (unfollowed document x).card ≤ document.size := card_unfollowed_le
  have ahead : (arraysAhead document container x).card ≤ bound := by
    have subset : arraysAhead document container x ⊆
        (definitionKeys document container).toFinset := by
      intro key mem
      simp only [arraysAhead, Finset.mem_filter] at mem
      exact mem.1
    have := Finset.card_le_card subset
    have := List.toFinset_card_le (definitionKeys document container)
    have := length_definitionKeys_le document container
    omega
  have rank := x.1.rank_le
  have product : (8 * document.size + 6) *
      ((unfollowed document x).card + (arraysAhead document container x).card) ≤
      (8 * bound + 6) * (2 * bound) := by
    apply Nat.mul_le_mul <;> omega
  unfold remaining Fragment.weight
  omega

/-- A document is read within a depth that depends on its size only, and no deeper reader
says anything else, unless the definition of an array leads back to itself. -/
theorem finishes_document
    (document namespaceName : Json) (metaNamespace : String) (given : List String)
    (noCycle : ∀ key,
      TransGen (Refers (wholeOf document) (containerOf document given)) key key →
      ¬ IsArrayDefinition (wholeOf document) (containerOf document given) key)
    {depth : Nat} (enough : documentDepth document ≤ depth) :
  (readWithin depth ⟨.document, document, []⟩
      (.start namespaceName metaNamespace given)).Finishes ∧
    readWithin depth ⟨.document, document, []⟩ (.start namespaceName metaNamespace given) =
      read ⟨.document, document, []⟩ (.start namespaceName metaNamespace given)
  := by
  have finishes : (readWithin (documentDepth document) ⟨.document, document, []⟩
      (.start namespaceName metaNamespace given)).Finishes := by
    have positive : 0 < documentDepth document := by
      unfold documentDepth
      positivity
    obtain ⟨bound, same⟩ := Nat.exists_eq_succ_of_ne_zero positive.ne'
    have large : (8 * (document.size + 1) + 6) * (2 * (document.size + 1)) +
        8 * (document.size + 1) + 5 < bound := by
      unfold documentDepth at same
      nlinarith
    rw [same]
    apply finishes_readWithin_succ
    intro y asks
    obtain ⟨inside, nesting⟩ := inside_of_asks_document asks
    apply finishes_of_remaining_lt noCycle inside
    exact Nat.lt_of_le_of_lt (remaining_le (size_wholeOf_le document) nesting) large
  constructor
  · have := readWithin_eq_of_le enough finishes
    rwa [Report.Finishes, this]
  · rw [read, depthBound_start]
    apply readWithin_eq_of_le enough finishes

/-- A document with a list of nodes, each of which refers to another one. -/
def linkedNodes : Json :=
  .object
    [("properties", .object [("nodes", .object [("$ref", .string "#/definitions/Nodes")])]),
      ("definitions", .object
        [("Nodes", .object
            [("type", .string "array"),
              ("items", .object [("$ref", .string "#/definitions/Node")])]),
          ("Node", .object
            [("type", .string "object"),
              ("properties", .object
                [("next", .object [("$ref", .string "#/definitions/Node")])])])])]

theorem refers_linkedNodes
    {key other : String}
    (h : Refers (wholeOf linkedNodes) (containerOf linkedNodes []) key other) :
  other = "Node"
  := by
  obtain ⟨v, r, w, held, mem, leads⟩ := h
  have references : ∀ key ∈ definitionKeys (wholeOf linkedNodes) (containerOf linkedNodes []),
      (definition? (wholeOf linkedNodes) (containerOf linkedNodes []) key).map Json.references =
        some ["#/definitions/Node"] := by
    decide +kernel
  have own : v.references = ["#/definitions/Node"] := by
    simpa [held] using references key (mem_definitionKeys held)
  obtain rfl : r = "#/definitions/Node" := by simpa [own] using mem
  have pointer : (Reference.resolve (wholeOf linkedNodes) (containerOf linkedNodes [])
      "#/definitions/Node").toOption.map Reference.Resolved.pointer =
        some (placeOf (containerOf linkedNodes []) ++ ["Node"]) := by
    decide +kernel
  rw [leads] at pointer
  simpa [Except.toOption] using pointer

/-- The nodes lead back to themselves, but the list of them does not. -/
theorem finishes_document_linkedNodes :
  (∀ key, TransGen (Refers (wholeOf linkedNodes) (containerOf linkedNodes [])) key key →
      ¬ IsArrayDefinition (wholeOf linkedNodes) (containerOf linkedNodes []) key) ∧
    (readWithin (documentDepth linkedNodes) ⟨.document, linkedNodes, []⟩
      (.start (.string "org.acme") defaultMetaNamespace [])).Finishes
  := by
  have noCycle : ∀ key,
      TransGen (Refers (wholeOf linkedNodes) (containerOf linkedNodes [])) key key →
      ¬ IsArrayDefinition (wholeOf linkedNodes) (containerOf linkedNodes []) key := by
    intro key cycle
    obtain ⟨_, -, last⟩ := TransGen.tail'_iff.mp cycle
    obtain rfl := refers_linkedNodes last
    rintro ⟨v, u, held, taken, isArray⟩
    have rule : (definition? (wholeOf linkedNodes) (containerOf linkedNodes []) "Node").map
        (fun v => ((Body.ofJson v).structuralRule, (Body.ofJson v).hasType "array")) =
          some (.concept, false) := by
      decide +kernel
    obtain ⟨rule, noArray⟩ := by simpa [held] using rule
    obtain rfl | ⟨w, ⟨-, alternation, -⟩, -⟩ := taken.cases_head
    · simp [noArray] at isArray
    · simp [rule] at alternation
  constructor
  · exact noCycle
  · exact (finishes_document linkedNodes (.string "org.acme") defaultMetaNamespace [] noCycle
      (Nat.le_refl _)).1

end ConceptModel.Inference
