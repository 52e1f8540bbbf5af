import ConceptModel.Proofs.Inference.Consult
import ConceptModel.Proofs.Inference.Termination

/-!
# The bound of a document

Whatever a reader of any depth reads of a document is read within the bound that the
document sets: `reads_document_iff`.  A reading that comes to an end never asks for a
`Twin` of a visit on its way, as it would then ask for the same again and again.  So each
array is resumed once at most while the same references are being followed, and what is
`outstanding` gets less with each step.
-/

namespace ConceptModel.Inference

open Json Relation Text

/-! ### What has been asked for -/

/-- A step that has a result has asked for results only. -/
theorem exists_outcome_of_asks
    {depth : Nat} {x y : Visit} {found : Results} (inside : x.1.role ≠ .document)
    (h : (readWithin (depth + 1) x.1 x.2).outcome = .ok found) (asks : Asks x y) :
  ∃ asked, (readWithin depth y.1 y.2).outcome = .ok asked
  := by
  have sound : ∀ f c r, (readWithin depth f c).outcome = .ok r → Reads f c r :=
    fun _ _ _ => reads_of_readWithin
  simp only [readWithin, step] at h
  cases asks with
  | consults name rule =>
    simp only [readProperty, List.contains_iff_mem, name, if_false, rule,
      Report.bind_outcome_eq_ok] at h
    obtain ⟨asked, h, -⟩ := h
    exact ⟨asked, h⟩
  | handsOn handsOn =>
    cases handsOn with
    | root | container => exact absurd rfl inside
    | named held | member held =>
      obtain ⟨_, same, _, h, -⟩ := readMembers_outcome_eq_ok.mp h
      obtain rfl := by simpa using same
      obtain ⟨each, h, -⟩ := readEach_outcome_eq_ok.mp h
      exact ⟨_, h _ held⟩
    | enumerated rule =>
      simp only [readDefinition, rule] at h
      exact ⟨found, h⟩
    | structured noList =>
      change (readDefinition _ _ _ _).outcome = _ at h
      unfold readDefinition at h
      split at h
      next elements lists => exact absurd lists (noList elements)
      next => exact ⟨found, h⟩
    | firstAlternative rule =>
      simp only [readStructural, rule] at h
      obtain ⟨-, -, h⟩ := Report.bind_outcome_eq_ok.mp h
      exact ⟨found, h⟩
    | aliased rule =>
      simp only [readStructural, rule] at h
      exact ⟨found, h⟩
    | concept rule fits isSet =>
      simp only [readStructural, rule, Report.bind_outcome_eq_ok] at h
      obtain ⟨strict, -, h⟩ := h
      split at h
      · simp at h
      · unfold readConcept at h
        split at h
        next unset => exact absurd unset isSet
        next =>
          obtain ⟨children, h, -⟩ := Report.bind_outcome_eq_ok.mp h
          exact ⟨children, h⟩
    | alternation name rule | union name rule =>
      simp only [readProperty, List.contains_iff_mem, name, if_false, rule] at h
      obtain ⟨-, -, h⟩ := Report.bind_outcome_eq_ok.mp h
      exact ⟨found, h⟩
    | array name rule =>
      simp only [readProperty, List.contains_iff_mem, name, if_false, rule] at h
      exact ⟨found, h⟩
    | inline name rule =>
      simp only [readProperty, List.contains_iff_mem, name, if_false, rule] at h
      obtain ⟨derived, h, -⟩ := Report.bind_outcome_eq_ok.mp h
      exact ⟨derived, h⟩
    | deferral name rule consulted =>
      simp only [readProperty, List.contains_iff_mem, name, if_false, rule,
        Report.bind_outcome_eq_ok] at h
      obtain ⟨asked, first, h⟩ := h
      obtain rfl := consulted.unique (sound _ _ _ first)
      exact ⟨found, h⟩
    | tupleAsConcept held rule | tupleAsText held rule =>
      obtain ⟨items, held', h⟩ := Report.bind_outcome_eq_ok.mp h
      rw [requireKeyword_outcome_eq_ok] at held'
      obtain rfl := by simpa using held.symm.trans held'
      simp [rule] at h
      exact ⟨found, h⟩
    | items held noArray =>
      obtain ⟨item, held', h⟩ := Report.bind_outcome_eq_ok.mp h
      rw [requireKeyword_outcome_eq_ok] at held'
      obtain rfl := by simpa using held.symm.trans held'
      split at h
      · simp [isArray] at noArray
      · exact ⟨found, h⟩
    | tuple held greatestHeld isUpTo lists leastHeld isFrom =>
      simp only [readTuple, Report.bind_outcome_eq_ok, requireKeyword_outcome_eq_ok,
        Report.ofExcept_outcome] at h
      obtain ⟨_, held', _, greatestHeld', _, isUpTo', _, lists', _, leastHeld', _, isFrom', h⟩ := h
      obtain rfl := by simpa using held.symm.trans held'
      obtain rfl := by simpa using greatestHeld.symm.trans greatestHeld'
      obtain rfl := by simpa using isUpTo.symm.trans isUpTo'
      obtain rfl := by simpa using lists.symm.trans lists'
      obtain rfl := by simpa using leastHeld.symm.trans leastHeld'
      obtain rfl := by simpa using isFrom.symm.trans isFrom'
      exact ⟨found, h⟩
    | inside rule =>
      simp only [readReference, rule, if_true] at h
      exact ⟨found, h⟩
    | followed resolves fresh leads =>
      simp [readLocalReference, followReference, resolves, fresh, leads] at h
      exact ⟨found, h⟩

/-! ### Twins -/

/-- Whether two visits ask for the same: they read one fragment of one document while the
same references are being followed. -/
structure Twin (x y : Visit) : Prop where
  fragment : y.1 = x.1
  document : y.2.document = x.2.document
  container : y.2.container = x.2.container
  traversed : y.2.traversed = x.2.traversed

/-- A visit that can be read asks for a twin of whatever its twin asks for. -/
theorem Twin.asks
    {x y z : Visit} {found : Results} (twin : Twin x y) (inside : y.1.role ≠ .document)
    (reads : Reads y.1 y.2 found) (asks : Asks x z) :
  ∃ w, Asks y w ∧ Twin z w
  := by
  obtain ⟨f, c⟩ := x
  obtain ⟨f', d⟩ := y
  obtain ⟨rfl, document, container, traversed⟩ := twin
  simp only at document container traversed
  cases asks with
  | consults name rule => exact ⟨_, .consults name rule, rfl, document, container, traversed⟩
  | handsOn handsOn =>
    cases handsOn with
    | root | container => exact absurd rfl inside
    | named held => exact ⟨_, .handsOn (.named held), rfl, document, container, traversed⟩
    | enumerated rule =>
      exact ⟨_, .handsOn (.enumerated rule), rfl, document, container, traversed⟩
    | structured rule =>
      exact ⟨_, .handsOn (.structured rule), rfl, document, container, traversed⟩
    | firstAlternative rule =>
      exact ⟨_, .handsOn (.firstAlternative rule), rfl, document, container, traversed⟩
    | aliased rule => exact ⟨_, .handsOn (.aliased rule), rfl, document, container, traversed⟩
    | concept rule fits isSet =>
      exact ⟨_, .handsOn (.concept rule fits isSet), rfl, document, container, traversed⟩
    | member held => exact ⟨_, .handsOn (.member held), rfl, document, container, traversed⟩
    | alternation name rule =>
      exact ⟨_, .handsOn (.alternation name rule), rfl, document, container, traversed⟩
    | deferral name rule consulted =>
      have same {found' : Results} (consulted' : Reads _ d.bare found') : gist found' = _ :=
        (gist_of_reads consulted consulted' rfl document container
          fun t _ => by simp only [Context.bare, traversed]).symm
      cases reads with
      | deferral _ _ consulted' =>
        obtain ⟨rfl, rfl⟩ := by simpa using same consulted'
        exact ⟨_, .handsOn (.deferral name rule consulted'), rfl, document, container, traversed⟩
      | dropped _ _ consulted' => simpa using same consulted'
      | referral _ _ consulted' names =>
        have named := (gist_of_referencedName names).symm.trans (same consulted')
        simp at named
      | _ => simp_all
    | array name rule =>
      exact ⟨_, .handsOn (.array name rule), rfl, document, container, traversed⟩
    | union name rule =>
      exact ⟨_, .handsOn (.union name rule), rfl, document, container, traversed⟩
    | inline name rule =>
      exact ⟨_, .handsOn (.inline name rule), rfl, document, container, traversed⟩
    | tupleAsConcept held rule =>
      exact ⟨_, .handsOn (.tupleAsConcept held rule), rfl, document, container, traversed⟩
    | tupleAsText held rule =>
      exact ⟨_, .handsOn (.tupleAsText held rule), rfl, document, container, traversed⟩
    | items held rule => exact ⟨_, .handsOn (.items held rule), rfl, document, container, traversed⟩
    | tuple held greatestHeld isUpTo lists leastHeld isFrom =>
      exact ⟨_, .handsOn (.tuple held greatestHeld isUpTo lists leastHeld isFrom), rfl, document,
        container, traversed⟩
    | inside rule => exact ⟨_, .handsOn (.inside rule), rfl, document, container, traversed⟩
    | followed resolves fresh leads =>
      rw [← document, ← container] at resolves
      rw [← traversed] at fresh
      exact ⟨_, .handsOn (.followed resolves fresh leads), rfl, document, container,
        congrArg (List.cons _) traversed⟩

/-- A visit that has a result does not come to ask for its own twin. -/
theorem not_twin_of_reached
    {depth : Nat} {x y : Visit} {found : Results} (inside : x.1.role ≠ .document)
    (h : (readWithin depth x.1 x.2).outcome = .ok found) (reached : TransGen Asks x y) :
  ¬ Twin x y
  := by
  induction depth generalizing x y found with
  | zero => simp [readWithin] at h
  | succ depth ih =>
    intro twin
    obtain ⟨z, asks, rest⟩ := TransGen.head'_iff.mp reached
    have stays := stays_of_asks inside asks
    have insideY := (stays_of_reached inside reached.to_reflTransGen).2.2
    obtain ⟨_, reads⟩ := exists_reads_of_reached (reads_of_readWithin h) reached.to_reflTransGen
    -- The twin asks for a twin of `z`, which `z` comes to ask for as well.
    obtain ⟨w, asksW, twinW⟩ := twin.asks insideY reads asks
    obtain ⟨asked, h⟩ := exists_outcome_of_asks inside h asks
    exact ih stays.2.2 h (.tail' rest asksW) twinW

/-! ### What is outstanding -/

/-- Whether a visit comes to resume the array at which the chain of a reference ends, before
it follows another reference. -/
def Resumes (document : Json) (container : List String) (x : Visit) (r : String) : Prop :=
  ∃ y key u, TransGen Asks x y ∧ y.2.traversed = x.2.traversed ∧
    EndsAt document container r key u ∧
    y.1 = ⟨.property, .object (Body.ofJson u), placeOf container ++ [key]⟩

open Classical in
/-- The references at whose arrays a visit comes to resume. -/
noncomputable def resumed (document : Json) (container : List String) (x : Visit) :
    Finset String :=
  document.references.toFinset.filter (Resumes document container x)

/-- What is outstanding for a visit in a document: a reference to be followed counts more
than all arrays to be resumed, and each of these more than any fragment of the document
weighs. -/
noncomputable def outstanding (document : Json) (container : List String) (x : Visit) : Nat :=
  (8 * document.size + 6) *
      ((document.size + 1) * (unfollowed document x).card + (resumed document container x).card)
    + x.1.weight

section

variable {document : Json} {container : List String} {x y : Visit}

open Classical in
theorem card_resumed_le :
  (resumed document container x).card ≤ document.size
  := by
  have := Finset.card_filter_le document.references.toFinset (Resumes document container x)
  have := List.toFinset_card_le document.references
  have := references_length_le document
  unfold resumed
  omega

theorem resumed_subset
    (asks : Asks x y) (traversed : y.2.traversed = x.2.traversed) :
  resumed document container y ⊆ resumed document container x
  := by
  intro r mem
  simp only [resumed, Finset.mem_filter] at mem ⊢
  obtain ⟨occurs, z, key, u, reached, same, ends, resumes⟩ := mem
  exact ⟨occurs, z, key, u, .head asks reached, same.trans traversed, ends, resumes⟩

/-- Every step of a reading that comes to an end leaves less outstanding. -/
theorem outstanding_lt_of_asks
    {found : Results} (inside : Inside document container x) (reads : Reads x.1 x.2 found)
    (asks : Asks x y) :
  outstanding document container y < outstanding document container x
  := by
  cases proceeds_of_asks inside.role inside.fits asks with
  | descends _ weight traversed =>
    unfold outstanding
    rw [unfollowed_eq traversed]
    apply weighted_lt_of_le _ weight
    exact Nat.add_le_add_left (Finset.card_le_card (resumed_subset asks traversed)) _
  | @follows r key v mem fresh leads next traversed =>
    rw [inside.document_eq, inside.container_eq] at leads
    have less := card_unfollowed_lt (inside.references mem) fresh traversed
    apply weighted_lt_of_lt
    · have few : (resumed document container y).card ≤ document.size := card_resumed_le
      have product := Nat.mul_le_mul_left (document.size + 1) (Nat.succ_le_of_lt less)
      rw [Nat.mul_succ] at product
      omega
    · rw [next]
      exact nesting_le_of_definition? leads.definition?
  | @defers r key u mem ends rule next traversed =>
    have insideY := inside.asks asks
    rw [inside.document_eq, inside.container_eq] at ends
    rw [inside.container_eq] at next
    have here : r ∈ resumed document container x := by
      simp only [resumed, Finset.mem_filter, List.mem_toFinset]
      exact ⟨inside.references mem, y, key, u, .single asks, traversed, ends, next⟩
    have past : r ∉ resumed document container y := by
      simp only [resumed, Finset.mem_filter, not_and]
      rintro - ⟨z, key', u', reached, same, ends', resumes⟩
      obtain ⟨rfl, rfl⟩ := ends.unique ends'
      obtain ⟨asked, reads⟩ := exists_reads_of_asks reads asks
      obtain ⟨depth, h⟩ := exists_depth_of_reads reads
      have stays := stays_of_reached insideY.role reached.to_reflTransGen
      have twin : Twin y z := ⟨resumes.trans next.symm, stays.1, stays.2.1, same⟩
      exact not_twin_of_reached insideY.role h reached twin
    have less : resumed document container y ⊂ resumed document container x :=
      Finset.ssubset_iff_of_subset (resumed_subset asks traversed) |>.mpr ⟨r, here, past⟩
    unfold outstanding
    rw [unfollowed_eq traversed]
    apply weighted_lt_of_lt
    · exact Nat.add_lt_add_left (Finset.card_lt_card less) _
    · rw [next]
      exact nesting_le_of_endsAt ends rule

theorem outstanding_le
    {bound : Nat} (size : document.size ≤ bound) (nesting : x.1.body.nesting ≤ bound) :
  outstanding document container x ≤
    (8 * bound + 6) * ((bound + 1) * bound + bound) + 8 * bound + 5
  := by
  have follow : (unfollowed document x).card ≤ bound := Nat.le_trans card_unfollowed_le size
  have resume : (resumed document container x).card ≤ bound := Nat.le_trans card_resumed_le size
  have rank := x.1.rank_le
  have product : (8 * document.size + 6) *
      ((document.size + 1) * (unfollowed document x).card + (resumed document container x).card) ≤
      (8 * bound + 6) * ((bound + 1) * bound + bound) := by
    apply Nat.mul_le_mul
    · omega
    · apply Nat.add_le_add _ resume
      apply Nat.mul_le_mul _ follow
      omega
  unfold outstanding Fragment.weight
  omega

/-- A visit that can be read finishes within a depth that exceeds what is outstanding. -/
theorem finishes_of_outstanding_lt
    {found : Results} (inside : Inside document container x) (reads : Reads x.1 x.2 found)
    {depth : Nat} (h : outstanding document container x < depth) :
  (readWithin depth x.1 x.2).Finishes
  := by
  apply finishes_of_measure_lt (P := fun x => Inside document container x ∧
    ∃ found, Reads x.1 x.2 found) _ ⟨inside, found, reads⟩ h
  rintro x y ⟨inside, found, reads⟩ asks
  constructor
  · exact ⟨inside.asks asks, exists_reads_of_asks reads asks⟩
  · exact outstanding_lt_of_asks inside reads asks

end

/-! ### Documents -/

section

variable {document namespaceName : Json} {metaNamespace : String} {given : List String}
  {found : Results}

/-- A document that can be read is read within the bound that it sets. -/
theorem finishes_documentDepth_of_reads
    (h : Reads ⟨.document, document, []⟩ (.start namespaceName metaNamespace given) found) :
  (readWithin (documentDepth document) ⟨.document, document, []⟩
    (.start namespaceName metaNamespace given)).Finishes
  := by
  have positive : 0 < documentDepth document := by
    unfold documentDepth
    positivity
  obtain ⟨bound, same⟩ := Nat.exists_eq_succ_of_ne_zero positive.ne'
  have large : (8 * (document.size + 1) + 6) *
      ((document.size + 1 + 1) * (document.size + 1) + (document.size + 1)) +
      8 * (document.size + 1) + 5 < bound := by
    unfold documentDepth at same
    nlinarith
  rw [same]
  apply finishes_readWithin_succ
  intro y asks
  obtain ⟨inside, nesting⟩ := inside_of_asks_document asks
  obtain ⟨asked, reads⟩ :=
    exists_reads_of_asks (x := (_, .start namespaceName metaNamespace given)) h asks
  apply finishes_of_outstanding_lt inside reads
  exact Nat.lt_of_le_of_lt (outstanding_le (size_wholeOf_le document) nesting) large

/-- What a reader of any depth reads of a document is what is read of it. -/
theorem read_eq_readWithin
    {depth : Nat} (h : (readWithin depth ⟨.document, document, []⟩
      (.start namespaceName metaNamespace given)).outcome = .ok found) :
  read ⟨.document, document, []⟩ (.start namespaceName metaNamespace given) =
    readWithin depth ⟨.document, document, []⟩ (.start namespaceName metaNamespace given)
  := by
  rw [read, depthBound_start]
  have finishes := finishes_documentDepth_of_reads (reads_of_readWithin h)
  obtain le | le := Nat.le_total depth (documentDepth document)
  · exact readWithin_eq_of_le le (Report.finishes_of_outcome_eq_ok h)
  · exact (readWithin_eq_of_le le finishes).symm

/-- The rules of reading derive what is read of a document. -/
theorem reads_document_iff :
  Reads ⟨.document, document, []⟩ (.start namespaceName metaNamespace given) found ↔
    (read ⟨.document, document, []⟩ (.start namespaceName metaNamespace given)).outcome =
      .ok found
  := by
  constructor
  · intro h
    obtain ⟨depth, h⟩ := exists_depth_of_reads h
    rwa [read_eq_readWithin h]
  · exact reads_of_readWithin

end

end ConceptModel.Inference
