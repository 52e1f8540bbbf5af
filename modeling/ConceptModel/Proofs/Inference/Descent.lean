import ConceptModel.Proofs.Inference.Chain

/-!
# Descent

How a reading proceeds from one visit to the next.  It descends in the document, to a
fragment of less weight without further references; or it follows a reference to its
definition; or it goes on at the array at which the chain of a reference ends.
-/

namespace ConceptModel.Inference

open Json Relation

/-! ### Fragments -/

/-- The local references that occur in a fragment. -/
def Fragment.references (f : Fragment) : List String :=
  match f.role with
  | .reference | .localReference => ownReference "$ref" f.body
  | _ => f.body.references

/-- The rank of a role among those in which one schema is read, one after the other. -/
def Fragment.rank (f : Fragment) : Nat :=
  match f.role with
  | .definition | .reference => 1
  | .property =>
    match (Body.ofJson f.body).propertyRule with
    | .array | .union _ => 5
    | _ => 2
  | .array => 4
  | .tuple => 3
  | _ => 0

/-- The weight of a fragment: how deep it nests, and among those that nest as deep its
rank. -/
def Fragment.weight (f : Fragment) : Nat := 8 * f.body.nesting + f.rank

theorem Fragment.rank_le
    (f : Fragment) :
  f.rank ≤ 5
  := by
  unfold rank
  split
  · omega
  · omega
  · split <;> omega
  · omega
  · omega
  · omega

theorem Fragment.weight_lt_of_nesting_lt
    {f g : Fragment} (h : f.body.nesting < g.body.nesting) :
  f.weight < g.weight
  := by
  have := f.rank_le
  unfold weight
  omega

/-- Whether a fragment fits its role: a tuple has a list of items, and a reference inside
the document is local. -/
def Fragment.Fits (f : Fragment) : Prop :=
  match f.role with
  | .tuple => ∃ items, f.body.get? "items" = some (.array items)
  | .localReference => Reference.isLocal f.body = true
  | _ => True

/-! ### Steps -/

/-- How a reading proceeds. -/
inductive Proceeds (x y : Visit) : Prop where
  /-- It descends. -/
  | descends (references : y.1.references ⊆ x.1.references) (weight : y.1.weight < x.1.weight)
      (traversed : y.2.traversed = x.2.traversed)
  /-- It follows a reference. -/
  | follows {r key : String} {v : Json} (mem : r ∈ x.1.references) (fresh : r ∉ x.2.traversed)
      (leads : LeadsTo x.2.document x.2.container r key v)
      (next : y.1 = ⟨.definition, v, placeOf x.2.container ++ [key]⟩)
      (traversed : y.2.traversed = r :: x.2.traversed)
  /-- It goes on at an array. -/
  | defers {r key : String} {u : Json} (mem : r ∈ x.1.references)
      (ends : EndsAt x.2.document x.2.container r key u)
      (rule : (Body.ofJson u).structuralRule = .array)
      (next : y.1 = ⟨.property, .object (Body.ofJson u), placeOf x.2.container ++ [key]⟩)
      (traversed : y.2.traversed = x.2.traversed)

theorem fits_of_asks
    {x y : Visit} (h : Asks x y) :
  y.1.Fits
  := by
  cases h with
  | consults => trivial
  | handsOn h =>
    cases h with
    | tupleAsConcept held rule => exact ⟨_, held⟩
    | inside rule => exact rule
    | _ => trivial

/-- A reference that yields an array to be read ends at that array. -/
theorem endsAt_of_reads_deferred
    {w : Json} {path place : List String} {c : Context} {b : Body}
    (h : Reads ⟨.reference, w, path⟩ c (.one (.deferred b place))) :
  ∃ r key u, w = .string r ∧ Reference.isLocal (.string r) ∧
    EndsAt c.document c.container r key u ∧ ¬ Lists u ∧
    (Body.ofJson u).structuralRule = .array ∧ b = Body.ofJson u ∧
    place = placeOf c.container ++ [key]
  := by
  by_cases isLocal : Reference.isLocal w
  · obtain ⟨r, rfl⟩ := eq_string_of_isLocal isLocal
    cases consulted_of_reads isLocal h with
    | stopped _ _ _ yields => simp at yields
    | @ended last key past v u chain _ _ leads taken rests reads =>
      obtain ⟨noList, rule, rfl, rfl⟩ := array_of_reads_deferred rests reads
      have ends : EndsAt c.document c.container r key u := ⟨last, v, chain, leads, taken, rests⟩
      exact ⟨r, key, u, rfl, isLocal, ends, noList, rule, rfl, rfl⟩
  · exact absurd (nothing_of_reads_remote (by simpa using isLocal) h) (by simp)

/-- A fragment inside another one has its references and less weight. -/
theorem Proceeds.deeper
    {x y : Visit} (references : y.1.references ⊆ x.1.references)
    (nesting : y.1.body.nesting < x.1.body.nesting)
    (traversed : y.2.traversed = x.2.traversed) :
  Proceeds x y
  := .descends references (Fragment.weight_lt_of_nesting_lt nesting) traversed

/-- A fragment that nests no deeper and has a lower rank has less weight. -/
theorem Proceeds.lower
    {x y : Visit} (references : y.1.references ⊆ x.1.references)
    (nesting : y.1.body.nesting ≤ x.1.body.nesting) (rank : y.1.rank < x.1.rank)
    (traversed : y.2.traversed = x.2.traversed) :
  Proceeds x y
  := by
  apply Proceeds.descends references _ traversed
  unfold Fragment.weight
  omega

/-- The value of a keyword lies inside its schema. -/
theorem nesting_getD_lt
    {v : Json} {keyword : String} (other : keyword ≠ "not")
    (h : (Body.ofJson v).getD keyword ≠ .null) :
  ((Body.ofJson v).getD keyword).nesting < v.nesting
  := by
  rw [← Body.object_ofJson h other]
  exact nesting_lt_of_mem (mem_of_lookup?_eq_some (Body.get?_of_getD_ne h))

/-- What a reference refers to occurs in the schema that it is. -/
theorem references_reference_subset
    {v : Json} (path : List String) (h : (Body.ofJson v).isReference = true) :
  Fragment.references ⟨.reference, (Body.ofJson v).getD "$ref", path⟩ ⊆ v.references
  := by
  obtain ⟨r, held⟩ := Body.isReference_iff.mp h
  intro s hs
  have own : s ∈ ownReference "$ref" (.string r) := by simpa [Fragment.references, held] using hs
  obtain ⟨isLocal, rfl⟩ : Reference.isLocal (.string r) ∧ s = r := by
    simpa [ownReference] using own
  exact Body.references_ofJson_subset (Body.mem_references_of_getD held isLocal)

theorem mem_references_of_fits
    {r : String} {path : List String} (h : Fragment.Fits ⟨.localReference, .string r, path⟩) :
  r ∈ Fragment.references ⟨.localReference, .string r, path⟩
  := by
  have isLocal : Reference.isLocal (.string r) = true := h
  simp [Fragment.references, ownReference, isLocal]

/-- A schema that is a reference consults it. -/
theorem proceeds_reference
    {role : Role} {v : Json} {path : List String} {c d : Context}
    (isSchema : role ≠ .reference ∧ role ≠ .localReference)
    (h : (Body.ofJson v).isReference = true) (traversed : d.traversed = c.traversed) :
  Proceeds (⟨role, v, path⟩, c) (⟨.reference, (Body.ofJson v).getD "$ref", path⟩, d)
  := by
  obtain ⟨r, held⟩ := Body.isReference_iff.mp h
  apply Proceeds.deeper _ _ traversed
  · apply List.Subset.trans (references_reference_subset path h)
    unfold Fragment.references
    split
    next role => exact absurd role isSchema.1
    next role => exact absurd role isSchema.2
    next => exact List.Subset.refl _
  · exact nesting_getD_lt (by decide) (by simp [held])

theorem proceeds_of_asks
    {x y : Visit} (inside : x.1.role ≠ .document) (fits : x.1.Fits) (h : Asks x y) :
  Proceeds x y
  := by
  cases h with
  | consults name rule =>
    exact proceeds_reference (by decide) (Body.isReference_of_propertyRule rule) rfl
  | handsOn h =>
    cases h with
    | root named => exact absurd rfl inside
    | container held => exact absurd rfl inside
    | named held | member held =>
      apply Proceeds.deeper
      · exact references_subset_of_mem held
      · exact nesting_lt_of_mem held
      · rfl
    | enumerated rule | structured rule =>
      apply Proceeds.lower
      · exact List.Subset.refl _
      · exact Nat.le_refl _
      · exact Nat.zero_lt_one
      · rfl
    | firstAlternative rule =>
      have isAlternation := Body.isAlternation_of_structuralRule rule
      apply Proceeds.deeper
      · exact List.Subset.trans Body.references_firstAlternative_subset
          Body.references_ofJson_subset
      · have := Body.nesting_firstAlternative_lt isAlternation
        rwa [Body.object_ofJson_of_isAlternation isAlternation] at this
      · rfl
    | aliased rule =>
      exact proceeds_reference (by decide) (Body.isReference_of_structuralRule rule) rfl
    | concept rule fits isSet =>
      apply Proceeds.deeper
      · exact List.Subset.trans Body.references_getD_subset Body.references_ofJson_subset
      · exact nesting_getD_lt (by decide) isSet
      · rfl
    | alternation name rule =>
      have isAlternation := Body.isAlternation_of_propertyRule rule
      apply Proceeds.deeper
      · exact List.Subset.trans Body.references_flattened_subset Body.references_ofJson_subset
      · have := Body.nesting_flattened_lt isAlternation
        rwa [Body.object_ofJson_of_isAlternation isAlternation] at this
      · rfl
    | @deferral v path place c b name rule consulted =>
      obtain ⟨r, key, u, held, isLocal, ends, -, isArray, rfl, rfl⟩ :=
        endsAt_of_reads_deferred consulted
      have mem := Body.references_ofJson_subset (Body.mem_references_of_getD held isLocal)
      exact .defers mem ends isArray rfl rfl
    | @array v path c name rule =>
      have isObject := Body.object_ofJson_of_isArray (Body.isArray_of_propertyRule rule)
      apply Proceeds.lower
      · simp [Fragment.references, isObject]
      · simp [isObject]
      · simp [Fragment.rank, rule]
      · rfl
    | @union v path c types name rule =>
      have held : (Body.ofJson v).getD "type" ≠ .null := by
        simp [Body.type_of_propertyRule rule]
      have isObject := Body.object_ofJson held (by decide)
      apply Proceeds.lower
      · exact List.Subset.trans Body.references_setType_subset Body.references_ofJson_subset
      · have le := Body.nesting_setType_le "string" held
        rwa [isObject] at le
      · simp [Fragment.rank, rule, Body.propertyRule_setType rule]
      · rfl
    | @inline v path c name rule =>
      have held : (Body.ofJson v).getD "properties" ≠ .null := by
        have := (Body.inline_of_propertyRule rule).2.2
        intro unset
        simp [unset, isObject] at this
      have isObject := Body.object_ofJson held (by decide)
      apply Proceeds.lower
      · simp [Fragment.references, isObject]
      · simp [isObject]
      · simp [Fragment.rank, rule]
      · rfl
    | tupleAsConcept held rule =>
      apply Proceeds.lower
      · exact List.Subset.refl _
      · exact Nat.le_refl _
      · exact (by decide : 3 < 4)
      · rfl
    | tupleAsText held rule =>
      apply Proceeds.lower
      · exact List.nil_subset _
      · exact Nat.lt_of_le_of_lt (nesting_pos _) (nesting_lt_of_get? held)
      · exact (by decide : 2 < 4)
      · rfl
    | items held rule =>
      apply Proceeds.deeper
      · exact references_subset_of_get? held
      · exact nesting_lt_of_get? held
      · rfl
    | @tuple v items least greatest path c elements from_ upTo held greatestHeld isUpTo lists =>
      obtain ⟨items, same⟩ := fits
      obtain rfl : _ = Json.array items := by simpa [same, eq_comm] using held
      obtain rfl : items = elements := by simpa [elementsOf] using lists
      apply Proceeds.lower
      · exact List.Subset.trans references_tupleObject_subset (references_subset_of_get? held)
      · exact Nat.le_trans nesting_tupleObject_le (nesting_lt_of_get? held)
      · exact (by decide : 2 < 3)
      · rfl
    | inside rule =>
      apply Proceeds.lower
      · exact List.Subset.refl _
      · exact Nat.le_refl _
      · exact Nat.zero_lt_one
      · rfl
    | @followed r path c resolved v resolves rule leads =>
      obtain ⟨key, leadsTo, pointer⟩ := resolve_eq_definition resolves leads
      apply Proceeds.follows
      · exact mem_references_of_fits fits
      · exact rule
      · exact leadsTo
      · simp [pointer]
      · rfl

/-! ### Inside a document -/

/-- A visit inside a document whose definitions stand in a container. -/
structure Inside (document : Json) (container : List String) (x : Visit) : Prop where
  role : x.1.role ≠ .document
  fits : x.1.Fits
  document_eq : x.2.document = document
  container_eq : x.2.container = container
  references : x.1.references ⊆ document.references

theorem Inside.asks
    {document : Json} {container : List String} {x y : Visit}
    (inside : Inside document container x) (h : Asks x y) :
  Inside document container y
  := by
  obtain ⟨sameDocument, sameContainer, role⟩ := stays_of_asks inside.role h
  have references : y.1.references ⊆ document.references := by
    cases proceeds_of_asks inside.role inside.fits h with
    | descends references => exact List.Subset.trans references inside.references
    | follows _ _ leads next =>
      rw [inside.document_eq, inside.container_eq] at leads
      rw [next]
      exact references_subset_of_definition? leads.definition?
    | defers _ ends _ next =>
      rw [inside.document_eq, inside.container_eq] at ends
      obtain ⟨v, held, taken⟩ := ends.definition?
      rw [next]
      apply List.Subset.trans Body.references_ofJson_subset
      apply List.Subset.trans (references_subset_of_takes taken)
      exact references_subset_of_definition? held
  exact ⟨role, fits_of_asks h, sameDocument.trans inside.document_eq,
    sameContainer.trans inside.container_eq, references⟩

end ConceptModel.Inference
