import ConceptModel.Proofs.Inference.Parts
import ConceptModel.Proofs.Inference.Visits

/-!
# Chains of references

A reference may lead to a definition whose first alternative is again a reference, and so
on.  `Onto r s` is a step of this chain, and `EndsAt r k u` says that the chain of `r` ends
at the definition of `k`, of which `u` remains once first alternatives have been taken.
The definitions form a graph: `Refers k l` when a reference that occurs anywhere in the
definition of `k` leads to the definition of `l`.  `comes_of_reads` says where the reading
of a definition comes to an end, and `consulted_of_reads` says this of a reference.
-/

namespace ConceptModel.Inference

open Relation

/-! ### Definitions of a document -/

/-- The place at which references look for definitions. -/
def placeOf (container : List String) : List String :=
  if container = [] then Reference.defaultContainer else container

/-- The definition of a key in a document. -/
def definition? (document : Json) (container : List String) (key : String) : Option Json :=
  (document.getPath? (placeOf container)).bind (Json.get? key)

/-- Whether a reference leads to the definition of a key, which is the given schema. -/
def LeadsTo (document : Json) (container : List String) (reference key : String)
    (v : Json) : Prop :=
  Reference.resolve document container reference =
    .ok ⟨placeOf container ++ [key], .definition v⟩

/-- Whether a reference in the definition of a key leads to the definition of another. -/
def Refers (document : Json) (container : List String) (key other : String) : Prop :=
  ∃ v r w, definition? document container key = some v ∧ r ∈ v.references ∧
    LeadsTo document container r other w

/-! ### Schemas that stand for others -/

/-- Whether a schema lists its values. -/
def Lists (v : Json) : Prop := ∃ elements, v.get? "enum" = some (.array elements)

/-- Whether a definition is read as another schema, its first alternative. -/
def Takes (v w : Json) : Prop :=
  ¬ Lists v ∧ (Body.ofJson v).structuralRule = .alternation ∧
    w = (Body.ofJson v).firstAlternative

/-- Whether a definition is read as what a local reference leads to. -/
def Aliases (v : Json) (reference : String) : Prop :=
  ¬ Lists v ∧ (Body.ofJson v).structuralRule = .reference ∧
    (Body.ofJson v).getD "$ref" = .string reference ∧ Reference.isLocal (.string reference)

/-- Whether a definition is read as it is. -/
def Rests (v : Json) : Prop := (∀ w, ¬ Takes v w) ∧ ∀ r, ¬ Aliases v r

section

variable (document : Json) (container : List String)

/-- Whether a reference leads to a definition that is another reference once first
alternatives have been taken. -/
def Onto (reference next : String) : Prop :=
  ∃ key v u, LeadsTo document container reference key v ∧ ReflTransGen Takes v u ∧ Aliases u next

/-- Whether the chain of alias definitions and first alternatives that a reference starts
ends at the definition of a key, of which the given schema remains. -/
def EndsAt (reference key : String) (u : Json) : Prop :=
  ∃ last v, ReflTransGen (Onto document container) reference last ∧
    LeadsTo document container last key v ∧ ReflTransGen Takes v u ∧ Rests u

end

section

variable {document : Json} {container : List String} {r s k l : String} {v w u : Json}

/-- The definitions are what stands directly in their container. -/
theorem target_eq_definition
    {pointer : List String} :
  Reference.target document container pointer = .definition v ↔
    ∃ key, pointer = placeOf container ++ [key] ∧ definition? document container key = some v
  := by
  have unfolded (key : String) (last : pointer.getLast? = some key) :
      Reference.target document container pointer =
        if pointer.dropLast = placeOf container then
          (definition? document container key).elim .elsewhere .definition
        else .elsewhere := by
    simp only [Reference.target, last, definition?, placeOf]
    generalize (Json.getPath? _ document).bind _ = held
    cases held <;> rfl
  constructor
  · intro h
    cases last : pointer.getLast? with
    | none => simp [Reference.target, last] at h
    | some key =>
      rw [unfolded key last] at h
      obtain ⟨place, rfl⟩ := List.getLast?_eq_some_iff.mp last
      rw [List.dropLast_concat] at h
      split at h
      next inside =>
        use key
        constructor
        · rw [inside]
        · cases held : definition? document container key with
          | none => simp [held] at h
          | some body => simpa [held] using h
      next => simp at h
  · rintro ⟨key, rfl, held⟩
    simp [unfolded key (by simp), held]

/-- A reference that resolves to a definition leads to it under its key. -/
theorem resolve_eq_definition
    {resolved : Reference.Resolved}
    (resolves : Reference.resolve document container r = .ok resolved)
    (leads : resolved.target = .definition v) :
  ∃ key, LeadsTo document container r key v ∧ resolved.pointer = placeOf container ++ [key]
  := by
  unfold Reference.resolve at resolves
  split at resolves
  · simp at resolves
  next pointer segments =>
    obtain rfl := by simpa using resolves
    obtain ⟨key, rfl, held⟩ := target_eq_definition.mp leads
    use key
    simp only [LeadsTo, Reference.resolve, segments, and_true]
    rw [← leads]

/-- What a reference leads to is the definition of the key. -/
theorem LeadsTo.definition?
    (h : LeadsTo document container r k v) :
  definition? document container k = some v
  := by
  unfold LeadsTo Reference.resolve at h
  split at h
  · simp at h
  next pointer _ =>
    obtain ⟨rfl, target⟩ := by simpa using h
    obtain ⟨key, same, held⟩ := target_eq_definition.mp target
    obtain rfl : k = key := by simpa using same
    exact held

/-- The references of a definition are some of those of the document. -/
theorem references_subset_of_definition?
    (h : definition? document container k = some v) :
  v.references ⊆ document.references
  := by
  obtain ⟨w, held, h⟩ := Option.bind_eq_some_iff.mp h
  apply List.Subset.trans (Json.references_subset_of_get? h)
  exact Json.references_subset_of_getPath? held

/-- A reference leads to one definition at most. -/
theorem LeadsTo.unique
    (hk : LeadsTo document container r k v) (hl : LeadsTo document container r l w) :
  k = l ∧ v = w
  := by
  unfold LeadsTo at hk hl
  simpa [hk] using hl

/-! ### Steps of a chain -/

/-- A definition takes one alternative at most. -/
theorem Takes.unique
    (hw : Takes v w) (hu : Takes v u) :
  w = u
  := by
  rw [hw.2.2, hu.2.2]

/-- The references of an alternative are some of those of its definition. -/
theorem Takes.references_subset
    (h : Takes v w) :
  w.references ⊆ v.references
  := by
  rw [h.2.2]
  exact List.Subset.trans Body.references_firstAlternative_subset Body.references_ofJson_subset

theorem references_subset_of_takes
    (h : ReflTransGen Takes v u) :
  u.references ⊆ v.references
  := by
  induction h with
  | refl => exact List.Subset.refl _
  | tail _ step ih => exact List.Subset.trans step.references_subset ih

/-- An alternative is nested less deeply, so that no definition takes alternatives forever. -/
theorem Takes.nesting_lt
    (h : Takes v w) :
  w.nesting < v.nesting
  := by
  obtain ⟨-, rule, rfl⟩ := h
  have isAlternation := Body.isAlternation_of_structuralRule rule
  have lt := Body.nesting_firstAlternative_lt isAlternation
  rwa [Body.object_ofJson_of_isAlternation isAlternation] at lt

theorem nesting_le_of_takes
    (h : ReflTransGen Takes v u) :
  u.nesting ≤ v.nesting
  := by
  induction h with
  | refl => exact Nat.le_refl _
  | tail _ step ih => exact Nat.le_trans (Nat.le_of_lt step.nesting_lt) ih

/-- A definition that stands for a reference holds it. -/
theorem Aliases.mem_references
    (h : Aliases v r) :
  r ∈ v.references
  := by
  obtain ⟨-, -, held, isLocal⟩ := h
  exact Body.references_ofJson_subset (Body.mem_references_of_getD held isLocal)

/-- A definition stands for one reference at most. -/
theorem Aliases.unique
    (hr : Aliases v r) (hs : Aliases v s) :
  r = s
  := by
  simpa using hr.2.2.1.symm.trans hs.2.2.1

/-- A definition that takes an alternative stands for no reference. -/
theorem Takes.not_aliases
    (h : Takes v w) :
  ¬ Aliases v r
  := by
  rintro ⟨-, rule, -⟩
  simp [h.2.1] at rule

/-- What remains of a schema once first alternatives have been taken is one schema. -/
theorem takes_unique
    (hw : ReflTransGen Takes v w) (hu : ReflTransGen Takes v u)
    (endW : ∀ x, ¬ Takes w x) (endU : ∀ x, ¬ Takes u x) :
  w = u
  := by
  induction hw using ReflTransGen.head_induction_on with
  | refl =>
    obtain rfl | ⟨x, step, -⟩ := hu.cases_head
    · rfl
    · exact absurd step (endW x)
  | head step _ ih =>
    obtain rfl | ⟨x, step', rest⟩ := hu.cases_head
    · exact absurd step (endU _)
    · obtain rfl := step.unique step'
      exact ih rest

theorem Aliases.not_takes
    (h : Aliases v r) (w : Json) :
  ¬ Takes v w
  := by
  intro takes
  exact takes.not_aliases h

/-- A reference goes on to one other at most. -/
theorem Onto.unique
    {t : String} (hs : Onto document container r s) (ht : Onto document container r t) :
  s = t
  := by
  obtain ⟨k, v, u, leads, taken, alias_⟩ := hs
  obtain ⟨k', v', u', leads', taken', alias'⟩ := ht
  obtain ⟨-, rfl⟩ := leads.unique leads'
  obtain rfl := takes_unique taken taken' alias_.not_takes alias'.not_takes
  exact alias_.unique alias'

theorem onto_rightUnique :
  Relator.RightUnique (Onto document container)
  := fun _ _ _ => Onto.unique

/-- All references of a chain reach the one at which it stops. -/
theorem reaches_of_stop
    {t : String} (chain : ReflTransGen (Onto document container) r t)
    (stop : ∀ x, ¬ Onto document container t x)
    (other : ReflTransGen (Onto document container) r s) :
  ReflTransGen (Onto document container) s t
  := by
  obtain ahead | past := ReflTransGen.total_of_right_unique onto_rightUnique other chain
  · exact ahead
  · obtain rfl := (reflTransGen_iff_eq stop).mp past
    exact .refl

/-- A chain that stops does not come back to its beginning. -/
theorem not_cycle_of_stop
    {t : String} (chain : ReflTransGen (Onto document container) r t)
    (stop : ∀ x, ¬ Onto document container t x) :
  ¬ TransGen (Onto document container) r r
  := by
  induction chain using ReflTransGen.head_induction_on with
  | refl =>
    intro cycle
    obtain ⟨s, step, -⟩ := TransGen.head'_iff.mp cycle
    exact stop s step
  | head step _ ih =>
    intro cycle
    obtain ⟨s, step', back⟩ := TransGen.head'_iff.mp cycle
    obtain rfl := step.unique step'
    exact ih (.tail' back step)

/-- The end of a chain remains of a definition of the document. -/
theorem EndsAt.definition?
    (h : EndsAt document container r k u) :
  ∃ v, definition? document container k = some v ∧ ReflTransGen Takes v u
  := by
  obtain ⟨last, v, -, leads, taken, -⟩ := h
  exact ⟨v, leads.definition?, taken⟩

/-- A reference to what is read as it is goes on to no other. -/
theorem not_onto_of_rests
    (leads : LeadsTo document container r k v) (taken : ReflTransGen Takes v u) (rests : Rests u) :
  ¬ Onto document container r s
  := by
  rintro ⟨key, whole, w, leads', taken', aliases⟩
  obtain ⟨-, rfl⟩ := leads.unique leads'
  obtain rfl := takes_unique taken taken' rests.1 aliases.not_takes
  exact rests.2 s aliases

/-- All references of a chain end where the first one does. -/
theorem EndsAt.along
    (h : EndsAt document container r k u) (chain : ReflTransGen (Onto document container) r s) :
  EndsAt document container s k u
  := by
  obtain ⟨last, v, reached, leads, taken, rests⟩ := h
  have stop := fun x => not_onto_of_rests (s := x) leads taken rests
  exact ⟨last, v, reaches_of_stop reached stop chain, leads, taken, rests⟩

/-- The chain of a reference ends at one definition. -/
theorem EndsAt.unique
    (hk : EndsAt document container r k u) (hl : EndsAt document container r l w) :
  k = l ∧ u = w
  := by
  obtain ⟨last, v, chain, leads, taken, rests⟩ := hk
  obtain ⟨last', v', chain', leads', taken', rests'⟩ := hl.along chain
  obtain rfl | ⟨t, step, -⟩ := chain'.cases_head
  · obtain ⟨rfl, rfl⟩ := leads.unique leads'
    exact ⟨rfl, takes_unique taken taken' rests.1 rests'.1⟩
  · exact absurd step (not_onto_of_rests leads taken rests)

/-- A chain that ends does not come back to its beginning. -/
theorem EndsAt.not_cycle
    (h : EndsAt document container r k u) :
  ¬ TransGen (Onto document container) r r
  := by
  obtain ⟨last, v, reached, leads, taken, rests⟩ := h
  exact not_cycle_of_stop reached fun x => not_onto_of_rests leads taken rests

/-- A reference that goes on to another makes one definition refer to the next. -/
theorem Onto.refers
    (step : Onto document container r s) (hr : LeadsTo document container r k v)
    (hs : LeadsTo document container s l w) :
  Refers document container k l
  := by
  obtain ⟨key, whole, u, leads, taken, alias_⟩ := step
  obtain ⟨rfl, rfl⟩ := hr.unique leads
  exact ⟨v, s, w, hr.definition?, references_subset_of_takes taken alias_.mem_references, hs⟩

/-- A reference whose chain leads to a definition leads to one itself. -/
theorem exists_leadsTo_of_chain
    (chain : ReflTransGen (Onto document container) r s)
    (leads : LeadsTo document container s k v) :
  ∃ first w, LeadsTo document container r first w
  := by
  obtain rfl | ⟨t, ⟨first, w, -, leads', -⟩, -⟩ := chain.cases_head
  · exact ⟨k, v, leads⟩
  · exact ⟨first, w, leads'⟩

/-- A chain that ends at a definition starts with a reference to one. -/
theorem EndsAt.exists_leadsTo
    (h : EndsAt document container r k u) :
  ∃ first w, LeadsTo document container r first w
  := by
  obtain ⟨last, v, reached, leads, -⟩ := h
  exact exists_leadsTo_of_chain reached leads

/-- Along the chain of a reference, the definitions refer to one another. -/
theorem refers_of_onto
    (chain : ReflTransGen (Onto document container) r s) (hr : LeadsTo document container r k v)
    (hs : LeadsTo document container s l w) :
  ReflTransGen (Refers document container) k l
  := by
  induction chain using ReflTransGen.head_induction_on generalizing k v with
  | refl =>
    obtain ⟨rfl, -⟩ := hr.unique hs
    exact .refl
  | @head r t step rest ih =>
    obtain rfl | ⟨x, step', -⟩ := rest.cases_head
    · exact .single (step.refers hr hs)
    · obtain ⟨key, whole, _, leads, -⟩ := step'
      exact .head (step.refers hr leads) (ih leads)

/-- A chain that comes back to a reference makes its definition refer to itself. -/
theorem refers_of_cycle
    (chain : TransGen (Onto document container) r r) (leads : LeadsTo document container r k v) :
  TransGen (Refers document container) k k
  := by
  obtain ⟨s, step, rest⟩ := TransGen.head'_iff.mp chain
  obtain ⟨first, w, leads'⟩ := exists_leadsTo_of_chain rest leads
  exact .head' (step.refers leads leads') (refers_of_onto rest leads' leads)

/-- The chain of a reference that occurs in a document stays among those that do. -/
theorem mem_references_of_chain
    (chain : ReflTransGen (Onto document container) r s) (mem : r ∈ document.references) :
  s ∈ document.references
  := by
  obtain rfl | ⟨t, -, key, v, u, leads, taken, aliases⟩ := chain.cases_tail
  · exact mem
  · apply references_subset_of_definition? leads.definition?
    exact references_subset_of_takes taken aliases.mem_references

end

/-! ### Where reading ends -/

/-- What consulting a reference comes to: its chain stops at a reference that is being
followed already or leads to no definition, or it ends at a definition that is read. -/
inductive Consulted (c : Context) (r : String) (found : Results) : Prop where
  | stopped {last name : String} {past : List String}
      (chain : ReflTransGen (Onto c.document c.container) r last)
      (passed : ∀ t ∈ past, t ∈ c.traversed ∨ ReflTransGen (Onto c.document c.container) r t ∧
        TransGen (Onto c.document c.container) t last)
      (stops : last ∈ past ∨ ∀ key v, ¬ LeadsTo c.document c.container last key v)
      (yields : found = .one (.typeName name))
  | ended {last key : String} {past : List String} {v u : Json}
      (chain : ReflTransGen (Onto c.document c.container) r last)
      (passed : ∀ t ∈ past, t ∈ c.traversed ∨ ReflTransGen (Onto c.document c.container) r t ∧
        TransGen (Onto c.document c.container) t last)
      (fresh : last ∉ past) (leads : LeadsTo c.document c.container last key v)
      (taken : ReflTransGen Takes v u) (rests : Rests u)
      (reads : Reads ⟨.definition, u, placeOf c.container ++ [key]⟩
        { c with traversed := last :: past } found)

/-- What reading a definition comes to: once first alternatives have been taken it is read
as it is, or its reference is consulted. -/
inductive Comes (v : Json) (path : List String) (c : Context) (found : Results) : Prop where
  | rests {u : Json} (taken : ReflTransGen Takes v u) (rests : Rests u)
      (reads : Reads ⟨.definition, u, path⟩ c found)
  | consults {u : Json} {r : String} (taken : ReflTransGen Takes v u) (leads : Aliases u r)
      (consulted : Consulted c r found)

/-- What reading a fragment comes to when it is a definition or a reference. -/
def Arrives (f : Fragment) (c : Context) (found : Results) : Prop :=
  match f.role with
  | .definition => Comes f.body f.path c found
  | .structural => ¬ Lists f.body → Comes f.body f.path c found
  | .reference => ∀ r, f.body = .string r → Reference.isLocal (.string r) → Consulted c r found
  | .localReference => ∀ r, f.body = .string r → Consulted c r found
  | _ => True

/-- A reference comes to what the next one of its chain comes to. -/
theorem Consulted.head
    {c : Context} {r s : String} {found : Results} (step : Onto c.document c.container r s)
    (h : Consulted { c with traversed := r :: c.traversed } s found) :
  Consulted c r found
  := by
  have passed {last : String} {past : List String}
      (chain : ReflTransGen (Onto c.document c.container) s last)
      (h : ∀ t ∈ past, t ∈ r :: c.traversed ∨ ReflTransGen (Onto c.document c.container) s t ∧
        TransGen (Onto c.document c.container) t last) :
      ∀ t ∈ past, t ∈ c.traversed ∨ ReflTransGen (Onto c.document c.container) r t ∧
        TransGen (Onto c.document c.container) t last := by
    intro t ht
    obtain old | ⟨reached, goesOn⟩ := h t ht
    · obtain rfl | old := List.mem_cons.mp old
      · exact .inr ⟨.refl, .head' step chain⟩
      · exact .inl old
    · exact .inr ⟨.head step reached, goesOn⟩
  cases h with
  | stopped chain h stops yields =>
    exact .stopped (.head step chain) (passed chain h) stops yields
  | ended chain h fresh leads taken rests reads =>
    exact .ended (.head step chain) (passed chain h) fresh leads taken rests reads

/-- A reference whose chain ends, and meets none of those that are being followed, yields
what the definition at the end does. -/
theorem Consulted.endsAt
    {c : Context} {r key : String} {u : Json} {found : Results} (h : Consulted c r found)
    (ends : EndsAt c.document c.container r key u)
    (away : ∀ t ∈ c.traversed, ¬ ReflTransGen (Onto c.document c.container) r t) :
  ∃ past, Reads ⟨.definition, u, placeOf c.container ++ [key]⟩ { c with traversed := past } found
  := by
  cases h with
  | ended chain _ _ leads taken rests reads =>
    obtain ⟨rfl, rfl⟩ := ends.unique ⟨_, _, chain, leads, taken, rests⟩
    exact ⟨_, reads⟩
  | stopped chain passed stops =>
    exfalso
    obtain met | nowhere := stops
    · obtain old | ⟨-, again⟩ := passed _ met
      · exact away _ old chain
      · exact (ends.along chain).not_cycle again
    · obtain ⟨first, w, leads⟩ := (ends.along chain).exists_leadsTo
      exact nowhere first w leads

/-- What is neither an alternation nor a reference is read as it is. -/
theorem rests_of_structuralRule
    {v : Json} (alternation : (Body.ofJson v).structuralRule ≠ .alternation)
    (reference : (Body.ofJson v).structuralRule ≠ .reference) :
  Rests v
  := ⟨fun _ takes => alternation takes.2.1, fun _ aliases => reference aliases.2.1⟩

theorem eq_of_takes_of_rests
    {v u : Json} (rests : ∀ w, ¬ Takes v w) (taken : ReflTransGen Takes v u) :
  u = v
  := (reflTransGen_iff_eq rests).mp taken

/-- A schema that is read as it is leads to no alias. -/
theorem not_aliases_of_rests
    {v u : Json} {r : String} (rests : Rests v) (taken : ReflTransGen Takes v u) :
  ¬ Aliases u r
  := by
  obtain rfl := eq_of_takes_of_rests rests.1 taken
  exact rests.2 r

/-- What is read as it is comes to its reading. -/
theorem comes_of_rests
    {v : Json} {path : List String} {c : Context} {found : Results} (noList : ¬ Lists v)
    (rests : Rests v) (reads : Reads ⟨.structural, v, path⟩ c found) :
  Comes v path c found
  := .rests .refl rests (.structured (fun elements held => noList ⟨elements, held⟩) reads)

/-- What the first alternative comes to, the definition comes to. -/
theorem Comes.takes
    {v : Json} {path : List String} {c : Context} {found : Results} (noList : ¬ Lists v)
    (rule : (Body.ofJson v).structuralRule = .alternation)
    (h : Comes (Body.ofJson v).firstAlternative path c found) :
  Comes v path c found
  := by
  have step : Takes v (Body.ofJson v).firstAlternative := ⟨noList, rule, rfl⟩
  cases h with
  | rests taken rests reads => exact .rests (.head step taken) rests reads
  | consults taken leads consulted => exact .consults (.head step taken) leads consulted

/-- Where the reading of a definition or of a reference comes to an end. -/
theorem arrives_of_reads
    {f : Fragment} {c : Context} {found : Results} (h : Reads f c found) :
  Arrives f c found
  := by
  induction h with
  | @enumerated v path c r elements rule next =>
    have lists : Lists v := ⟨elements, rule⟩
    have rests : Rests v := ⟨fun w takes => takes.1 lists, fun r aliases => aliases.1 lists⟩
    exact .rests .refl rests (.enumerated rule next)
  | structured rule next ih =>
    apply ih
    rintro ⟨elements, lists⟩
    exact rule elements lists
  | scalar rule =>
    intro noList
    apply comes_of_rests noList _ (.scalar rule)
    apply rests_of_structuralRule <;> simp [rule]
  | deferred rule =>
    intro noList
    apply comes_of_rests noList _ (.deferred rule)
    apply rests_of_structuralRule <;> simp [rule]
  | firstAlternative rule next ih =>
    intro noList
    exact ih.takes noList rule
  | @aliased v path c r rule next ih =>
    intro noList
    obtain ⟨s, held⟩ := Body.isReference_iff.mp (Body.isReference_of_structuralRule rule)
    by_cases isLocal : Reference.isLocal (.string s)
    · exact .consults .refl ⟨noList, rule, held, isLocal⟩ (ih s held isLocal)
    · apply comes_of_rests noList _ (.aliased rule next)
      constructor
      · intro w takes
        simp [takes.2.1] at rule
      · rintro s' ⟨-, -, held', isLocal'⟩
        obtain rfl : s = s' := by simpa using held.symm.trans held'
        exact isLocal isLocal'
  | unset rule fits unset =>
    intro noList
    apply comes_of_rests noList _ (.unset rule fits unset)
    apply rests_of_structuralRule <;> simp [rule]
  | concept rule fits isSet next =>
    intro noList
    apply comes_of_rests noList _ (.concept rule fits isSet next)
    apply rests_of_structuralRule <;> simp [rule]
  | remote rule =>
    intro r held isLocal
    simp only at held
    simp [← held, rule] at isLocal
  | inside rule next ih =>
    intro r held _
    exact ih r held
  | @traversed reference path c resolved resolves rule =>
    intro r held
    obtain rfl : reference = r := by simpa using held
    exact .stopped .refl (fun t ht => .inl ht) (.inl rule) rfl
  | @named reference path c resolved resolves rule leads =>
    intro r held
    obtain rfl : reference = r := by simpa using held
    have nowhere : ∀ key v, ¬ LeadsTo c.document c.container reference key v := by
      intro key v h
      obtain rfl : _ = resolved := by simpa [LeadsTo, resolves, eq_comm] using h
      exact leads v rfl
    exact .stopped .refl (fun t ht => .inl ht) (.inr nowhere) rfl
  | @followed reference path c resolved v r resolves rule leads next ih =>
    intro s held
    obtain rfl : reference = s := by simpa using held
    obtain ⟨key, leadsTo, pointer⟩ := resolve_eq_definition resolves leads
    rw [pointer] at ih
    cases ih with
    | rests taken rests reads =>
      exact .ended .refl (fun t ht => .inl ht) rule leadsTo taken rests reads
    | consults taken leads consulted =>
      exact consulted.head ⟨key, v, _, leadsTo, taken, leads⟩
  | _ => trivial

/-- Where the reading of a definition comes to an end. -/
theorem comes_of_reads
    {v : Json} {path : List String} {c : Context} {found : Results}
    (h : Reads ⟨.definition, v, path⟩ c found) :
  Comes v path c found
  := arrives_of_reads h

/-- Where the consulting of a local reference comes to an end. -/
theorem consulted_of_reads
    {r : String} {path : List String} {c : Context} {found : Results}
    (isLocal : Reference.isLocal (.string r))
    (h : Reads ⟨.reference, .string r, path⟩ c found) :
  Consulted c r found
  := arrives_of_reads h r rfl isLocal

/-! ### References and arrays -/

/-- A local reference is a text. -/
theorem eq_string_of_isLocal
    {w : Json} (h : Reference.isLocal w = true) :
  ∃ r, w = .string r
  := by
  cases w with
  | string r => exact ⟨r, rfl⟩
  | _ => simp [Reference.isLocal] at h

/-- A reference that leads out of the document yields nothing. -/
theorem nothing_of_reads_remote
    {w : Json} {path : List String} {c : Context} {found : Results}
    (remote : Reference.isLocal w = false) (h : Reads ⟨.reference, w, path⟩ c found) :
  found = .nothing
  := by
  cases h with
  | remote => rfl
  | inside isLocal => simp [remote] at isLocal

/-- A schema that is read as it is and is a reference leads out of the document. -/
theorem nothing_of_reads_alias
    {u : Json} {path : List String} {c : Context} {found : Results} (rests : Rests u)
    (noList : ¬ Lists u) (rule : (Body.ofJson u).structuralRule = .reference)
    (h : Reads ⟨.reference, (Body.ofJson u).getD "$ref", path⟩ c found) :
  found = .nothing
  := by
  obtain ⟨r, held⟩ := Body.isReference_iff.mp (Body.isReference_of_structuralRule rule)
  by_cases isLocal : Reference.isLocal (.string r)
  · exact absurd ⟨noList, rule, held, isLocal⟩ (rests.2 r)
  · rw [held] at h
    exact nothing_of_reads_remote (by simpa using isLocal) h

theorem conceptResults_ne_deferred
    {name : String} {found : List Found} {b : Body} {place : List String} :
  conceptResults name found ≠ .one (.deferred b place)
  := by
  unfold conceptResults
  dsimp only
  split <;> simp [Nested.ofList]

/-- A schema that is read as it is and yields an array to be read is that array. -/
theorem array_of_reads_deferred
    {u : Json} {path place : List String} {c : Context} {b : Body} (rests : Rests u)
    (h : Reads ⟨.definition, u, path⟩ c (.one (.deferred b place))) :
  ¬ Lists u ∧ (Body.ofJson u).structuralRule = .array ∧ b = Body.ofJson u ∧ place = path
  := by
  generalize yields : Nested.one (Found.deferred b place) = found at h
  cases h with
  | enumerated _ next =>
    cases next with
    | enumeration => simp at yields
  | structured rule next =>
    have noList : ¬ Lists u := not_exists.mpr rule
    cases next with
    | scalar => simp at yields
    | deferred rule =>
      obtain ⟨rfl, rfl⟩ := by simpa using yields
      exact ⟨noList, rule, rfl, rfl⟩
    | firstAlternative rule => exact absurd ⟨noList, rule, rfl⟩ (rests.1 _)
    | aliased rule next => simp [nothing_of_reads_alias rests noList rule next] at yields
    | unset => simp at yields
    | concept => exact absurd yields.symm conceptResults_ne_deferred

end ConceptModel.Inference
