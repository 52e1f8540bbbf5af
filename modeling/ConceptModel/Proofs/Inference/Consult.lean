import ConceptModel.Proofs.Inference.Ends

/-!
# What a property sees of a reference

Of the results of a reference that it consults, a property sees whether there are any, which
array is left to be read, or which name they bear: their `gist`.  It depends on the references
that are being followed only as far as these are `Ahead`, on the chain of the reference:
`gist_of_reads`.
-/

namespace ConceptModel.Inference

open Relation Text

/-! ### The gist of results -/

/-- What a property may see of results. -/
inductive Gist where
  /-- There are none. -/
  | nothing
  /-- An array is left to be read. -/
  | deferred (b : Body) (place : List String)
  /-- They bear a name, if any. -/
  | named (name : Option String)

/-- What a property sees of results. -/
def gist : Results → Gist
  | .nothing => .nothing
  | .one (.deferred b place) => .deferred b place
  | found => .named (referencedName found)

@[simp]
theorem gist_nothing :
  gist .nothing = .nothing
  := rfl

@[simp]
theorem gist_deferred
    (b : Body) (place : List String) :
  gist (.one (.deferred b place)) = .deferred b place
  := rfl

theorem gist_conceptResults
    (name : String) (found : List Found) :
  gist (conceptResults name found) = .named (some name)
  := by
  unfold conceptResults
  dsimp only
  split <;> rfl

theorem gist_of_referencedName
    {found : Results} {name : String} (h : referencedName found = some name) :
  gist found = .named (some name)
  := by
  unfold gist
  split
  · simp [referencedName] at h
  · simp [referencedName] at h
  · rw [h]

/-! ### The way of a reference -/

/-- The reading of a definition or of a reference comes to a reference on its way. -/
inductive Ahead (document : Json) (container : List String) : Fragment → String → Prop where
  | structured {v : Json} {path : List String} {t : String}
      (rule : ∀ elements, v.get? "enum" ≠ some (.array elements))
      (next : Ahead document container ⟨.structural, v, path⟩ t) :
      Ahead document container ⟨.definition, v, path⟩ t
  | alternative {v : Json} {path : List String} {t : String}
      (rule : (Body.ofJson v).structuralRule = .alternation)
      (next : Ahead document container
        ⟨.definition, (Body.ofJson v).firstAlternative, path⟩ t) :
      Ahead document container ⟨.structural, v, path⟩ t
  | aliased {v : Json} {path : List String} {t : String}
      (rule : (Body.ofJson v).structuralRule = .reference)
      (next : Ahead document container ⟨.reference, (Body.ofJson v).getD "$ref", path⟩ t) :
      Ahead document container ⟨.structural, v, path⟩ t
  | inside {v : Json} {path : List String} {t : String} (rule : Reference.isLocal v = true)
      (next : Ahead document container ⟨.localReference, v, path⟩ t) :
      Ahead document container ⟨.reference, v, path⟩ t
  | here {path : List String} {t : String} :
      Ahead document container ⟨.localReference, .string t, path⟩ t
  | followed {path : List String} {reference t : String} {resolved : Reference.Resolved} {v : Json}
      (resolves : Reference.resolve document container reference = .ok resolved)
      (leads : resolved.target = .definition v)
      (next : Ahead document container ⟨.definition, v, resolved.pointer⟩ t) :
      Ahead document container ⟨.localReference, .string reference, path⟩ t

/-- Whether a fragment of the role is read when a reference is consulted. -/
def Role.isConsulted : Role → Bool
  | .definition | .enumeration | .structural | .reference | .localReference => true
  | _ => false

/-- Two readings of a definition or of a reference, while different references are being
followed, have the same gist when these differ in none that is ahead. -/
theorem gist_of_reads
    {f : Fragment} {c d : Context} {found found' : Results} (h : Reads f c found)
    (h' : Reads f d found') (role : f.role.isConsulted = true)
    (sameDocument : d.document = c.document) (sameContainer : d.container = c.container)
    (same : ∀ t, Ahead c.document c.container f t → (t ∈ c.traversed ↔ t ∈ d.traversed)) :
  gist found = gist found'
  := by
  -- Only whether a reference is followed could tell the readings apart, and where it is asked
  -- that reference is ahead: everywhere else both take the same rule.
  induction h generalizing d found' with
  | enumerated rule next ih =>
    cases h' with
    | enumerated _ next' => exact ih next' rfl sameDocument sameContainer nofun
    | structured noList => exact absurd rule (noList _)
  | structured noList next ih =>
    cases h' with
    | enumerated rule => exact absurd rule (noList _)
    | structured _ next' =>
      apply ih next' rfl sameDocument sameContainer
      intro t ahead
      exact same t (.structured noList ahead)
  | enumeration held lists =>
    cases h' with
    | enumeration => rfl
  | scalar rule =>
    cases h' with
    | scalar => rfl
    | _ => simp_all
  | deferred rule =>
    cases h' with
    | deferred => rfl
    | _ => simp_all
  | firstAlternative rule next ih =>
    cases h' with
    | firstAlternative _ next' =>
      apply ih next' rfl sameDocument sameContainer
      intro t ahead
      exact same t (.alternative rule ahead)
    | _ => simp_all
  | aliased rule next ih =>
    cases h' with
    | aliased _ next' =>
      apply ih next' rfl sameDocument sameContainer
      intro t ahead
      exact same t (.aliased rule ahead)
    | _ => simp_all
  | unset rule fits unset =>
    cases h' with
    | unset => rfl
    | _ => simp_all
  | concept rule fits isSet next =>
    cases h' with
    | concept => rw [gist_conceptResults, gist_conceptResults]
    | _ => simp_all
  | remote rule =>
    cases h' with
    | remote => rfl
    | inside rule' => simp [rule] at rule'
  | inside rule next ih =>
    cases h' with
    | remote rule' => simp [rule] at rule'
    | inside _ next' =>
      apply ih next' rfl sameDocument sameContainer
      intro t ahead
      exact same t (.inside rule ahead)
  | traversed resolves old =>
    have old' := (same _ .here).mp old
    cases h' with
    | traversed resolves' =>
      rw [sameDocument, sameContainer] at resolves'
      obtain rfl := by simpa using resolves.symm.trans resolves'
      rfl
    | named _ fresh | followed _ fresh => exact absurd old' fresh
  | named resolves fresh nowhere =>
    cases h' with
    | traversed _ old => exact absurd ((same _ .here).mpr old) fresh
    | named resolves' =>
      rw [sameDocument, sameContainer] at resolves'
      obtain rfl := by simpa using resolves.symm.trans resolves'
      rfl
    | followed resolves' _ leads =>
      rw [sameDocument, sameContainer] at resolves'
      obtain rfl := by simpa using resolves.symm.trans resolves'
      exact absurd leads (nowhere _)
  | followed resolves fresh leads next ih =>
    cases h' with
    | traversed _ old => exact absurd ((same _ .here).mpr old) fresh
    | named resolves' _ nowhere =>
      rw [sameDocument, sameContainer] at resolves'
      obtain rfl := by simpa using resolves.symm.trans resolves'
      exact absurd leads (nowhere _)
    | followed resolves' _ leads' next' =>
      rw [sameDocument, sameContainer] at resolves'
      obtain rfl := by simpa using resolves.symm.trans resolves'
      obtain rfl := by simpa using leads.symm.trans leads'
      apply ih next' rfl sameDocument sameContainer
      intro t ahead
      simp only [List.mem_cons, same t (.followed resolves leads ahead)]
  | _ => simp [Role.isConsulted] at role

end ConceptModel.Inference
