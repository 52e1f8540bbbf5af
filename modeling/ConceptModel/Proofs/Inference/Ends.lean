import ConceptModel.Proofs.Inference.Chain
import ConceptModel.Proofs.Inference.Origin
import Mathlib.Tactic.ByContra

/-!
# What the end of a chain yields

A definition that is read as it is `Declares` its own name first, or it is an array that is
left to be read, or it yields nothing.
-/

namespace ConceptModel.Inference

open Text

/-- Whether a definition that is read as it is declares something. -/
def Declares (u : Json) : Prop :=
  Lists u ∨ (Body.ofJson u).structuralRule = .scalar ∨
    (Body.ofJson u).structuralRule = .concept ∧ (Body.ofJson u).getD "properties" ≠ .null

theorem conceptResults_head
    (name : String) (found : List Found) :
  ∃ rest, (conceptResults name found).flatten =
      .declaration (.concept name false (found.filterMap Found.field?)) :: rest ∧
    referencedName (conceptResults name found) = some name
  := by
  refine ⟨_, flatten_conceptResults name found, ?_⟩
  unfold conceptResults
  dsimp only
  split <;> rfl

/-- What a definition that is read as it is yields: its own name first, an array that is left
to be read, or nothing. -/
inductive Bears (u : Json) (path : List String) (found : Results) : Prop where
  | declared {d : Declaration} {rest : List Found} (declares : Declares u)
      (flat : found.flatten = .declaration d :: rest) (name : d.name = normalizeName (nameOf path))
      (named : referencedName found = some d.name)
  | deferred (silent : ¬ Declares u) (rule : (Body.ofJson u).structuralRule = .array)
      (yields : found = .one (.deferred (Body.ofJson u) path))
  | nothing (silent : ¬ Declares u) (rule : (Body.ofJson u).structuralRule ≠ .array)
      (yields : found = .nothing)

theorem bears_of_reads
    {u : Json} {path : List String} {c : Context} {found : Results} (rests : Rests u)
    (h : Reads ⟨.definition, u, path⟩ c found) :
  Bears u path found
  := by
  cases h with
  | enumerated rule next =>
    cases next with
    | enumeration => exact .declared (.inl ⟨_, rule⟩) rfl rfl rfl
  | structured rule next =>
    have noList : ¬ Lists u := not_exists.mpr rule
    cases next with
    | scalar rule => exact .declared (.inr (.inl rule)) rfl rfl rfl
    | deferred rule => exact .deferred (by simp [Declares, noList, rule]) rule rfl
    | firstAlternative rule => exact absurd ⟨noList, rule, rfl⟩ (rests.1 _)
    | aliased rule next =>
      apply Bears.nothing
      · simp [Declares, noList, rule]
      · simp [rule]
      · exact nothing_of_reads_alias rests noList rule next
    | unset rule _ unset =>
      apply Bears.nothing
      · simp [Declares, noList, rule, unset]
      · simp [rule]
      · rfl
    | concept rule _ isSet =>
      obtain ⟨rest, flat, named⟩ := conceptResults_head (normalizeName (nameOf path)) _
      exact .declared (.inr (.inr ⟨rule, isSet⟩)) flat rfl named

/-- Only a reference inside the document yields a name. -/
theorem isLocal_of_referencedName
    {w : Json} {path : List String} {c : Context} {found : Results} {name : String}
    (h : Reads ⟨.reference, w, path⟩ c found) (names : referencedName found = some name) :
  Reference.isLocal w = true
  := by
  by_contra remote
  obtain rfl := nothing_of_reads_remote (by simpa using remote) h
  simp [referencedName] at names

/-- A reference that yields something other than an array to be read yields a name. -/
theorem exists_referencedName
    {w : Json} {path : List String} {c : Context} {found : Results}
    (h : Reads ⟨.reference, w, path⟩ c found) (something : found ≠ .nothing)
    (noArray : ∀ b place, found ≠ .one (.deferred b place)) :
  ∃ name, referencedName found = some name
  := by
  by_cases isLocal : Reference.isLocal w
  · obtain ⟨r, rfl⟩ := eq_string_of_isLocal isLocal
    cases consulted_of_reads isLocal h with
    | stopped _ _ _ yields => exact ⟨_, by rw [yields]; rfl⟩
    | ended _ _ _ _ _ rests reads =>
      cases bears_of_reads rests reads with
      | declared _ _ _ named => exact ⟨_, named⟩
      | deferred _ _ yields => exact absurd yields (noArray _ _)
      | nothing _ _ yields => exact absurd yields something
  · exact absurd (nothing_of_reads_remote (by simpa using isLocal) h) something

end ConceptModel.Inference
