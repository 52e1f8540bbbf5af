import ConceptModel.Proofs.Inference.Alternatives

/-!
# Rejected definitions

What stands in a container of definitions must be an object, once first alternatives have been
taken, unless it lists its values, holds any JSON value, is an array or refers to another one.
Otherwise it is rejected before any property is visited: `rejected_iff`.  A container under the
common root name is exempt, as its definitions stand where the parts of the root do.
-/

namespace ConceptModel

/-- Whether a failure says that a type has no counterpart. -/
def Failure.IsUnsupported : Failure → Prop
  | unsupportedProperty .. | unsupportedDefinition .. => True
  | _ => False

theorem Failure.message?_unsupportedDefinition
    (type : Json) (name : String) :
  (unsupportedDefinition type name).message? =
    some ("Type keyword '" ++ type.plain ++ "' in definition '" ++ name ++ "' is not supported.")
  := by
  apply congrArg some
  change "Type keyword '" ++ type.plain ++ "' in " ++ ("definition '" ++ name ++ "'") ++
    " is not supported." = _
  apply String.toList_inj.mp
  simp only [String.toList_append, List.append_assoc]
  rfl

namespace Inference

open Relation Text

/-- Whether a schema is what remains of another one once first alternatives have been taken. -/
def Remains (v u : Json) : Prop := ReflTransGen Takes v u ∧ ∀ w, ¬ Takes u w

/-- Whether reading a fragment fails, at whatever depth, for a type without counterpart, with the
message and before any property is visited. -/
def Rejected (f : Fragment) (c : Context) (message : String) : Prop :=
  (∃ e, e.IsUnsupported ∧ e.message? = some message ∧
      ∃ depth, (readWithin depth f c).outcome = .error e) ∧
    ∀ y, ReflTransGen Asks (f, c) y → y.1.role ≠ .property

section

variable {v w u : Json} {path : List String} {c : Context} {message : String}

/-! ### First alternatives -/

/-- Taking first alternatives ends, and it ends at one schema. -/
theorem existsUnique_remains
    (v : Json) :
  ∃! u, Remains v u
  := by
  have ends : ∃ u, Remains v u := by
    induction size : v.nesting using Nat.strong_induction_on generalizing v with
    | _ n ih =>
      by_cases rests : ∀ w, ¬ Takes v w
      · exact ⟨v, .refl, rests⟩
      · obtain ⟨w, step⟩ := not_forall_not.mp rests
        obtain ⟨u, taken, stops⟩ := ih w.nesting (size ▸ step.nesting_lt) w rfl
        exact ⟨u, .head step taken, stops⟩
  obtain ⟨u, remains⟩ := ends
  exact ⟨u, remains, fun _ other => takes_unique other.1 remains.1 other.2 remains.2⟩

/-! ### What is visited -/

/-- What does not list its values is visited as what it is. -/
theorem reached_from_definition
    {y : Visit} (noList : ¬ Lists v) :
  ReflTransGen Asks (⟨.definition, v, path⟩, c) y ↔
    y = (⟨.definition, v, path⟩, c) ∨ ReflTransGen Asks (⟨.structural, v, path⟩, c) y
  := by
  constructor
  · intro h
    obtain rfl | ⟨z, step, rest⟩ := h.cases_head
    · exact .inl rfl
    · obtain ⟨handed⟩ := step
      cases handed with
      | enumerated rule => exact absurd ⟨_, rule⟩ noList
      | structured => exact .inr rest
  · rintro (rfl | rest)
    · exact .refl
    · exact .head (.handsOn (.structured (not_exists.mp noList))) rest

/-- What has alternatives is visited as the first of them. -/
theorem reached_from_structural
    {y : Visit} (h : Takes v w) :
  ReflTransGen Asks (⟨.structural, v, path⟩, c) y ↔
    y = (⟨.structural, v, path⟩, c) ∨ ReflTransGen Asks (⟨.definition, w, path⟩, c) y
  := by
  obtain ⟨-, rule, rfl⟩ := h
  constructor
  · intro h
    obtain rfl | ⟨z, step, rest⟩ := h.cases_head
    · exact .inl rfl
    · obtain ⟨handed⟩ := step
      cases handed with
      | firstAlternative => exact .inr rest
      | aliased other | concept other => simp [rule] at other
  · rintro (rfl | rest)
    · exact .refl
    · exact .head (.handsOn (.firstAlternative rule)) rest

/-! ### What a reading comes to -/

theorem exists_readStructural
    {e : Failure} (noList : ¬ Lists v) (ends : e ≠ .endlessReferences) :
  (∃ depth, (readWithin depth ⟨.definition, v, path⟩ c).outcome = .error e) ↔
    ∃ depth, (readStructural (readWithin depth) v path c).outcome = .error e
  := by
  constructor
  · rintro ⟨depth, fails⟩
    obtain _ | _ | depth := depth
    · exact absurd (by simpa [readWithin] using fails.symm) ends
    · exact absurd (by simpa [readWithin_one_definition noList] using fails.symm) ends
    · exact ⟨depth, by rwa [readWithin_definition noList] at fails⟩
  · rintro ⟨depth, fails⟩
    exact ⟨depth + 2, by rwa [readWithin_definition noList]⟩

theorem readStructural_outcome_of_takes
    (h : Takes v w) (read : Reader) :
  (readStructural read v path c).outcome = (read ⟨.definition, w, path⟩ c).outcome
  := by
  obtain ⟨-, rule, rfl⟩ := h
  simp only [readStructural, rule]
  simp [Bind.bind, Report.bind, Report.warn, Report.tell]

/-! ### Rejection -/

/-- What does not list its values is rejected for what it is. -/
theorem rejected_iff_structural
    (noList : ¬ Lists v) :
  Rejected ⟨.definition, v, path⟩ c message ↔
    (∃ e, e.IsUnsupported ∧ e.message? = some message ∧
        ∃ depth, (readStructural (readWithin depth) v path c).outcome = .error e) ∧
      ∀ y, ReflTransGen Asks (⟨.structural, v, path⟩, c) y → y.1.role ≠ .property
  := by
  apply and_congr
  · apply exists_congr
    intro e
    apply and_congr_right
    intro unsupported
    rw [exists_readStructural noList (by rintro rfl; exact unsupported)]
  · simp [reached_from_definition noList, or_imp, forall_and]

/-- What has alternatives is rejected for the first of them. -/
theorem rejected_iff_of_takes
    (h : Takes v w) :
  Rejected ⟨.definition, v, path⟩ c message ↔ Rejected ⟨.definition, w, path⟩ c message
  := by
  rw [rejected_iff_structural h.1]
  simp only [readStructural_outcome_of_takes h, reached_from_structural h, or_imp, forall_and,
    forall_eq]
  simp [Rejected]

theorem rejected_iff_of_remains
    (h : Remains v u) :
  Rejected ⟨.definition, v, path⟩ c message ↔ Rejected ⟨.definition, u, path⟩ c message
  := by
  obtain ⟨taken, -⟩ := h
  induction taken using ReflTransGen.head_induction_on with
  | refl => rfl
  | head step _ ih => rw [rejected_iff_of_takes step, ih]

/-- What fails for other causes only is not rejected. -/
theorem not_rejected_of_failsOnly
    {f : Fragment}
    (h : ∀ depth, (readWithin depth f c).FailsOnly fun e => ¬ e.IsUnsupported) :
  ¬ Rejected f c message
  := by
  rintro ⟨⟨e, unsupported, -, depth, fails⟩, -⟩
  exact (h depth).of_outcome fails unsupported

/-- What does not list its values fails for the causes for which it fails as what it is. -/
theorem failsOnly_definition
    {p : Failure → Prop} (noList : ¬ Lists v) (endless : p .endlessReferences)
    (h : ∀ depth, (readStructural (readWithin depth) v path c).FailsOnly p) (depth : Nat) :
  (readWithin depth ⟨.definition, v, path⟩ c).FailsOnly p
  := by
  match depth with
  | 0 => exact Report.failsOnly_fail endless
  | 1 =>
    rw [readWithin_one_definition noList]
    exact Report.failsOnly_fail endless
  | depth + 2 =>
    rw [readWithin_definition noList]
    exact h depth

theorem not_rejected_of_lists
    (lists : Lists v) :
  ¬ Rejected ⟨.definition, v, path⟩ c message
  := by
  obtain ⟨elements, held⟩ := lists
  apply not_rejected_of_failsOnly
  intro depth
  match depth with
  | 0 => exact Report.failsOnly_fail id
  | 1 =>
    simp only [readWithin, step, readDefinition, held]
    exact Report.failsOnly_fail id
  | depth + 2 =>
    simp only [readWithin, step, readDefinition, held, readEnumeration_eq (get?_enum_iff.mp held)]
    exact Report.failsOnly_pure _

/-- What holds any JSON value or is an array is not rejected. -/
theorem not_rejected_of_rule
    (noList : ¬ Lists v)
    (rule : (Body.ofJson v).structuralRule = .scalar ∨ (Body.ofJson v).structuralRule = .array) :
  ¬ Rejected ⟨.definition, v, path⟩ c message
  := by
  apply not_rejected_of_failsOnly
  apply failsOnly_definition noList id
  intro depth
  obtain rule | rule := rule
  · simp only [readStructural, rule]
    exact Report.failsOnly_pure _
  · simp only [readStructural, rule]
    exact Report.failsOnly_pure _

/-- Without a visit of a property, properties fail for other causes only. -/
theorem failsOnly_properties
    {p : Json} (depth : Nat)
    (unvisited : ∀ y, ReflTransGen Asks (⟨.properties, p, path⟩, c) y → y.1.role ≠ .property) :
  (readWithin depth ⟨.properties, p, path⟩ c).FailsOnly fun e => ¬ e.IsUnsupported
  := by
  cases depth with
  | zero => exact Report.failsOnly_fail id
  | succ depth =>
    cases p with
    | object fields =>
      match fields with
      | [] => exact Report.failsOnly_pure _
      | (key, v) :: rest =>
        have visited := unvisited _ (.single (.handsOn (.member List.mem_cons_self)))
        exact absurd rfl visited
    | _ => exact Report.failsOnly_fail id

/-- What may be a concept is not rejected: it fails for a property, or not for a type. -/
theorem not_rejected_of_mayBeConcept
    (noList : ¬ Lists v) (rule : (Body.ofJson v).structuralRule = .concept)
    (fits : MayBeConcept (Body.ofJson v) path) :
  ¬ Rejected ⟨.definition, v, path⟩ c message
  := by
  intro rejected
  have unvisited := ((rejected_iff_structural noList).mp rejected).2
  have fails (depth : Nat) :
      (readStructural (readWithin depth) v path c).FailsOnly fun e => ¬ e.IsUnsupported := by
    have ⟨strict, held, typed⟩ := fits
    simp only [readStructural, rule]
    apply Report.failsOnly_bind_of_outcome_eq_ok held
    rw [if_neg (by simp [typed]), readConcept]
    split
    · exact Report.failsOnly_pure _
    next isSet =>
      apply Report.failsOnly_bind
      · apply failsOnly_properties
        intro y reached
        exact unvisited y (.head (.handsOn (.concept rule fits isSet)) reached)
      · intro _ _
        exact Report.failsOnly_pure _
  exact not_rejected_of_failsOnly (failsOnly_definition noList id fails) rejected

/-- What must be an object and is not is rejected for its type. -/
theorem rejected_iff_of_not_mayBeConcept
    (noList : ¬ Lists v) (rule : (Body.ofJson v).structuralRule = .concept) (nonempty : path ≠ [])
    (unfit : ¬ MayBeConcept (Body.ofJson v) path) :
  Rejected ⟨.definition, v, path⟩ c message ↔
    message = "Type keyword '" ++ ((Body.ofJson v).getD "type").plain ++ "' in definition '" ++
      normalizeName (nameOf path) ++ "' is not supported."
  := by
  obtain ⟨strict, held⟩ := mustBeObject_eq_pure nonempty
  have must : (strict && !(Body.ofJson v).hasType "object") = true := by
    have := not_exists.mp unfit strict
    simpa [held] using this
  have fails (read : Reader) : readStructural read v path c =
      .fail (.unsupportedDefinition ((Body.ofJson v).getD "type")
        (normalizeName (nameOf path))) := by
    simp only [readStructural, rule, held]
    exact if_pos must
  have unvisited (y : Visit) (reached : ReflTransGen Asks (⟨.structural, v, path⟩, c) y) :
      y = (⟨.structural, v, path⟩, c) := by
    obtain rfl | ⟨z, step, -⟩ := reached.cases_head
    · rfl
    · obtain ⟨handed⟩ := step
      cases handed with
      | firstAlternative other | aliased other => simp [rule] at other
      | concept _ fits => exact absurd fits unfit
  rw [rejected_iff_structural noList]
  simp only [fails]
  constructor
  · rintro ⟨⟨e, -, told, depth, fails⟩, -⟩
    obtain rfl := Except.error.inj fails
    rw [Failure.message?_unsupportedDefinition] at told
    exact (Option.some.inj told).symm
  · rintro rfl
    refine ⟨⟨.unsupportedDefinition .., trivial,
      Failure.message?_unsupportedDefinition .., 0, rfl⟩, ?_⟩
    intro y reached
    rw [unvisited y reached]
    simp

end

/-! ### Containers -/

/-- What stands in a container may be a concept if it is an object, or if the container stands
under the root. -/
theorem mayBeConcept_append
    {container : List String} {b : Body} {key : String} (nonempty : container ≠ []) :
  MayBeConcept b (container ++ [key]) ↔
    container.head? = some rootTypeName ∨ b.hasType "object" = true
  := by
  obtain ⟨first, rest, rfl⟩ := List.exists_cons_of_ne_nil nonempty
  have strict :
      mustBeObject (first :: rest ++ [key]) = Pure.pure (decide (first ≠ rootTypeName)) := by
    cases rest <;> rfl
  unfold MayBeConcept
  rw [strict]
  by_cases root : first = rootTypeName <;> simp [root]

/-- A definition in a container is rejected for its type, before any property is visited, exactly
if the container does not stand under the root and what remains of the definition neither lists
its values nor is freeform, an array or an object. -/
theorem rejected_iff
    {container : List String} (nonempty : container ≠ []) (key : String) (v : Json) (c : Context) :
  (∃! u, Remains v u) ∧ ∀ u, Remains v u → (Body.ofJson u).isReference = false →
    ∀ message, Rejected ⟨.definition, v, container ++ [key]⟩ c message ↔
      message = "Type keyword '" ++ ((Body.ofJson u).getD "type").plain ++ "' in definition '" ++
          normalizeName key ++ "' is not supported." ∧
        container.head? ≠ some rootTypeName ∧ ¬ Lists u ∧ (Body.ofJson u).isFreeform = false ∧
        (Body.ofJson u).hasType "array" = false ∧ (Body.ofJson u).hasType "object" = false
  := by
  refine ⟨existsUnique_remains v, ?_⟩
  rintro u ⟨taken, stops⟩ unreferenced message
  rw [rejected_iff_of_remains ⟨taken, stops⟩]
  by_cases lists : Lists u
  · simp [lists, not_rejected_of_lists lists]
  · -- No alternative is left to be taken and nothing is referred to, so three rules remain.
    cases rule : (Body.ofJson u).structuralRule with
    | alternation => exact absurd ⟨lists, rule, rfl⟩ (stops _)
    | reference => simp [Body.isReference_of_structuralRule rule] at unreferenced
    | scalar =>
      have freeform : (Body.ofJson u).isFreeform = true := by grind [Body.structuralRule]
      simp [freeform, not_rejected_of_rule lists (.inl rule)]
    | array =>
      simp [Body.hasType_of_structuralRule rule, not_rejected_of_rule lists (.inr rule)]
    | concept =>
      have freeform : (Body.ofJson u).isFreeform = false := by grind [Body.structuralRule]
      have array : (Body.ofJson u).hasType "array" = false := by grind [Body.structuralRule]
      by_cases fits : MayBeConcept (Body.ofJson u) (container ++ [key])
      · have accepted : ¬ Rejected ⟨.definition, u, container ++ [key]⟩ c message :=
          not_rejected_of_mayBeConcept lists rule fits
        obtain root | object := (mayBeConcept_append nonempty).mp fits
        · simp [accepted, root]
        · simp [accepted, object]
      · rw [rejected_iff_of_not_mayBeConcept lists rule (by simp) fits]
        rw [mayBeConcept_append nonempty, not_or] at fits
        simp [fits, lists, freeform, array, nameOf]

/-- A text or nothing. -/
def textOrNull : Json := .object [("type", .array [.string "string", .string "null"])]

/-- A text or nothing, or else anything. -/
def textOrAnything : Json := .object [("anyOf", .array [textOrNull, .bool true])]

/-- The number of a part, whose first alternative has alternatives itself. -/
def partNumber : Json :=
  .object
    [("type", .string "object"),
      ("properties", .object [("batch", .object [("type", .string "null")])]),
      ("oneOf", .array [textOrAnything, .object [("type", .string "object")]])]

theorem rejected_iff_partNumber :
  Remains partNumber textOrNull ∧
    Rejected ⟨.definition, partNumber, ["components", "schemas"] ++ ["part number"]⟩ {}
      "Type keyword '['string', 'null']' in definition 'part_number' is not supported."
  := by
  have remains : Remains partNumber textOrNull := by
    constructor
    · apply ReflTransGen.head (b := textOrAnything)
      · exact ⟨lists_iff.not_left.mpr rfl, by decide, rfl⟩
      · exact .single ⟨lists_iff.not_left.mpr rfl, by decide, rfl⟩
    · rintro w ⟨-, rule, -⟩
      exact absurd rule (by decide)
  have nonempty : ["components", "schemas"] ≠ [] := by decide
  obtain ⟨-, rejected⟩ := rejected_iff nonempty "part number" partNumber {}
  refine ⟨remains, (rejected _ remains (by decide) _).mpr ⟨by decide +kernel, by decide, ?_⟩⟩
  exact ⟨lists_iff.not_left.mpr rfl, by decide, by decide, by decide⟩

/-- Names that stand under the common root name. -/
def rootedNames : Json :=
  .object [("Root", .object [("Name", .object [("type", .string "string")])])]

/-- A text that stands under the root name is not rejected, and yields nothing. -/
theorem not_rejected_rootedNames :
  ∃ name, rootedNames.getPath? (["Root"] ++ ["Name"]) = some name ∧ Remains name name ∧
    (Body.ofJson name).isReference = false ∧ ¬ Lists name ∧
    (Body.ofJson name).isFreeform = false ∧ (Body.ofJson name).hasType "array" = false ∧
    (Body.ofJson name).hasType "object" = false ∧
    (∀ c message, ¬ Rejected ⟨.definition, name, ["Root"] ++ ["Name"]⟩ c message) ∧
    (inferModels rootedNames (.string "org.acme") defaultMetaNamespace
      [.string "Root"]).outcome.toOption =
        some { models := [{ namespaceName := .string "org.acme", declarations := [] }] }
  := by
  have noList : ¬ Lists (.object [("type", .string "string")]) := lists_iff.not_left.mpr rfl
  refine ⟨_, rfl, ⟨.refl, ?_⟩, by decide, noList, by decide, by decide, by decide, ?_,
    by decide +kernel⟩
  · rintro w ⟨-, rule, -⟩
    exact absurd rule (by decide)
  · intro c message
    apply not_rejected_of_mayBeConcept noList (by decide)
    exact (mayBeConcept_append (by decide)).mpr (.inl rfl)

end Inference

end ConceptModel
