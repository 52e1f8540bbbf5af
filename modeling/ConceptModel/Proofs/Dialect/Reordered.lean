import ConceptModel.Dialect.Check
import ConceptModel.Proofs.Json.Reordered

/-!
# Checking reordered documents

The order of the fields of an object has no bearing on whether anything is found wrong with
a document.  Since a final finding ends the trial of several readings of a value, the checks
of two reordered documents are `Alike` in two respects: whether anything is found, and
whether anything final is.
-/

namespace ConceptModel.Dialect

/-! ### Findings that are alike -/

/-- Whether two checks agree on whether anything is found, and whether anything final is. -/
structure Alike (found found' : List Finding) : Prop where
  clear : found = [] ↔ found' = []
  final : (∃ f ∈ found, f.isFinal = true) ↔ ∃ f ∈ found', f.isFinal = true

variable {found found' : List Finding}

theorem Alike.refl
    (found : List Finding) :
  Alike found found
  := ⟨Iff.rfl, Iff.rfl⟩

/-- Findings in another order are alike. -/
theorem alike_of_perm
    (perm : found.Perm found') :
  Alike found found'
  := by
  constructor
  · rw [← List.perm_nil, ← List.perm_nil]
    exact ⟨perm.symm.trans, perm.trans⟩
  · simp only [perm.mem_iff]

theorem Alike.append
    {more more' : List Finding} (h : Alike found found') (hmore : Alike more more') :
  Alike (found ++ more) (found' ++ more')
  := by
  constructor
  · rw [List.append_eq_nil_iff, List.append_eq_nil_iff, h.clear, hmore.clear]
  · simp only [List.mem_append, or_and_right, exists_or, h.final, hmore.final]

theorem Alike.flatMap
    {α : Type} {l : List α} {f g : α → List Finding} (h : ∀ a ∈ l, Alike (f a) (g a)) :
  Alike (l.flatMap f) (l.flatMap g)
  := by
  induction l with
  | nil => exact .refl []
  | cons a rest ih =>
    apply Alike.append
    · exact h a (.head rest)
    · exact ih fun b mem => h b (.tail a mem)

/-- Of readings that are tried in order, one is free of findings whenever the one in the same
place is. -/
theorem Alike.firstClear_cons
    {rest rest' : List (List Finding)} (h : Alike found found')
    (hrest : Alike (firstClear rest) (firstClear rest')) :
  Alike (firstClear (found :: rest)) (firstClear (found' :: rest'))
  := by
  simp only [firstClear, List.isEmpty_iff, h.clear]
  split
  · exact .refl []
  · cases first : found.find? Finding.isFinal with
    | none =>
      have none : found'.find? Finding.isFinal = none := by
        rw [List.find?_eq_none] at first ⊢
        intro f mem final
        obtain ⟨f', mem', final'⟩ := h.final.mpr ⟨f, mem, final⟩
        exact first f' mem' final'
      rw [none]
      exact hrest
    | some f =>
      obtain ⟨f', mem', final'⟩ :=
        h.final.mp ⟨f, List.mem_of_find?_eq_some first, List.find?_some first⟩
      cases first' : found'.find? Finding.isFinal with
      | none => exact absurd final' (List.find?_eq_none.mp first' f' mem')
      | some f' =>
        constructor
        · simp
        · simp [List.find?_some first, List.find?_some first']

/-! ### Findings by keyword -/

/-- What is found in a value that should obey a rule. -/
def ruleFindings (d : Dialect) (rule : Rule) (v : Json) : List Finding :=
  match rule with
  | .schema => findings d v
  | .schemaOrFlag => firstClear [ensure v.isBool, findings d v]
  | .schemas => elementFindings d true v
  | .schemaOrSchemas => firstClear [findings d v, elementFindings d true v]
  | .looseSchemas => if v.isArray then elementFindings d false v else firstClear [findings d v]
  | .textsOrSchemas => if v.isString then [] else mixtureFindings d v
  | .schemasByKey regexKeys => memberFindings d regexKeys v
  | .dependencies nonempty => dependencyFindings d false (isNames nonempty) v
  | .looseDependencies =>
    dependencyFindings d true (isListWith fun vs => vs.all Json.isString) v
  | r => r.findings d v

/-- The findings of a keyword are those of its rule. -/
theorem lookup_fieldFindings
    {d : Dialect} {keyword : String} {fields : List (String × Json)} :
  (fieldFindings d fields).lookup keyword =
    (Json.lookup? keyword fields).map (ruleFindings d (d.rule keyword))
  := by
  induction fields with
  | nil => rfl
  | cons e rest ih =>
    obtain ⟨key, v⟩ := e
    simp only [fieldFindings, List.lookup_cons, Json.lookup?]
    by_cases same : keyword = key
    · subst same
      simp only [BEq.rfl, if_true, Option.map_some]
      rfl
    · simp only [beq_eq_false_iff_ne.mpr same, Ne.symm same, if_false]
      exact ih

/-- What is found in an object depends on what is under its keys. -/
theorem findings_object
    {d : Dialect} {fields : List (String × Json)} :
  findings d (.object fields) =
    (d.rules.flatMap fun e =>
      ((Json.lookup? e.1 fields).map (ruleFindings d (d.rule e.1))).getD []) ++
    ensure (d.needs.all fun e =>
      (Json.lookup? e.1 fields).isNone || (Json.lookup? e.2 fields).isSome)
  := by
  rw [findings]
  simp only [lookup_fieldFindings]

/-- Members are checked one after the other, and then their keys as patterns. -/
theorem memberFindings_object
    {d : Dialect} {regexKeys : Bool} {fields : List (String × Json)} :
  memberFindings d regexKeys (.object fields) =
    fields.flatMap (fun e => findings d e.2) ++
      if regexKeys then fields.flatMap fun e => patternFindings e.1 else []
  := by
  have each : eachFindings d fields = fields.flatMap fun e => findings d e.2 := by
    induction fields with
    | nil => rfl
    | cons e rest ih => simp [eachFindings, ih]
  rw [memberFindings, each]

theorem dependencyFindings_object
    {d : Dialect} {loose : Bool} {test : Json → Bool} {fields : List (String × Json)} :
  dependencyFindings d loose test (.object fields) = fields.flatMap fun e =>
    firstClear [ensure (loose && e.2.isString), findings d e.2, ensure (test e.2)]
  := by
  rw [dependencyFindings]
  induction fields with
  | nil => rfl
  | cons e rest ih => simp [eachDependency, ih]

/-! ### Reordered values -/

open Json

section

variable {d : Dialect} {fields fields' : List (String × Json)}

theorem alike_firstClear_pair
    {first : List Finding} (h : Alike found found') :
  Alike (firstClear [first, found]) (firstClear [first, found'])
  := by
  apply Alike.firstClear_cons (.refl first)
  exact Alike.firstClear_cons h (.refl _)

/-- Rules find alike in two objects when schemas and their members are found alike. -/
theorem alike_ruleFindings_object
    (whole : Alike (findings d (.object fields)) (findings d (.object fields')))
    (members : ∀ regexKeys, Alike (memberFindings d regexKeys (.object fields))
      (memberFindings d regexKeys (.object fields')))
    (dependencies : ∀ loose test, (∀ inner, test (.object inner) = false) →
      Alike (dependencyFindings d loose test (.object fields))
        (dependencyFindings d loose test (.object fields')))
    (tests : ∀ test : Json → Bool, (∀ inner, test (.object inner) = false) →
      fields.all (fun e => test e.2) = fields'.all fun e => test e.2)
    (rule : Rule) :
  Alike (ruleFindings d rule (.object fields)) (ruleFindings d rule (.object fields'))
  := by
  cases rule with
  | schema => exact whole
  | schemaOrFlag => exact alike_firstClear_pair whole
  | schemas => exact .refl _
  | schemaOrSchemas => exact .firstClear_cons whole (.refl _)
  | looseSchemas => exact .firstClear_cons whole (.refl _)
  | textsOrSchemas => exact .refl _
  | schemasByKey regexKeys => exact members regexKeys
  | dependencies nonempty => exact dependencies false _ fun _ => rfl
  | looseDependencies => exact dependencies true _ fun _ => rfl
  | namesByKey =>
    have same := tests (isNames false) fun _ => rfl
    simp only [ruleFindings, Rule.findings, Rule.admits, isObjectWith, same]
    exact .refl _
  | flagsByKey =>
    have same := tests Json.isBool fun _ => rfl
    simp only [ruleFindings, Rule.findings, Rule.admits, isObjectWith, same]
    exact .refl _
  | _ => exact .refl _

theorem alike_flatMap_split
    {key : String} {v w : Json} {front back : List (String × Json)}
    {f : String × Json → List Finding} (h : Alike (f (key, v)) (f (key, w))) :
  Alike ((front ++ (key, v) :: back).flatMap f) ((front ++ (key, w) :: back).flatMap f)
  := by
  rw [List.flatMap_append, List.flatMap_append, List.flatMap_cons, List.flatMap_cons]
  apply Alike.append (.refl _)
  exact h.append (.refl _)

end

/-- Every rule finds alike in values that are reordered. -/
theorem alike_of_reordered
    {path : List String} {v w : Json} (h : Reordered path v w) (d : Dialect) (rule : Rule) :
  Alike (ruleFindings d rule v) (ruleFindings d rule w)
  := by
  induction h generalizing rule with
  | here perm distinct =>
    apply alike_ruleFindings_object
    · simp only [findings_object, lookup?_perm perm distinct]
      exact .refl _
    · intro regexKeys
      rw [memberFindings_object, memberFindings_object]
      apply Alike.append (alike_of_perm (perm.flatMap_right _))
      split
      · exact alike_of_perm (perm.flatMap_right _)
      · exact .refl []
    · intro loose test _
      rw [dependencyFindings_object, dependencyFindings_object]
      exact alike_of_perm (perm.flatMap_right _)
    · intro test _
      exact perm.all_eq
  | @inside key path v w front back first next ih =>
    obtain ⟨inner, inner', rfl, rfl⟩ := next.objects
    apply alike_ruleFindings_object
    · rw [findings_object, findings_object]
      apply Alike.append
      · apply Alike.flatMap
        intro e _
        rw [lookup?_split first, lookup?_split first]
        split
        · exact ih (d.rule e.1)
        · exact .refl _
      · have needs : ∀ e : String × String,
            ((lookup? e.1 (front ++ (key, .object inner) :: back)).isNone ||
              (lookup? e.2 (front ++ (key, .object inner) :: back)).isSome) =
            ((lookup? e.1 (front ++ (key, .object inner') :: back)).isNone ||
              (lookup? e.2 (front ++ (key, .object inner') :: back)).isSome) := by
          intro e
          rw [lookup?_split first, lookup?_split first, lookup?_split first, lookup?_split first]
          split <;> split <;> rfl
        simp only [needs]
        exact .refl _
    · intro regexKeys
      rw [memberFindings_object, memberFindings_object]
      apply Alike.append (alike_flatMap_split (ih .schema))
      split
      · exact alike_flatMap_split (.refl _)
      · exact .refl []
    · intro loose test fails
      rw [dependencyFindings_object, dependencyFindings_object]
      apply alike_flatMap_split
      simp only [fails, isString]
      apply Alike.firstClear_cons (.refl _)
      exact Alike.firstClear_cons (ih .schema) (.refl _)
    · intro test fails
      simp [fails]

/-- A document is accepted in any order of its fields. -/
theorem findings_eq_nil_of_reordered
    {path : List String} {v w : Json} (h : Reordered path v w) (d : Dialect) :
  findings d v = [] ↔ findings d w = []
  := (alike_of_reordered h d .schema).clear

end ConceptModel.Dialect
