import ConceptModel.Inference.Step
import Mathlib.Data.List.Basic
import Mathlib.Tactic.Use

/-!
# Distinct declarations

Of the declarations that share a name, the first one stays.  So which of them stay depends
on the order in which they are found, unless those that may come first are the same:
`distinctDeclarations_perm_iff`.
-/

namespace ConceptModel.Inference

variable {d : Declaration} {found : List Declaration}

theorem mem_of_mem_distinctDeclarations
    (h : d ∈ distinctDeclarations found) :
  d ∈ found
  := by
  induction found with
  | nil => simp [distinctDeclarations] at h
  | cons first rest ih =>
    obtain rfl | h := List.mem_cons.mp h
    · exact List.mem_cons_self
    · exact List.mem_cons_of_mem first (ih (List.mem_filter.mp h).1)

/-- Every name stays the name of a declaration. -/
theorem exists_mem_distinctDeclarations
    (h : d ∈ found) :
  ∃ e ∈ distinctDeclarations found, e.name = d.name
  := by
  induction found with
  | nil => simp at h
  | cons first rest ih =>
    by_cases same : first.name = d.name
    · exact ⟨first, List.mem_cons_self, same⟩
    · obtain rfl | h := List.mem_cons.mp h
      · exact absurd rfl same
      · obtain ⟨e, mem, named⟩ := ih h
        use e
        constructor
        · apply List.mem_cons_of_mem
          apply List.mem_filter.mpr
          simp [mem, named, Ne.symm same]
        · exact named

/-- What is found later takes nothing away. -/
theorem distinctDeclarations_prefix
    (found more : List Declaration) :
  distinctDeclarations found <+: distinctDeclarations (found ++ more)
  := by
  induction found with
  | nil => exact List.nil_prefix
  | cons first rest ih => exact List.cons_prefix_cons.mpr ⟨rfl, ih.filter _⟩

/-- No two declarations that stay share a name. -/
theorem nodup_distinctDeclarations
    (found : List Declaration) :
  ((distinctDeclarations found).map Declaration.name).Nodup
  := by
  induction found with
  | nil => simp [distinctDeclarations]
  | cons first rest ih =>
    rw [distinctDeclarations, List.map_cons, List.nodup_cons]
    constructor
    · intro mem
      obtain ⟨d, stays, same⟩ := List.mem_map.mp mem
      simpa [same] using (List.mem_filter.mp stays).2
    · apply List.Nodup.sublist _ ih
      exact List.filter_sublist.map Declaration.name

/-! ### Order -/

/-- The first declaration of a name. -/
def firstNamed (name : String) (found : List Declaration) : Option Declaration :=
  found.find? fun d => d.name = name

theorem name_of_firstNamed
    {name : String} (h : firstNamed name found = some d) :
  d.name = name
  := by
  simpa using List.find?_some h

/-- The declarations that stay are the first ones of their names. -/
theorem firstNamed_eq_some
    {name : String} :
  firstNamed name found = some d ↔ d ∈ distinctDeclarations found ∧ d.name = name
  := by
  induction found with
  | nil => simp [firstNamed, distinctDeclarations]
  | cons first rest ih =>
    unfold firstNamed at ih ⊢
    simp only [List.find?_cons, distinctDeclarations, List.mem_cons, List.mem_filter]
    by_cases same : first.name = name
    · simp only [same, decide_true, Option.some.injEq]
      constructor
      · rintro rfl
        exact ⟨.inl rfl, same⟩
      · rintro ⟨rfl | ⟨-, other⟩, named⟩
        · rfl
        · simp [named] at other
    · simp only [same, decide_false, ih]
      constructor
      · rintro ⟨mem, rfl⟩
        exact ⟨.inr ⟨mem, by simpa using Ne.symm same⟩, rfl⟩
      · rintro ⟨rfl | ⟨mem, -⟩, named⟩
        · exact absurd named same
        · exact ⟨mem, named⟩

theorem distinctDeclarations_iff_firstNamed
    {found' : List Declaration} :
  (∀ d, d ∈ distinctDeclarations found' ↔ d ∈ distinctDeclarations found) ↔
    ∀ name, firstNamed name found' = firstNamed name found
  := by
  constructor
  · intro same name
    apply Option.ext
    intro d
    rw [firstNamed_eq_some, firstNamed_eq_some, same]
  · intro same d
    have iff (found : List Declaration) :
        d ∈ distinctDeclarations found ↔ firstNamed d.name found = some d := by
      simp [firstNamed_eq_some]
    rw [iff, iff, same]

theorem firstNamed_append_flatMap
    {α : Type} {name : String} {first : List Declaration} {l : List α}
    {each : α → List Declaration} :
  firstNamed name (first ++ l.flatMap each) =
    (firstNamed name first).or (l.findSome? fun a => firstNamed name (each a))
  := by
  simp [firstNamed, List.find?_append, List.find?_flatMap]

theorem findSome?_perm
    {α β : Type} {l l' : List α} {f : α → Option β} (perm : l.Perm l')
    (agree : ∀ a ∈ l, ∀ b ∈ l, ∀ x y, f a = some x → f b = some y → x = y) :
  l'.findSome? f = l.findSome? f
  := by
  cases h : l.findSome? f with
  | none =>
    rw [List.findSome?_eq_none_iff] at h ⊢
    intro a mem
    exact h a (perm.mem_iff.mpr mem)
  | some x =>
    obtain ⟨a, mem, held⟩ := List.exists_of_findSome?_eq_some h
    cases h' : l'.findSome? f with
    | none =>
      have none := List.findSome?_eq_none_iff.mp h' a (perm.mem_iff.mp mem)
      simp [held] at none
    | some y =>
      obtain ⟨b, mem', held'⟩ := List.exists_of_findSome?_eq_some h'
      rw [agree b (perm.mem_iff.mpr mem') a mem y x held' held]

/-- The declarations that stay are the same in any order of their sources exactly when no two
sources have different first declarations of a name that is not declared before. -/
theorem distinctDeclarations_perm_iff
    {α : Type} {first : List Declaration} {l : List α} {each : α → List Declaration} :
  (∀ l', l.Perm l' → ∀ d, d ∈ distinctDeclarations (first ++ l'.flatMap each) ↔
      d ∈ distinctDeclarations (first ++ l.flatMap each)) ↔
    ∀ a ∈ l, ∀ b ∈ l, ∀ d e, firstNamed d.name (each a) = some d →
      firstNamed e.name (each b) = some e → d.name = e.name →
      (∃ r ∈ first, r.name = d.name) ∨ d = e
  := by
  simp only [distinctDeclarations_iff_firstNamed, firstNamed_append_flatMap]
  constructor
  · intro same a ha b hb d e hd he named
    cases before : firstNamed d.name first with
    | some r =>
      have mem := List.mem_of_find?_eq_some before
      exact .inl ⟨r, mem, name_of_firstNamed before⟩
    | none =>
      have leads {c : α} {x : Declaration} (mem : c ∈ l)
          (held : firstNamed d.name (each c) = some x) :
          (l.findSome? fun a => firstNamed d.name (each a)) = some x := by
        obtain ⟨front, back, rfl⟩ := List.append_of_mem mem
        have moved := same (c :: (front ++ back)) List.perm_middle d.name
        simpa [before, held, eq_comm] using moved
      have leadsA := leads ha hd
      have leadsB := leads hb (named ▸ he)
      exact .inr (by simpa [leadsA] using leadsB)
  · intro agree l' perm name
    cases before : firstNamed name first with
    | some r => simp
    | none =>
      simp only [Option.none_or]
      apply findSome?_perm perm
      intro a ha b hb x y hx hy
      obtain rfl := name_of_firstNamed hx
      obtain ⟨r, mem, named⟩ | same :=
        agree a ha b hb x y hx (name_of_firstNamed hy ▸ hy) (name_of_firstNamed hy).symm
      · have none := List.find?_eq_none.mp before r mem
        simp [named] at none
      · exact same

end ConceptModel.Inference
