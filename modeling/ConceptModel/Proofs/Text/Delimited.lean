import Mathlib.Data.List.Basic

/-!
# Delimited texts

A writer is `Delimited` when the text of a value ends where it ends, whatever comes after
it: two values with texts after them that read the same are the same value, and the texts
after them are the same.  Such writers can be put one after another, and nothing is lost.
-/

namespace ConceptModel.Text

variable {α β : Type} {write : α → List β} {P : α → Prop} {Q R : List β → Prop}

/-- The text of a value and the text after it can be told from the two together, for
values of a kind before texts of a kind. -/
structure Delimited (write : α → List β) (P : α → Prop) (Q : List β → Prop) : Prop where
  split {a b : α} {r s : List β} (ha : P a) (hb : P b) (hr : Q r) (hs : Q s)
    (same : write a ++ r = write b ++ s) : a = b ∧ r = s

/-- Whether a text has a first element, if any, that does not satisfy a predicate. -/
def Stops (p : β → Prop) (r : List β) : Prop := ∀ c ∈ r.head?, ¬ p c

@[simp]
theorem stops_nil
    {p : β → Prop} :
  Stops p []
  := by simp [Stops]

@[simp]
theorem stops_cons
    {p : β → Prop} {c : β} {r : List β} :
  Stops p (c :: r) ↔ ¬ p c
  := by simp [Stops]

/-- A delimited writer writes different values differently. -/
theorem Delimited.eq
    {a b : α} (h : Delimited write P Q) (ha : P a) (hb : P b) (nil : Q [])
    (same : write a = write b) :
  a = b
  := (h.split ha hb nil nil (by rw [same])).1

/-- A mark in front changes nothing. -/
theorem Delimited.append_left
    (h : Delimited write P Q) (mark : List β) :
  Delimited (fun a => mark ++ write a) P Q
  := by
  constructor
  intro a b r s ha hb hr hs same
  rw [List.append_assoc, List.append_assoc] at same
  exact h.split ha hb hr hs (List.append_cancel_left same)

/-- Values one after another are told apart when each is, and when what comes after the
last does not begin like one more. -/
theorem Delimited.flatMap
    (h : Delimited write P Q)
    (before : ∀ (xs : List α) r, (∀ a ∈ xs, P a) → R r → Q (xs.flatMap write ++ r))
    (ends : ∀ a r, P a → R r → ¬ write a <+: r) :
  Delimited (fun xs : List α => xs.flatMap write) (fun xs => ∀ a ∈ xs, P a) R
  := by
  constructor
  intro xs ys r s hx hy hr hs same
  induction xs generalizing ys with
  | nil =>
    cases ys with
    | nil => exact ⟨rfl, same⟩
    | cons b ys =>
      simp only [List.flatMap_nil, List.nil_append, List.flatMap_cons, List.append_assoc] at same
      exact absurd ⟨_, same.symm⟩ (ends b r (hy b List.mem_cons_self) hr)
  | cons a xs ih =>
    cases ys with
    | nil =>
      simp only [List.flatMap_nil, List.nil_append, List.flatMap_cons, List.append_assoc] at same
      exact absurd ⟨_, same⟩ (ends a s (hx a List.mem_cons_self) hs)
    | cons b ys =>
      rw [List.forall_mem_cons] at hx hy
      simp only [List.flatMap_cons, List.append_assoc] at same
      obtain ⟨rfl, rest⟩ := h.split hx.1 hy.1 (before xs r hx.2 hr) (before ys s hy.2 hs) same
      obtain ⟨rfl, rfl⟩ := ih hx.2 hy.2 rest
      exact ⟨rfl, rfl⟩

/-- Elements that stand for values, one each, end where the first of another kind
stands. -/
theorem delimited_map
    {f : α → β} {p : β → Prop} (injective : ∀ a b, P a → P b → f a = f b → a = b)
    (inside : ∀ a, P a → p (f a)) :
  Delimited (List.map f) (fun xs => ∀ a ∈ xs, P a) (Stops p)
  := by
  have single : Delimited (fun a => [f a]) P fun _ => True := by
    constructor
    intro a b r s ha hb _ _ same
    obtain ⟨first, rest⟩ := List.cons.inj same
    exact ⟨injective a b ha hb first, rest⟩
  have all := single.flatMap (R := Stops p) (fun _ _ _ _ => trivial) <| by
    rintro a _ ha stops ⟨r, rfl⟩
    exact stops_cons.mp stops (inside a ha)
  constructor
  intro xs ys r s hx hy hr hs same
  rw [List.map_eq_flatMap, List.map_eq_flatMap] at same
  exact all.split hx hy hr hs same

/-- A run of elements of a kind ends where the first of another kind stands. -/
theorem delimited_run (p : β → Prop) :
  Delimited id (fun xs => ∀ c ∈ xs, p c) (Stops p)
  := by
  rw [← List.map_id_fun]
  exact delimited_map (fun _ _ _ _ same => same) fun _ held => held

/-- A value that may be absent is told apart when its text begins with a mark with which
what comes after it never begins. -/
theorem Delimited.optional
    (h : Delimited write P Q) (mark : List β) (marked : ∀ a, P a → mark <+: write a) :
  Delimited (fun o : Option α => o.elim [] write) (fun o => ∀ a ∈ o, P a)
    (fun r => Q r ∧ ¬ mark <+: r)
  := by
  have differ {b : α} {r s : List β} (hb : P b) (unmarked : ¬ mark <+: r) :
      r ≠ write b ++ s := by
    rintro rfl
    exact unmarked ((marked b hb).trans (List.prefix_append _ s))
  constructor
  rintro (- | a) (- | b) r s ha hb ⟨hr, unmarked⟩ ⟨hs, unmarked'⟩ same
  · exact ⟨rfl, same⟩
  · exact absurd same (differ (hb b rfl) unmarked)
  · exact absurd same.symm (differ (ha a rfl) unmarked')
  · obtain ⟨rfl, rest⟩ := h.split (ha a rfl) (hb b rfl) hr hs same
    exact ⟨rfl, rest⟩

end ConceptModel.Text
