import ConceptModel.Proofs.Json.Reordered
import Mathlib.Data.List.Forall2

/-!
# Rearranged values

`Rearranged v w` says that `w` is `v` with the fields of its objects in another order, at any
depth; a truth value, an integer and a double stay what they are.  Who looks into a value only
by the keys of its objects and by the elements of its arrays cannot tell it from a rearranged
one: a relation of this kind `Sees` values.  Equality is another one.
-/

namespace ConceptModel.Json

variable {v w : Json}

/-- Whether two values are the same but for the order of the fields of objects. -/
inductive Rearranged : Json → Json → Prop where
  | null : Rearranged .null .null
  | bool (b : Bool) : Rearranged (.bool b) (.bool b)
  | number (x : Number) : Rearranged (.number x) (.number x)
  | string (s : String) : Rearranged (.string s) (.string s)
  | array {vs ws : List Json} (each : List.Forall₂ Rearranged vs ws) :
      Rearranged (.array vs) (.array ws)
  | object {fields fields' : List (String × Json)}
      (each : ∀ key, Option.Rel Rearranged (lookup? key fields) (lookup? key fields')) :
      Rearranged (.object fields) (.object fields')

/-! ### Looking into values -/

/-- A relation of values that keeps kinds, and goes on to the elements of arrays and to what
objects hold under each key. -/
structure Sees (R : Json → Json → Prop) : Prop where
  bool : ∀ {b w}, R (.bool b) w → w = .bool b
  number : ∀ {x w}, R (.number x) w → w = .number x
  string : ∀ {s w}, R (.string s) w → w = .string s
  array : ∀ {vs w}, R (.array vs) w → ∃ ws, w = .array ws ∧ List.Forall₂ R vs ws
  get? : ∀ {v w}, R v w → ∀ key, Option.Rel R (v.get? key) (w.get? key)

theorem sees_eq :
  Sees Eq
  where
  bool h := h.symm
  number h := h.symm
  string h := h.symm
  array {vs w} h := ⟨vs, h.symm, List.forall₂_refl vs⟩
  get? := by
    rintro v w rfl key
    cases v.get? key with
    | none => exact .none
    | some u => exact .some rfl

theorem sees_rearranged :
  Sees Rearranged
  where
  bool h := by cases h; rfl
  number h := by cases h; rfl
  string h := by cases h; rfl
  array h := by
    cases h with
    | array each => exact ⟨_, rfl, each⟩
  get? h key := by
    cases h with
    | object each => exact each key
    | _ => exact .none

section

variable {R : Json → Json → Prop} (sees : Sees R) {key : String} {u : Json} (h : R v w)
include sees h

theorem Sees.exists_get?
    (held : v.get? key = some u) :
  ∃ u', w.get? key = some u' ∧ R u u'
  := by
  have seen := sees.get? h key
  rw [held] at seen
  generalize w.get? key = o at seen
  cases seen with
  | some same => exact ⟨_, rfl, same⟩

theorem Sees.get?_eq_none
    (unset : v.get? key = none) :
  w.get? key = none
  := by
  have seen := sees.get? h key
  rw [unset] at seen
  generalize w.get? key = o at seen
  cases seen with
  | none => rfl

theorem Sees.get?_string
    {s : String} (held : v.get? key = some (.string s)) :
  w.get? key = some (.string s)
  := by
  obtain ⟨u, held', same⟩ := sees.exists_get? h held
  rw [held', sees.string same]

theorem Sees.get?_bool
    {b : Bool} (held : v.get? key = some (.bool b)) :
  w.get? key = some (.bool b)
  := by
  obtain ⟨u, held', same⟩ := sees.exists_get? h held
  rw [held', sees.bool same]

end

end ConceptModel.Json
