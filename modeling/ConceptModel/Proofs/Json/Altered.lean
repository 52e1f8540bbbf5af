import ConceptModel.Proofs.Json.Reordered

/-!
# Altered objects

`Altered key fields fields'` says that two lists of fields differ in the object under one
key.  Objects are altered when one inside of them is reordered, and when one inside of them
is `Extended`: `Extended key value path v w` says that `w` is `v` with a field added at the
end of the object at a path.
-/

namespace ConceptModel.Json

variable {key : String} {path : List String} {v w value : Json}
  {fields fields' : List (String × Json)}

/-! ### One key -/

/-- Whether fields are others but for the object under a key. -/
def Altered (key : String) (fields fields' : List (String × Json)) : Prop :=
  ∃ front back inner inner', fields = front ++ (key, .object inner) :: back ∧
    fields' = front ++ (key, .object inner') :: back ∧ lookup? key front = none

theorem Altered.filled
    (h : Altered key fields fields') :
  fields.isEmpty = false ∧ fields'.isEmpty = false
  := by
  obtain ⟨front, back, inner, inner', rfl, rfl, -⟩ := h
  simp

theorem Altered.lookup?_of_ne
    (h : Altered key fields fields') {other : String} (different : other ≠ key) :
  Json.lookup? other fields' = Json.lookup? other fields
  := by
  obtain ⟨front, back, inner, inner', rfl, rfl, first⟩ := h
  rw [lookup?_split first, lookup?_split first, if_neg different, if_neg different]

theorem Altered.objects
    (h : Altered key fields fields') :
  ∃ inner inner', Json.lookup? key fields = some (.object inner) ∧
    Json.lookup? key fields' = some (.object inner')
  := by
  obtain ⟨front, back, inner, inner', rfl, rfl, first⟩ := h
  use inner, inner'
  rw [lookup?_split first, lookup?_split first, if_pos rfl, if_pos rfl]
  exact ⟨rfl, rfl⟩

theorem Reordered.altered
    (h : Reordered (key :: path) (.object fields) (.object fields')) :
  Altered key fields fields'
  := by
  cases h with
  | @inside _ _ _ _ front back first next =>
    obtain ⟨inner, inner', rfl, rfl⟩ := next.objects
    exact ⟨front, back, inner, inner', rfl, rfl, first⟩

/-! ### A field more -/

/-- Whether the second value is the first one with a field added at the end of the object at
a path, which has none of its key. -/
inductive Extended (key : String) (value : Json) : List String → Json → Json → Prop where
  | here {fields : List (String × Json)} (fresh : lookup? key fields = none) :
      Extended key value [] (.object fields) (.object (fields ++ [(key, value)]))
  | inside {first : String} {path : List String} {v w : Json} {front back : List (String × Json)}
      (unique : lookup? first front = none) (next : Extended key value path v w) :
      Extended key value (first :: path) (.object (front ++ (first, v) :: back))
        (.object (front ++ (first, w) :: back))

theorem Extended.objects
    (h : Extended key value path v w) :
  ∃ fields fields', v = .object fields ∧ w = .object fields'
  := by
  cases h with
  | here | inside => exact ⟨_, _, rfl, rfl⟩

theorem Extended.altered
    {first : String} (h : Extended key value (first :: path) (.object fields) (.object fields')) :
  Altered first fields fields'
  := by
  cases h with
  | @inside _ _ _ _ front back unique next =>
    obtain ⟨inner, inner', rfl, rfl⟩ := next.objects
    exact ⟨front, back, inner, inner', rfl, rfl, unique⟩

/-- The object at the path. -/
theorem Extended.getPath?
    (h : Extended key value path v w) :
  ∃ fields, v.getPath? path = some (.object fields) ∧
    w.getPath? path = some (.object (fields ++ [(key, value)])) ∧
    Json.lookup? key fields = none
  := by
  induction h with
  | @here fields fresh => exact ⟨fields, rfl, rfl, fresh⟩
  | inside unique _ ih =>
    simpa [Json.getPath?, Json.get?, lookup?_append, unique, Json.lookup?] using ih

end ConceptModel.Json
