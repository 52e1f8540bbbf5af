import ConceptModel.Proofs.Json.Fields
import Mathlib.Data.List.Basic

/-!
# Reordered objects

`Reordered path v w` says that `w` is `v` with the fields of the object at a path in another
order.  Whatever is found in `v` along another path is found in `w`, unless it contains this
object, and then it is reordered as well: both values are `Kin`.
-/

namespace ConceptModel.Json

variable {key : String} {path : List String} {v w : Json} {fields fields' : List (String × Json)}

/-- Whether the second value is the first one with the fields of the object at a path in
another order. -/
inductive Reordered : List String → Json → Json → Prop where
  | here {fields fields' : List (String × Json)} (perm : fields.Perm fields')
      (distinct : (fields.map Prod.fst).Nodup) : Reordered [] (.object fields) (.object fields')
  | inside {key : String} {path : List String} {v w : Json} {front back : List (String × Json)}
      (first : lookup? key front = none) (next : Reordered path v w) :
      Reordered (key :: path) (.object (front ++ (key, v) :: back))
        (.object (front ++ (key, w) :: back))

/-- Whether two values are the same but for the order of the fields of one object. -/
def Kin (v w : Json) : Prop := v = w ∨ ∃ path, Reordered path v w

theorem Kin.refl
    (v : Json) :
  Kin v v
  := .inl rfl

/-! ### Fields -/

theorem lookup?_append
    {front back : List (String × Json)} :
  lookup? key (front ++ back) = (lookup? key front).or (lookup? key back)
  := by
  induction front with
  | nil => simp [lookup?]
  | cons e rest ih =>
    simp only [List.cons_append, lookup?]
    split
    · rfl
    · exact ih

/-- With distinct keys the order of fields does not matter. -/
theorem lookup?_perm
    (perm : fields.Perm fields') (distinct : (fields.map Prod.fst).Nodup) :
  lookup? key fields' = lookup? key fields
  := by
  have distinct' : (fields'.map Prod.fst).Nodup := (perm.map Prod.fst).nodup_iff.mp distinct
  apply Option.ext
  intro v
  rw [lookup?_eq_some distinct, lookup?_eq_some distinct', perm.mem_iff]

theorem lookup?_split
    {front back : List (String × Json)} (first : lookup? key front = none) (other : String) :
  lookup? other (front ++ (key, v) :: back) =
    if other = key then some v else lookup? other (front ++ back)
  := by
  simp only [lookup?_append, lookup?]
  split
  next same =>
    subst same
    simp [first]
  next different => simp [Ne.symm different]

/-- A field that is looked up is the first one of its key. -/
theorem exists_split_of_lookup?
    (h : lookup? key fields = some v) :
  ∃ front back, fields = front ++ (key, v) :: back ∧ lookup? key front = none
  := by
  induction fields with
  | nil => simp [lookup?] at h
  | cons e rest ih =>
    obtain ⟨k, x⟩ := e
    by_cases same : k = key
    · subst same
      obtain rfl : x = v := by simpa [lookup?] using h
      exact ⟨[], rest, rfl, rfl⟩
    · obtain ⟨front, back, rfl, first⟩ := ih (by simpa [lookup?, same] using h)
      use (k, x) :: front, back, rfl
      simp [lookup?, same, first]

/-! ### Kinship -/

/-- Fields that are reordered hold kin under every key. -/
theorem Reordered.lookup?
    (h : Reordered path (.object fields) (.object fields')) (key : String) :
  Option.Rel Kin (lookup? key fields) (lookup? key fields')
  := by
  cases h with
  | here perm distinct =>
    rw [lookup?_perm perm distinct]
    cases Json.lookup? key fields with
    | none => exact .none
    | some v => exact .some (.refl v)
  | @inside other path v w front back first next =>
    rw [lookup?_split first, lookup?_split first]
    split
    · exact .some (.inr ⟨path, next⟩)
    · cases Json.lookup? key (front ++ back) with
      | none => exact .none
      | some x => exact .some (.refl x)

/-- What is reordered at a path are two objects. -/
theorem Reordered.objects
    (h : Reordered path v w) :
  ∃ fields fields', v = .object fields ∧ w = .object fields'
  := by
  cases h with
  | here | inside => exact ⟨_, _, rfl, rfl⟩

/-- Values that are kin have members that are kin. -/
theorem Kin.get?
    (h : Kin v w) (key : String) :
  Option.Rel Kin (v.get? key) (w.get? key)
  := by
  obtain rfl | ⟨path, h⟩ := h
  · cases v.get? key with
    | none => exact .none
    | some x => exact .some (.refl x)
  · obtain ⟨fields, fields', rfl, rfl⟩ := h.objects
    exact h.lookup? key

/-- Values that are kin have kin at each path. -/
theorem Kin.getPath?
    (h : Kin v w) (path : List String) :
  Option.Rel Kin (v.getPath? path) (w.getPath? path)
  := by
  induction path generalizing v w with
  | nil => exact .some h
  | cons key path ih =>
    have held := h.get? key
    unfold Json.getPath?
    cases hv : v.get? key with
    | none =>
      rw [hv] at held
      generalize w.get? key = y at held
      cases held
      exact .none
    | some x =>
      rw [hv] at held
      generalize w.get? key = y at held
      cases held with
      | some kin => exact ih kin

theorem Kin.isObject_eq
    (h : Kin v w) :
  v.isObject = w.isObject
  := by
  obtain rfl | ⟨path, h⟩ := h
  · rfl
  · obtain ⟨fields, fields', rfl, rfl⟩ := h.objects
    rfl

/-! ### The object at the path -/

/-- At the path the fields are permuted. -/
theorem Reordered.getPath?
    (h : Reordered path v w) :
  ∃ fields fields', v.getPath? path = some (.object fields) ∧
    w.getPath? path = some (.object fields') ∧ fields.Perm fields' ∧
    (fields.map Prod.fst).Nodup
  := by
  induction h with
  | @here fields fields' perm distinct => exact ⟨fields, fields', rfl, rfl, perm, distinct⟩
  | inside first _ ih =>
    simpa [Json.getPath?, Json.get?, lookup?_append, first, Json.lookup?] using ih

/-- The object at a path can be put in any order. -/
theorem exists_reordered
    (held : v.getPath? path = some (.object fields)) (perm : fields.Perm fields')
    (distinct : (fields.map Prod.fst).Nodup) :
  ∃ w, Reordered path v w ∧ w.getPath? path = some (.object fields')
  := by
  induction path generalizing v with
  | nil =>
    obtain rfl : v = .object fields := by simpa [Json.getPath?] using held
    exact ⟨.object fields', .here perm distinct, rfl⟩
  | cons key path ih =>
    cases next : v.get? key with
    | none => simp [Json.getPath?, next] at held
    | some x =>
      obtain ⟨y, reordered, place⟩ := ih (by simpa [Json.getPath?, next] using held)
      cases v with
      | object outer =>
        obtain ⟨front, back, rfl, first⟩ := exists_split_of_lookup? next
        use .object (front ++ (key, y) :: back), .inside first reordered
        simpa [Json.getPath?, Json.get?, lookup?_append, first, Json.lookup?] using place
      | _ => simp [Json.get?] at next

end ConceptModel.Json
