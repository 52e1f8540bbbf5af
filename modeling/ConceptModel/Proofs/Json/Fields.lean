import ConceptModel.Json.Basic

/-!
# Fields

What is an array or an object, and looking up, setting and merging the fields of an object.  A list of fields is read from
its start, so a key that occurs twice has the value of its first occurrence.
-/

namespace ConceptModel.Json

variable {key : String} {value : Json} {fields changes : List (String × Json)}

theorem isArray_eq_false
    (h : ∀ elements, value ≠ .array elements) :
  value.isArray = false
  := by
  cases value with
  | array elements => exact absurd rfl (h elements)
  | _ => rfl

theorem exists_of_isObject
    (h : value.isObject = true) :
  ∃ fields, value = .object fields
  := by
  cases value with
  | object fields => exact ⟨fields, rfl⟩
  | _ => simp [isObject] at h

/-- What is looked up is a field. -/
theorem mem_of_lookup?_eq_some
    (h : lookup? key fields = some value) :
  (key, value) ∈ fields
  := by
  induction fields with
  | nil => simp [lookup?] at h
  | cons e rest ih =>
    simp only [lookup?] at h
    split at h
    next same =>
      obtain rfl : e.2 = value := by simpa using h
      simp [← same]
    next => exact List.mem_cons_of_mem e (ih h)

/-- When no key occurs twice, the value of a key is that of its field. -/
theorem lookup?_eq_some
    (distinct : (fields.map Prod.fst).Nodup) :
  lookup? key fields = some value ↔ (key, value) ∈ fields
  := by
  constructor
  · exact mem_of_lookup?_eq_some
  · intro h
    induction fields with
    | nil => simp at h
    | cons e rest ih =>
      obtain ⟨fresh, distinct⟩ := by simpa only [List.map_cons, List.nodup_cons] using distinct
      obtain rfl | h := List.mem_cons.mp h
      · simp [lookup?]
      · have other : e.1 ≠ key := by
          intro same
          apply fresh
          rw [same]
          exact List.mem_map_of_mem (f := Prod.fst) h
        simp only [lookup?, other, if_false]
        apply ih distinct h

/-- A field that is set has its value. -/
theorem lookup?_setField_self :
  lookup? key (setField key value fields) = some value
  := by
  induction fields with
  | nil => simp [setField, lookup?]
  | cons e rest ih =>
    simp only [setField]
    split
    next => simp [lookup?]
    next other => simp [lookup?, other, ih]

/-- Fields other than the one that is set keep their values. -/
theorem lookup?_setField_of_ne
    {other : String} (h : other ≠ key) :
  lookup? other (setField key value fields) = lookup? other fields
  := by
  induction fields with
  | nil => simp [setField, lookup?, Ne.symm h]
  | cons e rest ih =>
    simp only [setField]
    split
    next same => simp [lookup?, same, Ne.symm h]
    next => simp [lookup?, ih]

/-- A field of what is set is the new one or an old one. -/
theorem mem_setField
    {e : String × Json} (h : e ∈ setField key value fields) :
  e = (key, value) ∨ e ∈ fields
  := by
  induction fields with
  | nil => simpa [setField] using h
  | cons first rest ih =>
    simp only [setField] at h
    split at h
    next =>
      obtain h | h := List.mem_cons.mp h
      · exact .inl h
      · exact .inr (List.mem_cons_of_mem first h)
    next =>
      obtain rfl | h := List.mem_cons.mp h
      · simp
      · obtain h | h := ih h
        · exact .inl h
        · exact .inr (List.mem_cons_of_mem first h)

/-- A field of what is merged is one of either. -/
theorem mem_mergeFields
    {e : String × Json} (h : e ∈ mergeFields fields changes) :
  e ∈ fields ∨ e ∈ changes
  := by
  induction changes generalizing fields with
  | nil => exact .inl h
  | cons first rest ih =>
    obtain h | h := ih h
    · obtain rfl | h := mem_setField h
      · simp
      · exact .inl h
    · exact .inr (List.mem_cons_of_mem first h)

end ConceptModel.Json
