import ConceptModel.Inference.Step
import ConceptModel.Proofs.Inference.Rules
import Mathlib.Tactic.Use

/-!
# References and nesting

The local references that occur in a value, and how deep a value nests.  Reading turns a
schema into others: a keyword's value, its first alternative, itself with that merged over
it, the object that a tuple stands for.  None of them holds a reference that the schema
does not hold, and each nests less deep, or no deeper.
-/

namespace ConceptModel.Json

/-! ### References -/

/-- The local reference that a field is, if it is one. -/
def ownReference (key : String) (v : Json) : List String :=
  match v with
  | .string s => if key = "$ref" ∧ Reference.isLocal v then [s] else []
  | _ => []

mutual

/-- The local references that occur anywhere in a value. -/
def references : Json → List String
  | array elements => elementReferences elements
  | object fields => fieldReferences fields
  | _ => []

/-- The local references that occur in the elements of an array. -/
def elementReferences : List Json → List String
  | [] => []
  | v :: vs => references v ++ elementReferences vs

/-- The local references that occur in the fields of an object. -/
def fieldReferences : List (String × Json) → List String
  | [] => []
  | (key, v) :: rest => ownReference key v ++ references v ++ fieldReferences rest

end

/-- The references in elements are those in each of them. -/
theorem mem_elementReferences
    {r : String} {elements : List Json} :
  r ∈ elementReferences elements ↔ ∃ v ∈ elements, r ∈ v.references
  := by
  induction elements with
  | nil => simp [elementReferences]
  | cons v rest ih => simp [elementReferences, ih]

/-- The references in fields are those that they are, and those in their values. -/
theorem mem_fieldReferences
    {r : String} {fields : List (String × Json)} :
  r ∈ fieldReferences fields ↔
    ∃ e ∈ fields, r ∈ ownReference e.1 e.2 ∨ r ∈ e.2.references
  := by
  induction fields with
  | nil => simp [fieldReferences]
  | cons e rest ih => simp [fieldReferences, ih, or_assoc]

theorem references_subset_of_mem
    {e : String × Json} {fields : List (String × Json)} (h : e ∈ fields) :
  e.2.references ⊆ fieldReferences fields
  := by
  intro r hr
  exact mem_fieldReferences.mpr ⟨e, h, .inr hr⟩

theorem references_subset_of_lookup?
    {key : String} {v : Json} {fields : List (String × Json)}
    (h : lookup? key fields = some v) :
  v.references ⊆ fieldReferences fields
  := references_subset_of_mem (mem_of_lookup?_eq_some h)

/-- The references in the value of a key are references in the whole. -/
theorem references_subset_of_get?
    {key : String} {v w : Json} (h : v.get? key = some w) :
  w.references ⊆ v.references
  := by
  cases v with
  | object fields => exact references_subset_of_lookup? h
  | _ => simp [get?] at h

/-- The references in the value at the end of a path are references in the whole. -/
theorem references_subset_of_getPath?
    {path : List String} {v w : Json} (h : v.getPath? path = some w) :
  w.references ⊆ v.references
  := by
  induction path generalizing v with
  | nil =>
    obtain rfl : v = w := by simpa [getPath?] using h
    simp
  | cons key path ih =>
    simp only [getPath?] at h
    split at h
    next u hu => exact List.Subset.trans (ih h) (references_subset_of_get? hu)
    next => simp at h

/-! ### Nesting -/

mutual

/-- How deep a value nests.  The alternatives of a schema count on top of the rest of it,
as one of them is merged with it. -/
def nesting : Json → Nat
  | array elements => elementNesting elements + 1
  | object fields => fieldNesting fields + alternativeNesting fields + 1
  | _ => 1

/-- How deep the elements of an array nest. -/
def elementNesting : List Json → Nat
  | [] => 0
  | v :: vs => max (nesting v) (elementNesting vs)

/-- How deep the fields of an object nest, but for its alternatives. -/
def fieldNesting : List (String × Json) → Nat
  | [] => 0
  | (key, v) :: rest =>
    if Inference.Body.alternationKeywords.contains key then fieldNesting rest
    else max (nesting v) (fieldNesting rest)

/-- How deep the alternatives of an object nest. -/
def alternativeNesting : List (String × Json) → Nat
  | [] => 0
  | (key, v) :: rest =>
    if Inference.Body.alternationKeywords.contains key then
      max (nesting v) (alternativeNesting rest)
    else alternativeNesting rest

end

theorem nesting_pos
    (v : Json) :
  1 ≤ v.nesting
  := by
  cases v <;> simp [nesting]

/-- Elements nest as deep as the deepest of them. -/
theorem elementNesting_le
    {bound : Nat} {elements : List Json} :
  elementNesting elements ≤ bound ↔ ∀ v ∈ elements, v.nesting ≤ bound
  := by
  induction elements with
  | nil => simp [elementNesting]
  | cons v rest ih => rw [elementNesting, Nat.max_le, ih, List.forall_mem_cons]

/-- Fields nest as deep as the deepest of them that is no list of alternatives. -/
theorem fieldNesting_le
    {bound : Nat} {fields : List (String × Json)} :
  fieldNesting fields ≤ bound ↔
    ∀ e ∈ fields, e.1 ∉ Inference.Body.alternationKeywords → e.2.nesting ≤ bound
  := by
  induction fields with
  | nil => simp [fieldNesting]
  | cons e rest ih =>
    rw [List.forall_mem_cons, ← ih, fieldNesting]
    split
    next h =>
      have h := List.contains_iff_mem.mp h
      simp [h]
    next h =>
      have h := mt List.contains_iff_mem.mpr h
      rw [Nat.max_le, forall_prop_of_true h]

/-- Lists of alternatives nest as deep as the deepest of them. -/
theorem alternativeNesting_le
    {bound : Nat} {fields : List (String × Json)} :
  alternativeNesting fields ≤ bound ↔
    ∀ e ∈ fields, e.1 ∈ Inference.Body.alternationKeywords → e.2.nesting ≤ bound
  := by
  induction fields with
  | nil => simp [alternativeNesting]
  | cons e rest ih =>
    rw [List.forall_mem_cons, ← ih, alternativeNesting]
    split
    next h =>
      have h := List.contains_iff_mem.mp h
      rw [Nat.max_le, forall_prop_of_true h]
    next h =>
      have h := mt List.contains_iff_mem.mpr h
      simp [h]

theorem nesting_lt_of_mem
    {e : String × Json} {fields : List (String × Json)} (h : e ∈ fields) :
  e.2.nesting < (object fields).nesting
  := by
  simp only [nesting]
  by_cases alternative : e.1 ∈ Inference.Body.alternationKeywords
  · have := alternativeNesting_le.mp (Nat.le_refl _) e h alternative
    omega
  · have := fieldNesting_le.mp (Nat.le_refl _) e h alternative
    omega

/-- The value of a key nests less deep than the whole. -/
theorem nesting_lt_of_get?
    {key : String} {v w : Json} (h : v.get? key = some w) :
  w.nesting < v.nesting
  := by
  cases v with
  | object fields => exact nesting_lt_of_mem (mem_of_lookup?_eq_some h)
  | _ => simp [get?] at h

mutual

/-- A value nests no deeper than it is large. -/
theorem nesting_le_size : (v : Json) → v.nesting ≤ v.size
  | array elements => by
    simpa [nesting, size] using elementNesting_le_size elements
  | object fields => by
    simpa [nesting, size] using nesting_add_le_size fields
  | null | bool _ | number _ | string _ => by simp [nesting, size]

theorem elementNesting_le_size : (elements : List Json) →
    elementNesting elements ≤ sizeElements elements
  | [] => by simp [elementNesting]
  | v :: vs => by
    have hv := nesting_le_size v
    have hvs := elementNesting_le_size vs
    simp only [elementNesting, sizeElements]
    omega

theorem nesting_add_le_size : (fields : List (String × Json)) →
    fieldNesting fields + alternativeNesting fields ≤ sizeFields fields
  | [] => by simp [fieldNesting, alternativeNesting]
  | (key, v) :: rest => by
    have hv := nesting_le_size v
    have hrest := nesting_add_le_size rest
    simp only [fieldNesting, alternativeNesting, sizeFields]
    split <;> omega

end

mutual

/-- There are no more references in a value than it is large. -/
theorem references_length_le : (v : Json) → v.references.length ≤ v.size
  | array elements => by
    have := elementReferences_length_le elements
    simp only [references, size]
    omega
  | object fields => by
    have := fieldReferences_length_le fields
    simp only [references, size]
    omega
  | null | bool _ | number _ | string _ => by simp [references, size]

theorem elementReferences_length_le : (elements : List Json) →
    (elementReferences elements).length ≤ sizeElements elements
  | [] => by simp [elementReferences]
  | v :: vs => by
    have hv := references_length_le v
    have hvs := elementReferences_length_le vs
    simp only [elementReferences, sizeElements, List.length_append]
    omega

theorem fieldReferences_length_le : (fields : List (String × Json)) →
    (fieldReferences fields).length ≤ sizeFields fields
  | [] => by simp [fieldReferences]
  | (key, v) :: rest => by
    have hv : (ownReference key v).length + v.references.length ≤ v.size := by
      have := references_length_le v
      cases v with
      | string s =>
        simp only [ownReference, references, size]
        split <;> simp
      | _ => simpa [ownReference] using this
    have hrest := fieldReferences_length_le rest
    simp only [fieldReferences, sizeFields, List.length_append]
    omega

end

/-! ### Size -/

/-- There are no more fields than they are large. -/
theorem length_le_sizeFields
    (fields : List (String × Json)) :
  fields.length ≤ sizeFields fields
  := by
  induction fields with
  | nil => simp
  | cons e rest ih =>
    have pos : 1 ≤ e.2.size := Nat.le_trans (nesting_pos _) (nesting_le_size _)
    simp only [List.length_cons, sizeFields]
    omega

theorem size_le_of_mem
    {e : String × Json} {fields : List (String × Json)} (h : e ∈ fields) :
  e.2.size ≤ sizeFields fields
  := by
  induction fields with
  | nil => simp at h
  | cons first rest ih =>
    simp only [sizeFields]
    obtain rfl | h := List.mem_cons.mp h
    · omega
    · have := ih h
      omega

/-- The value at the end of a path is no larger than the whole. -/
theorem size_le_of_getPath?
    {path : List String} {v w : Json} (h : v.getPath? path = some w) :
  w.size ≤ v.size
  := by
  induction path generalizing v with
  | nil =>
    obtain rfl : v = w := by simpa [getPath?] using h
    exact Nat.le_refl _
  | cons key path ih =>
    simp only [getPath?] at h
    split at h
    next u held =>
      cases v with
      | object fields =>
        have inner : u.size ≤ sizeFields fields := size_le_of_mem (mem_of_lookup?_eq_some held)
        have outer := ih h
        simp only [size]
        omega
      | _ => simp [get?] at held
    next => simp at h

end ConceptModel.Json

namespace ConceptModel.Inference

open Json

namespace Body

variable {b : Body} {v : Json}

/-! ### Keywords -/

/-- The fields of a schema hold no reference that it does not hold. -/
theorem references_ofJson_subset :
  fieldReferences (ofJson v) ⊆ v.references
  := by
  have accepts : fieldReferences [] = [] := rfl
  have rejects : fieldReferences [("not", .object [])] = [] := rfl
  cases v with
  | object fields => exact List.Subset.refl _
  | bool value => cases value <;> simp [ofJson, accepts, rejects]
  | _ => simp [ofJson, rejects]

/-- The value of a keyword holds no reference that the schema does not hold. -/
theorem references_getD_subset
    {keyword : String} :
  (b.getD keyword).references ⊆ fieldReferences b
  := by
  by_cases h : b.getD keyword = .null
  · simp [h, references]
  · exact references_subset_of_lookup? (get?_of_getD_ne h)

/-- A local reference under its keyword is a reference of the schema. -/
theorem mem_references_of_getD
    {r : String} (h : b.getD "$ref" = .string r) (isLocal : Reference.isLocal (.string r)) :
  r ∈ fieldReferences b
  := by
  have held : b.get? "$ref" = some (.string r) := by
    rw [get?_of_getD_ne (by simp [h]), h]
  apply mem_fieldReferences.mpr
  use ("$ref", .string r), mem_of_lookup?_eq_some held
  simp [ownReference, isLocal]

/-! ### Alternatives -/

theorem mem_alternationKeywords
    (b : Body) :
  b.alternationKeyword ∈ alternationKeywords
  := by
  unfold alternationKeyword
  split <;> decide

theorem alternationKeyword_ne
    (b : Body) :
  b.alternationKeyword ≠ "not"
  := by
  unfold alternationKeyword
  split <;> decide

/-- A schema with alternatives has them under its keyword. -/
theorem getD_alternationKeyword_ne
    (h : b.isAlternation = true) :
  b.getD b.alternationKeyword ≠ .null
  := by
  simp only [isAlternation, alternationKeywords, List.any_cons, List.any_nil, Bool.or_false,
    Bool.or_eq_true] at h
  unfold alternationKeyword
  split
  next anyOf =>
    intro unset
    simp [unset, isTruthy] at anyOf
  next noAnyOf =>
    intro unset
    obtain anyOf | oneOf := h
    · exact noAnyOf anyOf
    · simp [unset, isTruthy] at oneOf

/-- A schema with alternatives is an object. -/
theorem object_ofJson_of_isAlternation
    {v : Json} (h : (ofJson v).isAlternation = true) :
  .object (ofJson v) = v
  := object_ofJson (getD_alternationKeyword_ne h) (alternationKeyword_ne _)

/-- The first alternative is an element of a keyword's value, or an empty schema. -/
theorem firstAlternative_cases
    (b : Body) :
  (∃ rest, b.getD b.alternationKeyword = .array (b.firstAlternative :: rest)) ∨
    b.firstAlternative = .object []
  := by
  unfold firstAlternative
  split
  next first rest held => exact .inl ⟨rest, held⟩
  next => exact .inr rfl

/-- The first alternative holds no reference that the schema does not hold. -/
theorem references_firstAlternative_subset :
  b.firstAlternative.references ⊆ fieldReferences b
  := by
  obtain ⟨rest, held⟩ | empty := firstAlternative_cases b
  · have within : (b.getD b.alternationKeyword).references ⊆ fieldReferences b :=
      references_getD_subset
    apply List.Subset.trans _ within
    rw [held]
    simp [references, elementReferences]
  · simp [empty, references, fieldReferences]

/-- Merging the first alternative over a schema brings in no reference. -/
theorem references_flattened_subset :
  fieldReferences b.flattened ⊆ fieldReferences b
  := by
  intro r hr
  obtain ⟨e, he, hr⟩ := mem_fieldReferences.mp hr
  obtain he | he := mem_mergeFields he
  · exact mem_fieldReferences.mpr ⟨e, (List.mem_filter.mp he).1, hr⟩
  · apply references_firstAlternative_subset
    apply references_ofJson_subset
    exact mem_fieldReferences.mpr ⟨e, he, hr⟩

/-- The fields of a schema, with the alternatives among them, nest no deeper than it. -/
theorem nesting_ofJson_le
    (v : Json) :
  fieldNesting (ofJson v) + alternativeNesting (ofJson v) ≤ v.nesting
  := by
  have accepts : fieldNesting [] + alternativeNesting [] = 0 := rfl
  have rejects : fieldNesting [("not", .object [])] + alternativeNesting [("not", .object [])] = 1
    := rfl
  cases v with
  | object fields => simp [ofJson, nesting]
  | bool value => cases value <;> simp [ofJson, nesting, accepts, rejects]
  | _ => simp [ofJson, nesting, rejects]

/-- The list of alternatives nests no deeper than all alternatives. -/
theorem nesting_alternationKeyword_le
    (h : b.isAlternation = true) :
  (b.getD b.alternationKeyword).nesting ≤ alternativeNesting b
  := by
  have held := mem_of_lookup?_eq_some (get?_of_getD_ne (getD_alternationKeyword_ne h))
  exact alternativeNesting_le.mp (Nat.le_refl _) _ held (mem_alternationKeywords b)

/-- A schema nests deeper than its first alternative. -/
theorem nesting_firstAlternative_lt
    (h : b.isAlternation = true) :
  b.firstAlternative.nesting < (Json.object b).nesting
  := by
  have le := nesting_alternationKeyword_le h
  obtain ⟨rest, isArray⟩ | empty := firstAlternative_cases b
  · simp only [isArray, nesting, elementNesting] at le ⊢
    omega
  · have pos := nesting_pos (b.getD b.alternationKeyword)
    simp only [empty, nesting, fieldNesting, alternativeNesting]
    omega

/-- The alternatives of a schema nest deeper than the fields of its first one. -/
theorem nesting_alternative_lt
    (h : b.isAlternation = true) :
  fieldNesting (ofJson b.firstAlternative) + alternativeNesting (ofJson b.firstAlternative) <
    alternativeNesting b
  := by
  have le := nesting_alternationKeyword_le h
  obtain ⟨rest, isArray⟩ | empty := firstAlternative_cases b
  · have fields := nesting_ofJson_le b.firstAlternative
    simp only [isArray, nesting, elementNesting] at le
    omega
  · have pos := nesting_pos (b.getD b.alternationKeyword)
    simp only [empty, ofJson, fieldNesting, alternativeNesting]
    omega

/-- A schema nests deeper than its first alternative merged over it: what is merged nests
no deeper beside the rest of the schema than the alternatives that are gone did. -/
theorem nesting_flattened_lt
    (h : b.isAlternation = true) :
  (Json.object b.flattened).nesting < (Json.object b).nesting
  := by
  have merged := nesting_alternative_lt h
  have fields : fieldNesting b.flattened ≤
      max (fieldNesting b) (fieldNesting (ofJson b.firstAlternative)) := by
    apply fieldNesting_le.mpr
    intro e he other
    obtain he | he := mem_mergeFields he
    · have := fieldNesting_le.mp (Nat.le_refl _) e ((List.mem_filter.mp he).1) other
      omega
    · have := fieldNesting_le.mp (Nat.le_refl _) e he other
      omega
  have alternatives : alternativeNesting b.flattened ≤
      alternativeNesting (ofJson b.firstAlternative) := by
    apply alternativeNesting_le.mpr
    intro e he alternative
    obtain he | he := mem_mergeFields he
    · simp [alternative] at he
    · exact alternativeNesting_le.mp (Nat.le_refl _) e he alternative
  simp only [nesting]
  omega

/-! ### Unions -/

/-- Setting the type brings in no reference. -/
theorem references_setType_subset
    {name : String} :
  fieldReferences (setField "type" (.string name) b) ⊆ fieldReferences b
  := by
  intro r hr
  obtain ⟨e, he, hr⟩ := mem_fieldReferences.mp hr
  obtain rfl | he := mem_setField he
  · simp [ownReference, references] at hr
  · exact mem_fieldReferences.mpr ⟨e, he, hr⟩

/-- Setting the type makes a schema nest no deeper, if it had a type. -/
theorem nesting_setType_le
    (name : String) (h : b.getD "type" ≠ .null) :
  (Json.object (setField "type" (.string name) b)).nesting ≤ (Json.object b).nesting
  := by
  have held := mem_of_lookup?_eq_some (get?_of_getD_ne h)
  have other : "type" ∉ alternationKeywords := by decide
  have deep := fieldNesting_le.mp (Nat.le_refl _) _ held other
  have pos := nesting_pos (b.getD "type")
  have fields : fieldNesting (setField "type" (.string name) b) ≤ fieldNesting b := by
    apply fieldNesting_le.mpr
    intro e he other
    obtain rfl | he := mem_setField he
    · simp only [nesting] at deep ⊢
      omega
    · exact fieldNesting_le.mp (Nat.le_refl _) e he other
  have alternatives : alternativeNesting (setField "type" (.string name) b) ≤
      alternativeNesting b := by
    apply alternativeNesting_le.mpr
    intro e he alternative
    obtain rfl | he := mem_setField he
    · exact absurd alternative other
    · exact alternativeNesting_le.mp (Nat.le_refl _) e he alternative
  simp only [nesting]
  omega

end Body

/-! ### Tuples -/

/-- What is taken of a list is in it. -/
theorem mem_takeUpTo
    {position : Int} {elements : List Json} {v : Json} (h : v ∈ takeUpTo position elements) :
  v ∈ elements
  := by
  unfold takeUpTo at h
  split at h <;> exact List.mem_of_mem_take h

/-- The number of an element is no text that holds anything but digits. -/
theorem toString_ne
    {text : String} {c : Char} (n : Nat) (mem : c ∈ text.toList) (h : c.isDigit = false) :
  toString n ≠ text
  := by
  rintro rfl
  rw [Nat.toString_eq_repr, Nat.toList_repr] at mem
  have isDigit := Nat.isDigit_of_mem_toDigits (by decide) (by decide) mem
  simp [h] at isDigit

/-- The names of a tuple's fields are no keywords of alternatives. -/
theorem toString_notMem_alternationKeywords
    (n : Nat) :
  toString n ∉ Body.alternationKeywords
  := by
  have anyOf : toString n ≠ "anyOf" := toString_ne (c := 'a') n (by decide) (by decide)
  have oneOf : toString n ≠ "oneOf" := toString_ne (c := 'o') n (by decide) (by decide)
  simp [Body.alternationKeywords, -Nat.toString_eq_repr, anyOf, oneOf]

/-- The object that a tuple stands for holds the references of its elements only. -/
theorem references_tupleObject_subset
    {elements : List Json} {least greatest : Int} :
  (tupleObject elements least greatest).references ⊆ elementReferences elements
  := by
  intro r hr
  obtain ⟨e, he, hr⟩ := mem_fieldReferences.mp hr
  simp only [List.mem_cons, List.not_mem_nil, or_false] at he
  obtain rfl | rfl | rfl := he
  · simp [ownReference, references] at hr
  · simp only [ownReference, references, List.not_mem_nil, false_or] at hr
    obtain ⟨e, he, hr⟩ := mem_fieldReferences.mp hr
    obtain ⟨index, lt, rfl⟩ := List.mem_mapIdx.mp he
    have own : ownReference (toString index) (takeUpTo greatest elements)[index] = [] := by
      unfold ownReference
      split
      · have other : toString index ≠ "$ref" :=
          toString_ne (c := 'r') index (by decide) (by decide)
        simp only [other, false_and, if_false]
      · rfl
    simp only [own, List.not_mem_nil, false_or] at hr
    exact mem_elementReferences.mpr ⟨_, mem_takeUpTo (List.getElem_mem lt), hr⟩
  · simp only [ownReference, references, List.not_mem_nil, false_or] at hr
    obtain ⟨v, hv, hr⟩ := mem_elementReferences.mp hr
    obtain ⟨index, -, rfl⟩ := List.mem_map.mp hv
    simp [references] at hr

/-- The object that a tuple stands for nests at most two levels deeper than its elements. -/
theorem nesting_tupleObject_le
    {elements : List Json} {least greatest : Int} :
  (tupleObject elements least greatest).nesting ≤ elementNesting elements + 2
  := by
  have properties : (Json.object ((takeUpTo greatest elements).mapIdx
      fun index item => (toString index, item))).nesting ≤ elementNesting elements + 1 := by
    have fields : fieldNesting ((takeUpTo greatest elements).mapIdx
        fun index item => (toString index, item)) ≤ elementNesting elements := by
      apply fieldNesting_le.mpr
      intro e he _
      obtain ⟨index, lt, rfl⟩ := List.mem_mapIdx.mp he
      exact elementNesting_le.mp (Nat.le_refl _) _ (mem_takeUpTo (List.getElem_mem lt))
    have alternatives : alternativeNesting ((takeUpTo greatest elements).mapIdx
        fun index item => (toString index, item)) ≤ 0 := by
      apply alternativeNesting_le.mpr
      intro e he alternative
      obtain ⟨index, lt, rfl⟩ := List.mem_mapIdx.mp he
      exact absurd alternative (toString_notMem_alternationKeywords index)
    simp only [nesting]
    omega
  have required : (Json.array ((List.range (takeUpTo least elements).length).map
      fun index => .string (toString index))).nesting ≤ elementNesting elements + 1 := by
    apply Nat.succ_le_succ
    apply elementNesting_le.mpr
    intro v hv
    obtain ⟨index, lt, rfl⟩ := List.mem_map.mp hv
    have taken := mem_takeUpTo (List.getElem_mem (List.mem_range.mp lt))
    have le := elementNesting_le.mp (Nat.le_refl _) _ taken
    exact Nat.le_trans (nesting_pos _) le
  have fields : fieldNesting (Body.ofJson (tupleObject elements least greatest)) ≤
      elementNesting elements + 1 := by
    apply fieldNesting_le.mpr
    intro e he _
    simp only [tupleObject, Body.ofJson, List.mem_cons, List.not_mem_nil, or_false] at he
    obtain rfl | rfl | rfl := he
    · simp [nesting]
    · exact properties
    · exact required
  exact Nat.succ_le_succ fields

end ConceptModel.Inference
