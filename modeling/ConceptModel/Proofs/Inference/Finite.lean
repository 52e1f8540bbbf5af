import ConceptModel.Proofs.Inference.Parts

/-!
# Finite numbers

A value is `Finite` when all numbers that occur in it are.  Whatever a schema is turned into
while it is read is as finite as the schema: a keyword's value, its first alternative, itself
with that merged over it, the object that a tuple stands for.
-/

namespace ConceptModel

/-- Whether a number is neither infinite nor the result of no computation. -/
def Number.IsFinite : Number → Prop
  | .int _ | .double (.finite ..) => True
  | _ => False

/-- A finite number has an integer part. -/
theorem Number.IsFinite.exists_truncate?
    {x : Number} (h : x.IsFinite) :
  ∃ n, x.truncate? = some n
  := by
  cases x with
  | int n => exact ⟨n, rfl⟩
  | double value =>
    cases value with
    | finite negative significand exponent =>
      simp only [truncate?, Double.truncate?]
      split <;> exact ⟨_, rfl⟩
    | _ => exact h.elim

namespace Json

/-- All numbers that occur in the value are finite. -/
inductive Finite : Json → Prop where
  | null : Finite .null
  | bool {value : Bool} : Finite (.bool value)
  | number {value : Number} (h : value.IsFinite) : Finite (.number value)
  | string {value : String} : Finite (.string value)
  | array {elements : List Json} (h : ∀ v ∈ elements, v.Finite) : Finite (.array elements)
  | object {fields : List (String × Json)} (h : ∀ e ∈ fields, e.2.Finite) :
      Finite (.object fields)

/-- A number in a value is finite if it is so by itself. -/
@[simp]
theorem finite_number
    {value : Number} :
  (number value).Finite ↔ value.IsFinite
  := by
  constructor
  · rintro ⟨⟩
    assumption
  · exact .number

/-- An array is finite if its elements are. -/
@[simp]
theorem finite_array
    {elements : List Json} :
  (array elements).Finite ↔ ∀ v ∈ elements, v.Finite
  := by
  constructor
  · rintro ⟨⟩
    assumption
  · exact .array

/-- An object is finite if the values of its fields are. -/
@[simp]
theorem finite_object
    {fields : List (String × Json)} :
  (object fields).Finite ↔ ∀ e ∈ fields, e.2.Finite
  := by
  constructor
  · rintro ⟨⟩
    assumption
  · exact .object

attribute [simp] Finite.null Finite.bool Finite.string

variable {key : String} {v w : Json}

/-- The value of a key of a finite value is finite. -/
theorem Finite.get?
    (h : v.Finite) (held : v.get? key = some w) :
  w.Finite
  := by
  cases h with
  | object h => exact h _ (mem_of_lookup?_eq_some held)
  | _ => simp [Json.get?] at held

/-- The value at the end of a path in a finite value is finite. -/
theorem Finite.getPath?
    {path : List String} (h : v.Finite) (held : v.getPath? path = some w) :
  w.Finite
  := by
  induction path generalizing v with
  | nil =>
    obtain rfl : v = w := by simpa [Json.getPath?] using held
    exact h
  | cons key path ih =>
    simp only [Json.getPath?] at held
    split at held
    next u hu => exact ih (h.get? hu) held
    next => simp at held

end Json

namespace Inference

open Json

namespace Body

variable {b : Body} {v : Json}

/-- The fields of a finite schema are finite. -/
theorem finite_ofJson
    (h : v.Finite) :
  (object (ofJson v)).Finite
  := by
  have rejects : (object [("not", .object [])]).Finite := by simp
  cases h with
  | object h => exact .object h
  | @bool value =>
    cases value with
    | true => simp [ofJson]
    | false => exact rejects
  | _ => exact rejects

/-- The value of a keyword is finite. -/
theorem finite_getD
    {keyword : String} (h : (object b).Finite) :
  (b.getD keyword).Finite
  := by
  unfold getD
  cases held : b.get? keyword with
  | none => exact .null
  | some w => exact h.get? held

/-- The first alternative of a finite schema is finite. -/
theorem finite_firstAlternative
    (h : (object b).Finite) :
  b.firstAlternative.Finite
  := by
  obtain ⟨rest, held⟩ | empty := firstAlternative_cases b
  · have all : (array (b.firstAlternative :: rest)).Finite := by
      rw [← held]
      exact finite_getD h
    exact finite_array.mp all _ List.mem_cons_self
  · simp [empty]

/-- A finite schema stays finite when its first alternative is merged over it. -/
theorem finite_flattened
    (h : (object b).Finite) :
  (object b.flattened).Finite
  := by
  apply Finite.object
  intro e mem
  obtain mem | mem := mem_mergeFields mem
  · exact finite_object.mp h e (List.mem_filter.mp mem).1
  · exact finite_object.mp (finite_ofJson (finite_firstAlternative h)) e mem

/-- A schema stays finite when its type is set. -/
theorem finite_setType
    (name : String) (h : (object b).Finite) :
  (object (setField "type" (.string name) b)).Finite
  := by
  apply Finite.object
  intro e mem
  obtain rfl | mem := mem_setField mem
  · exact .string
  · exact finite_object.mp h e mem

end Body

/-- The object that a tuple stands for is finite. -/
theorem finite_tupleObject
    {elements : List Json} (least greatest : Int) (h : ∀ v ∈ elements, v.Finite) :
  (tupleObject elements least greatest).Finite
  := by
  have properties : (object ((takeUpTo greatest elements).mapIdx
      fun index item => (toString index, item))).Finite := by
    apply Finite.object
    intro e mem
    obtain ⟨index, lt, rfl⟩ := List.mem_mapIdx.mp mem
    exact h _ (mem_takeUpTo (List.getElem_mem lt))
  have required : (array ((List.range (takeUpTo least elements).length).map
      fun index => .string (toString index))).Finite := by
    apply Finite.array
    intro v mem
    obtain ⟨index, -, rfl⟩ := List.mem_map.mp mem
    exact .string
  apply Finite.object
  simp only [List.forall_mem_cons]
  exact ⟨.string, properties, required, by simp⟩

end Inference

end ConceptModel
