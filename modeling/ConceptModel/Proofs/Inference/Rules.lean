import ConceptModel.Inference.Body
import ConceptModel.Proofs.Json.Fields

/-!
# What the rules demand

The keywords that a schema sets when it is read by a rule.
-/

namespace ConceptModel.Inference.Body

variable {b : Body} {v : Json}

/-! ### Keywords -/

/-- The body of an object is its fields. -/
@[simp]
theorem ofJson_object
    (fields : List (String × Json)) :
  ofJson (.object fields) = fields
  := rfl

/-- A keyword that is not null is given. -/
theorem get?_of_getD_ne
    {keyword : String} (h : b.getD keyword ≠ .null) :
  b.get? keyword = some (b.getD keyword)
  := by
  unfold getD at h ⊢
  cases held : b.get? keyword with
  | none => simp [held] at h
  | some w => rfl

theorem get?_ofJson
    {w : Json} {keyword : String} (held : v.get? keyword = some w) :
  (ofJson v).get? keyword = some w
  := by
  cases v with
  | object fields => exact held
  | _ => simp [Json.get?] at held

/-- A keyword holds a list when its value is one, and `null` is none. -/
theorem get?_eq_array_iff
    {keyword : String} {elements : List Json} :
  b.get? keyword = some (.array elements) ↔ b.getD keyword = .array elements
  := by
  unfold getD
  cases b.get? keyword <;> simp

/-- Values are listed just in case the keyword for them gives an array. -/
theorem enumeration?_eq_some
    {elements : List Json} :
  b.enumeration? = some elements ↔ b.getD "enum" = .array elements
  := by
  unfold enumeration?
  cases b.getD "enum" <;> simp

/-- Names are required just in case the keyword for them gives an array. -/
theorem required?_eq_some
    {names : List Json} :
  b.required? = some names ↔ b.getD "required" = .array names
  := by
  unfold required?
  cases b.getD "required" <;> simp

/-- A schema that sets a keyword, other than the one that accepts nothing, is an object. -/
theorem object_ofJson
    {keyword : String} (h : (ofJson v).getD keyword ≠ .null) (other : keyword ≠ "not") :
  .object (ofJson v) = v
  := by
  have other : "not" ≠ keyword := Ne.symm other
  cases v with
  | object fields => rfl
  | bool value => cases value <;> simp [ofJson, getD, get?, Json.lookup?, other] at h
  | _ => simp [ofJson, getD, get?, Json.lookup?, other] at h

/-- A body is a reference just in case its reference is a text. -/
theorem isReference_iff :
  b.isReference = true ↔ ∃ r, b.getD "$ref" = .string r
  := by
  unfold isReference
  cases b.getD "$ref" <;> simp [Json.isString]

/-! ### Definitions -/

theorem hasType_of_structuralRule
    (h : b.structuralRule = .array) :
  b.hasType "array" = true
  := by
  grind [structuralRule]

theorem isAlternation_of_structuralRule
    (h : b.structuralRule = .alternation) :
  b.isAlternation = true
  := by
  grind [structuralRule]

theorem isReference_of_structuralRule
    (h : b.structuralRule = .reference) :
  b.isReference = true
  := by
  grind [structuralRule]

/-! ### Properties -/

theorem isAlternation_of_propertyRule
    (h : b.propertyRule = .alternation) :
  b.isAlternation = true
  := by
  grind [propertyRule]

theorem isReference_of_propertyRule
    (h : b.propertyRule = .reference) :
  b.isReference = true
  := by
  grind [propertyRule]

theorem isArray_of_propertyRule
    (h : b.propertyRule = .array) :
  b.isArray = true
  := by
  grind [propertyRule]

/-- A union has the types that the body lists. -/
theorem type_of_propertyRule
    {types : List Json} (h : b.propertyRule = .union types) :
  b.getD "type" = .array types
  := by
  grind [propertyRule]

theorem getD_setField_self
    {keyword : String} :
  getD (Json.setField keyword v b) keyword = v
  := by
  simp [getD, get?, Json.lookup?_setField_self]

theorem getD_setField_of_ne
    {keyword other : String} (h : other ≠ keyword) :
  getD (Json.setField keyword v b) other = getD b other
  := by
  simp [getD, get?, Json.lookup?_setField_of_ne h]

/-- A schema of arrays is an object. -/
theorem object_ofJson_of_isArray
    (h : (ofJson v).isArray = true) :
  .object (ofJson v) = v
  := by
  have typed : (ofJson v).getD "type" ≠ .null := by
    intro unset
    simp [isArray, hasType, unset] at h
  exact object_ofJson typed (by decide)

/-- A property of several types is of a primitive type once it is a text. -/
theorem propertyRule_setType
    {types : List Json} (h : b.propertyRule = .union types) :
  propertyRule (Json.setField "type" (.string "string") b) = .primitive
  := by
  have type : getD (Json.setField "type" (.string "string") b) "type" = .string "string" :=
    getD_setField_self
  have other (keyword : String) (h : keyword ≠ "type") :
      getD (Json.setField "type" (.string "string") b) keyword = getD b keyword :=
    getD_setField_of_ne h
  have nonempty : (Json.setField "type" (.string "string") b).isEmpty = false := by
    cases b with
    | nil => rfl
    | cons e rest =>
      simp only [Json.setField]
      split <;> rfl
  have enumeration : enumeration? (Json.setField "type" (.string "string") b) = enumeration? b := by
    simp [enumeration?, other]
  have alternation : isAlternation (Json.setField "type" (.string "string") b) =
      isAlternation b := by
    simp [isAlternation, alternationKeywords, other]
  have reference : isReference (Json.setField "type" (.string "string") b) = isReference b := by
    simp [isReference, other]
  have array : isArray (Json.setField "type" (.string "string") b) = false := by
    simp [isArray, hasType, type]
  have freeform : isFreeform (Json.setField "type" (.string "string") b) = false := by
    simp [isFreeform, hasType, type, nonempty]
  have object : hasType (Json.setField "type" (.string "string") b) "object" = false := by
    simp [hasType, type]
  unfold propertyRule at h ⊢
  simp only [enumeration, alternation, reference, array, freeform, object, type]
  grind

/-- A schema of arrays gives its items. -/
theorem getD_items_of_isArray
    (h : b.isArray = true) :
  b.getD "items" ≠ .null
  := by
  intro unset
  simp [isArray, unset, Json.isObject, Json.isArray] at h

/-- A tuple sets its items, and how many of them there are at least and at most. -/
theorem exists_of_isTuple
    (h : b.isTuple = true) :
  ∃ items least greatest, b.getD "items" = .array items ∧ b.getD "minItems" = .number least ∧
    b.getD "maxItems" = .number greatest
  := by
  have number {v : Json} {count : Nat} (h : isCountUpTo v count = true) : ∃ x, v = .number x := by
    cases v with
    | number x => exact ⟨x, rfl⟩
    | _ => simp [isCountUpTo] at h
  unfold isTuple at h
  split at h
  next items held =>
    simp only [Bool.and_eq_true] at h
    obtain ⟨least, hasLeast⟩ := number h.2.1
    obtain ⟨greatest, hasGreatest⟩ := number h.2.2
    exact ⟨items, least, greatest, held, hasLeast, hasGreatest⟩
  next => simp at h

/-- A concept of type object has an object of properties. -/
theorem isObject_properties_of_structuralRule
    (h : b.structuralRule = .concept) (typed : b.hasType "object" = true) :
  (b.getD "properties").isObject = true
  := by
  grind [structuralRule, isFreeform]

/-- An object with properties of its own is read as a concept. -/
theorem inline_of_propertyRule
    (h : b.propertyRule = .inline) :
  b.enumeration? = none ∧ b.structuralRule = .concept ∧ (b.getD "properties").isObject = true
  := by
  have noArray : b.hasType "object" → ¬ b.hasType "array" := by
    simp only [hasType, decide_eq_true_eq]
    intro h
    simp [h]
  grind [propertyRule, structuralRule]

theorem hasType_of_inline
    (h : b.propertyRule = .inline) :
  b.hasType "object" = true
  := by
  grind [propertyRule]

/-- An object with properties of its own, and with nothing that counts before them, is read
as a concept. -/
theorem propertyRule_eq_inline
    {members : List (String × Json)} (typed : b.hasType "object" = true)
    (held : b.getD "properties" = .object members) (closed : b.isFreeform = false)
    (noList : b.enumeration? = none) (reference : b.isReference = false)
    (alternation : b.isAlternation = false) :
  b.propertyRule = .inline
  := by
  have type : b.getD "type" = .string "object" := by simpa [hasType] using typed
  have array : b.isArray = false := by simp [isArray, hasType, type]
  simp [propertyRule, noList, alternation, reference, array, type, closed, typed, held,
    Json.isObject]

end ConceptModel.Inference.Body
