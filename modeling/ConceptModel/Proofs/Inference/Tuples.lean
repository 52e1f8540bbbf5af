import ConceptModel.Proofs.Inference.RouteFields
import ConceptModel.Proofs.Number
import Mathlib.Tactic.Choose

/-!
# Tuples

An array whose elements are described one by one is read as an object with a property for each
of them, whose key is its position.  So it becomes a concept with a field for each element up to
the greatest number of them, optional from the least number on: `fields_of_tuple`.  This takes
that no element comes to nothing and none passes an array definition, since it would be named
and required by other keys then.
-/

namespace ConceptModel

open Text

/-! ### Counts -/

theorem Double.signed_div_of_eq_mul
    {negative : Bool} {significand k : Nat} {n : Int} (pos : 0 < k)
    (h : signed negative significand = n * (k : Int)) :
  signed negative (significand / k) = n
  := by
  have divides : (k : Int) ≠ 0 := by omega
  cases negative with
  | false =>
    simp only [signed, Bool.false_eq_true, if_false] at h ⊢
    rw [Int.natCast_ediv, h, Int.mul_ediv_cancel _ divides]
  | true =>
    simp only [signed, if_true] at h ⊢
    have magnitude : (significand : Int) = -n * k := by rw [Int.neg_mul, ← h, Int.neg_neg]
    rw [Int.natCast_ediv, magnitude, Int.mul_ediv_cancel _ divides, Int.neg_neg]

/-- A double that stands for an integer has it for its integer part, and compares as it does. -/
theorem Double.truncate?_of_compareInt_eq
    {d : Double} {n : Int} (h : d.compareInt n = some .eq) :
  d.truncate? = some n ∧ ∀ bound, d.compareInt bound = some (compare n bound)
  := by
  cases d with
  | nan => simp [compareInt] at h
  | infinite negative => cases negative <;> simp [compareInt] at h
  | finite negative significand exponent =>
    have positive : 0 < Nat.pow 2 (-exponent).toNat := Nat.pow_pos (by decide)
    simp only [compareInt, truncate?] at h ⊢
    generalize Nat.pow 2 (-exponent).toNat = k at h positive ⊢
    split at h
    next whole =>
      obtain rfl := by simpa using h
      simp [whole]
    next fractional =>
      have same : signed negative significand = n * k := by simpa using h
      have positive' : (0 : Int) < k := Int.natCast_pos.mpr positive
      simp only [fractional, if_false, signed_div_of_eq_mul positive same, same, true_and]
      intro bound
      simp only [compare, compareOfLessAndEq, Int.mul_lt_mul_right positive',
        Int.mul_eq_mul_right_iff (Int.ne_of_gt positive')]

namespace Number

variable {x : Number} {n : Int}

/-- A number that stands for an integer has it for its integer part, and compares as it does. -/
theorem truncate?_of_sameNumber
    (h : x.sameNumber (int n) = true) :
  x.truncate? = some n ∧ ∀ bound, x.compareInt bound = some (compare n bound)
  := by
  cases x with
  | int value =>
    obtain rfl := by simpa [sameNumber] using h
    exact ⟨rfl, fun _ => rfl⟩
  | double value => exact value.truncate?_of_compareInt_eq (by simpa [sameNumber] using h)

theorem atMost_of_sameNumber
    (h : x.sameNumber (int n) = true) {bound : Int} (le : n ≤ bound) :
  x.atMost bound = true
  := by
  have compares := (truncate?_of_sameNumber h).2 bound
  unfold atMost
  rw [compares]
  obtain less | rfl := Int.lt_or_eq_of_le le
  · simp [compare, compareOfLessAndEq, less]
  · simp

end Number

/-- Printed numbers tell the numbers. -/
theorem toString_nat_injective
    {m n : Nat} (h : toString m = toString n) :
  m = n
  := by
  rw [Nat.toString_eq_repr, Nat.toString_eq_repr, Nat.repr_eq_ofList_toDigits,
    Nat.repr_eq_ofList_toDigits] at h
  exact toDigits_ten_injective (String.ofList_injective h)

namespace Inference

/-- A number that equals an integer is read as it. -/
theorem integerOf_of_sameNumber
    {x : Number} {n : Int} (h : x.sameNumber (.int n) = true) :
  integerOf (.number x) = .ok n
  := by
  simp [integerOf, (Number.truncate?_of_sameNumber h).1]

/-- No position is a reserved name. -/
theorem toString_notMem_reservedNames (n : Nat) :
  toString n ∉ reservedNames
  := by
  intro mem
  have marked : ∀ name ∈ reservedNames, '$' ∈ name.toList := by decide
  exact toString_ne n (marked _ mem) (by decide) rfl

/-! ### Objects of tuples -/

/-- As many elements are taken as a bound says. -/
theorem takeUpTo_natCast (n : Nat) (elements : List Json) :
  takeUpTo n elements = elements.take n
  := by
  simp [takeUpTo]

section

variable {items : List Json} {m M : Nat}

/-- The object that a tuple stands for has a property for each position before the greatest
number. -/
theorem properties_tupleObject
    (least : Int) (many : M ≤ items.length) :
  (Body.ofJson (tupleObject items least M)).getD "properties" =
    .object ((List.range M).map fun i => (toString i, items.getD i .null))
  := by
  have held : (Body.ofJson (tupleObject items least M)).getD "properties" =
      .object ((items.take M).mapIdx fun i item => (toString i, item)) := by
    rw [← takeUpTo_natCast]
    rfl
  rw [held]
  congr 1
  apply List.ext_getElem
  · simp [many]
  · intro i inTuple inRange
    have inside : i < items.length := by
      have : i < M := by simpa using inRange
      omega
    simp [inside]

/-- The object that a tuple stands for requires the positions before the least number. -/
theorem required?_tupleObject
    (greatest : Int) (few : m ≤ items.length) :
  (Body.ofJson (tupleObject items m greatest)).required? =
    some ((List.range m).map fun i => .string (toString i))
  := by
  have held : (Body.ofJson (tupleObject items m greatest)).required? =
      some ((List.range (items.take m).length).map fun i => .string (toString i)) := by
    rw [← takeUpTo_natCast]
    rfl
  rw [held, List.length_take_of_le few]

end

/-! ### Elements of tuples -/

/-- Whether the route of a property passes no array definition and ends at no reference that
is dropped. -/
def IsDirect (document : Json) (container : List String) (v : Json) : Prop :=
  ∀ keys u, Route document container v keys u → keys = [] ∧ ¬ Drops document container u

/-- What is neither an alternation, a reference nor an array is read where it stands. -/
theorem isDirect_of_rule
    {document v : Json} {container : List String}
    (alternation : (Body.ofJson v).propertyRule ≠ .alternation)
    (reference : (Body.ofJson v).propertyRule ≠ .reference)
    (array : (Body.ofJson v).propertyRule ≠ .array) :
  IsDirect document container v
  := by
  obtain ⟨final, keeps⟩ := final_of_rule alternation reference array
  intro keys u route
  obtain ⟨rfl, rfl⟩ := final.route route
  exact ⟨rfl, keeps⟩

/-- A property whose route is direct has one field, of the name that is pending or else its own,
which is as optional as its place says. -/
theorem RouteFields.of_isDirect
    {c : Context} {v : Json} {name : String} {o : Overrides} {fields : List Field}
    (h : RouteFields c v name o fields) (direct : IsDirect c.document c.container v)
    (free : name ∉ reservedNames) :
  ∃ f, fields = [f] ∧ f.name = o.name.getD name ∧ f.isOptional = (fieldBase name c).isOptional
  := by
  induction h with
  | reserved bars => exact absurd bars free
  | dropped drops => exact absurd drops (direct [] _ .here).2
  | own _ _ based => exact ⟨_, rfl, based.name, based.isOptional⟩
  | alternation rule _ ih =>
    exact ih (fun keys u route => direct keys u (.onward (.alternation rule) route)) free
  | items rule held noArray _ ih =>
    exact ih (fun keys u route => direct keys u (.onward (.items rule held noArray) route)) free
  | through _ passes => simpa using (direct _ _ (.through passes .here)).1

/-- What an element of a tuple comes to at a position: its results, among them one field, which
is named by the position and optional from the least number on. -/
structure IsElement (path : List String) (c : Context) (least position : Nat) (item : Json)
    (own : Results) (f : Field) : Prop where
  reads : Reads ⟨.property, item, [pathName path] ++ ["properties"] ++ [toString position]⟩
    { c.bare with required := some ((List.range least).map fun i => .string (toString i)) } own
  only : own.flatten.filterMap Found.field? = [f]
  name : f.name = toString position
  isOptional : f.isOptional = true ↔ least ≤ position

/-- The list of the positions before the least number holds a position only if it is one. -/
theorem isOptional_position_iff
    {c : Context} {least position : Nat}
    (listed : c.required = some ((List.range least).map fun i => .string (toString i))) :
  (fieldBase (toString position) c).isOptional = true ↔ least ≤ position
  := by
  have held : Json.string (toString position) ∈
      (List.range least).map (fun i => .string (toString i)) ↔ position < least := by
    simp only [List.mem_map, List.mem_range, Json.string.injEq]
    constructor
    · rintro ⟨i, less, same⟩
      rwa [← toString_nat_injective same]
    · exact fun less => ⟨position, less, rfl⟩
  rw [isOptional_fieldBase_iff]
  simp only [listed, Option.some.injEq, forall_eq', held, Nat.not_lt]

theorem IsElement.of_reads
    {path : List String} {c : Context} {least position : Nat} {item : Json} {own : Results}
    (direct : IsDirect c.document c.container item)
    (reads : Reads ⟨.property, item, [pathName path] ++ ["properties"] ++ [toString position]⟩
      { c.bare with required := some ((List.range least).map fun i => .string (toString i)) }
      own) :
  ∃ f, IsElement path c least position item own f
  := by
  have last : nameOf ([pathName path] ++ ["properties"] ++ [toString position]) =
      toString position := by simp [nameOf]
  have route := routeFields_of_reads reads
  simp only [HasRouteFields, last] at route
  obtain ⟨f, only, name, optional⟩ :=
    route.of_isDirect direct (toString_notMem_reservedNames position)
  refine ⟨f, reads, only, name, ?_⟩
  rw [optional, isOptional_position_iff rfl]

/-! ### Concepts of tuples -/

/-- The fields of elements. -/
theorem fields_of_elements
    {M : Nat} {own : Nat → Results} {field : Nat → Field}
    (only : ∀ i < M, (own i).flatten.filterMap Found.field? = [field i]) :
  ((List.range M).flatMap fun i => (own i).flatten).filterMap Found.field? =
    (List.range M).map field
  := by
  rw [List.filterMap_flatMap, List.map_eq_flatMap]
  apply List.flatMap_congr
  intro i mem
  exact only i (List.mem_range.mp mem)

/-- Whether a property is a tuple of items, of which it wants a least and a greatest number. -/
structure IsTupleOf (b : Body) (items : List Json) (m M : Nat) : Prop where
  rule : b.propertyRule = .array
  held : b.getD "items" = .array items
  least : ∃ x, b.getD "minItems" = .number x ∧ x.sameNumber (.int m) = true
  few : m ≤ items.length
  greatest : ∃ x, b.getD "maxItems" = .number x ∧ x.sameNumber (.int M) = true
  many : M ≤ items.length

section

variable {v : Json} {path : List String} {c : Context} {items : List Json} {m M : Nat}
  (tuple : IsTupleOf (Body.ofJson v) items m M)
include tuple

/-- A tuple is read as the object that it stands for. -/
theorem IsTupleOf.tupleObject_of_reads
    (free : nameOf path ∉ reservedNames) {found : Results}
    (reads : Reads ⟨.property, v, path⟩ c found) :
  Reads ⟨.property, tupleObject items m M, path⟩ c found
  := by
  obtain ⟨rule, held, ⟨least, leastHeld, isLeast⟩, few, ⟨greatest, greatestHeld, isGreatest⟩,
    many⟩ := tuple
  have isArray := Body.isArray_of_propertyRule rule
  have isTuple : (Body.ofJson v).isTuple = true := by
    simp [Body.isTuple, isArray, held, leastHeld, greatestHeld, Body.isCountUpTo,
      Number.atMost_of_sameNumber isLeast (Int.ofNat_le.mpr few),
      Number.atMost_of_sameNumber isGreatest (Int.ofNat_le.mpr many)]
  have holds {keyword : String} {w : Json} (isSet : w ≠ .null)
      (h : (Body.ofJson v).getD keyword = w) :
      (Json.object (Body.ofJson v)).get? keyword = some w := by
    subst h
    exact Body.get?_of_getD_ne isSet
  have items := holds (by simp) held
  have least := holds (by simp) leastHeld
  have greatest := holds (by simp) greatestHeld
  have isFrom := integerOf_of_sameNumber isLeast
  have isUpTo := integerOf_of_sameNumber isGreatest
  obtain ⟨handed, next, -⟩ := reads_of_reached Role.noConfusion reads
    (.head (.array free rule) (.head (.tupleAsConcept items isTuple)
      (.single (.tuple items greatest isUpTo rfl least isFrom))))
  have again : Reads ⟨.property, v, path⟩ c handed :=
    .array free rule (.tupleAsConcept items isTuple
      (.tuple items greatest isUpTo rfl least isFrom next))
  rwa [reads.unique again]

/-- A tuple comes to a field, and to a concept under the name of its place with a field for each
element up to the greatest number of them, and to what these elements bring forth. -/
theorem fields_of_tuple
    (free : nameOf path ∉ reservedNames)
    (direct : ∀ item ∈ items.take M, IsDirect c.document c.container item)
    {found : Results} (reads : Reads ⟨.property, v, path⟩ c found) :
  ∃ (own : Nat → Results) (field : Nat → Field),
    (∀ i < M, ∃ item, items[i]? = some item ∧ IsElement path c m i item (own i) (field i)) ∧
    found.flatten =
      .field ((fieldBase (nameOf path) c).field (.declared (normalizeName (pathName path)))) ::
      .declaration (.concept (normalizeName (pathName path)) false
        ((List.range M).map field)) ::
      (List.range M).flatMap fun i => (own i).flatten.filterMap Found.spawned?
  := by
  have few := tuple.few
  have many := tuple.many
  have asObject := tuple.tupleObject_of_reads free reads
  obtain ⟨each, read, flat⟩ := each_of_inline free rfl (properties_tupleObject m many) asObject
  rw [required?_tupleObject M few] at read
  have element : ∀ i < M, ∃ f, IsElement path c m i (items.getD i .null)
      (each (toString i, items.getD i .null)) f := by
    intro i less
    apply IsElement.of_reads
    · apply direct
      have inside : i < items.length := by omega
      rw [List.mem_take_iff_getElem]
      exact ⟨i, by omega, by simp [inside]⟩
    · exact read _ (List.mem_map_of_mem (List.mem_range.mpr less))
  have : Nonempty Field := ⟨{ name := "", type := .string }⟩
  choose! field element using element
  refine ⟨fun i => each (toString i, items.getD i .null), field, ?_, ?_⟩
  · intro i less
    have inside : i < items.length := by omega
    exact ⟨items.getD i .null, by simp [inside], element i less⟩
  · rw [flat, flatten_conceptResults, List.flatMap_map,
      fields_of_elements fun i less => (element i less).only, List.filterMap_flatMap]

end

/-- The size of a parcel: a number, then perhaps its unit, and no notes from elsewhere. -/
def sizeItems : List Json :=
  [.object [("type", .string "number")],
    .object [("enum", .array [.string "mm", .string "in"])],
    .object [("$ref", .string "https://example.com/notes")]]

/-- The tuple of the size of a parcel. -/
def parcelSize : Json :=
  .object
    [("type", .string "array"), ("items", .array sizeItems),
      ("minItems", .number (.int 1)), ("maxItems", .number (.double (.ofDecimal false 2 0)))]

theorem fields_of_tuple_parcelSize :
  ∃ found, Reads ⟨.property, parcelSize, ["Root", "properties", "size"]⟩ {} found ∧
    ∃ (own : Nat → Results) (field : Nat → Field),
      (∀ i < 2, ∃ item, sizeItems[i]? = some item ∧
        IsElement ["Root", "properties", "size"] {} 1 i item (own i) (field i)) ∧
      found.flatten =
        .field ((fieldBase "size" {}).field (.declared "Root$_properties$_size")) ::
        .declaration (.concept "Root$_properties$_size" false ((List.range 2).map field)) ::
        (List.range 2).flatMap fun i => (own i).flatten.filterMap Found.spawned?
  := by
  obtain ⟨found, held⟩ : ∃ found, (readWithin 10
      ⟨.property, parcelSize, ["Root", "properties", "size"]⟩ {}).outcome = .ok found :=
    Report.exists_outcome_eq_ok (by decide +kernel)
  have reads := reads_of_readWithin held
  have place : normalizeName (pathName ["Root", "properties", "size"]) =
      "Root$_properties$_size" := by decide +kernel
  have direct : ∀ item ∈ sizeItems.take 2, IsDirect .null [] item := by
    intro item mem
    obtain rfl | rfl := by simpa [sizeItems] using mem
    all_goals apply isDirect_of_rule <;> decide +kernel
  have tuple : IsTupleOf (Body.ofJson parcelSize) sizeItems 1 2 := by
    refine ⟨by decide +kernel, rfl, ⟨_, rfl, rfl⟩, by decide, ⟨_, rfl, ?_⟩, by decide⟩
    decide +kernel
  use found, reads
  rw [← place]
  exact fields_of_tuple tuple (by decide) direct reads

-- Only the first element of the size of a parcel is required, and the last one is left out.
example :
  (readWithin 10 ⟨.property, parcelSize, ["Root", "properties", "size"]⟩
      {}).outcome.toOption.map Nested.flatten =
    some
      [.field { name := "size", isOptional := true, type := .declared "Root$_properties$_size" },
        .declaration (.concept "Root$_properties$_size" false
          [{ name := "0", type := .double },
            { name := "1", isOptional := true,
              type := .declared "Root$_properties$_size$_properties$_1" }]),
        .declaration (.enumeration "Root$_properties$_size$_properties$_1" ["mm", "in"])]
  := by
  decide +kernel

end Inference

end ConceptModel
