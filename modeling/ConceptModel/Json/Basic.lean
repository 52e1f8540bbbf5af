import ConceptModel.Number.Basic

/-!
# JSON values

The values of a JSON document.  An object is a list of fields in the order of the
document, in which a key that is set again keeps its place.  Two notions of equality
live beside the syntactic one: `same` ignores the order of fields and the difference
between an integer and the double that stands for it.
-/

namespace ConceptModel

/-- A JSON value. -/
inductive Json where
  | null
  | bool (value : Bool)
  | number (value : Number)
  | string (value : String)
  | array (elements : List Json)
  | object (fields : List (String × Json))
deriving Repr, Inhabited

namespace Json

/-! ### Syntactic equality -/

mutual

/-- Whether two values are syntactically equal. -/
def decEq : (a b : Json) → Decidable (a = b)
  | null, null => isTrue rfl
  | bool x, bool y => decidable_of_iff (x = y) (by simp)
  | number x, number y => decidable_of_iff (x = y) (by simp)
  | string x, string y => decidable_of_iff (x = y) (by simp)
  | array xs, array ys =>
    match decEqElements xs ys with
    | isTrue h => isTrue (by rw [h])
    | isFalse h => isFalse (by simpa using h)
  | object xs, object ys =>
    match decEqFields xs ys with
    | isTrue h => isTrue (by rw [h])
    | isFalse h => isFalse (by simpa using h)
  | null, bool _ | null, number _ | null, string _ | null, array _ | null, object _
  | bool _, null | bool _, number _ | bool _, string _ | bool _, array _ | bool _, object _
  | number _, null | number _, bool _ | number _, string _ | number _, array _
  | number _, object _ | string _, null | string _, bool _ | string _, number _
  | string _, array _ | string _, object _ | array _, null | array _, bool _
  | array _, number _ | array _, string _ | array _, object _ | object _, null
  | object _, bool _ | object _, number _ | object _, string _ | object _, array _ =>
    isFalse (by simp)

/-- Whether two lists of values are syntactically equal. -/
def decEqElements : (xs ys : List Json) → Decidable (xs = ys)
  | [], [] => isTrue rfl
  | [], _ :: _ | _ :: _, [] => isFalse (by simp)
  | x :: xs, y :: ys =>
    match decEq x y with
    | isTrue h =>
      match decEqElements xs ys with
      | isTrue hs => isTrue (by rw [h, hs])
      | isFalse hs => isFalse (by simp [hs])
    | isFalse h => isFalse (by simp [h])

/-- Whether two lists of fields are syntactically equal. -/
def decEqFields : (xs ys : List (String × Json)) → Decidable (xs = ys)
  | [], [] => isTrue rfl
  | [], _ :: _ | _ :: _, [] => isFalse (by simp)
  | (k, x) :: xs, (l, y) :: ys =>
    if hk : k = l then
      match decEq x y with
      | isTrue h =>
        match decEqFields xs ys with
        | isTrue hs => isTrue (by rw [hk, h, hs])
        | isFalse hs => isFalse (by simp [hs])
      | isFalse h => isFalse (by simp [h])
    else isFalse (by simp [hk])

end

instance : DecidableEq Json := decEq

/-! ### Fields -/

/-- The value of a key among fields. -/
def lookup? (key : String) : List (String × Json) → Option Json
  | [] => none
  | (k, v) :: rest => if k = key then some v else lookup? key rest

/-- The fields with a key set to a value: in its place when it is there, at the end
otherwise. -/
def setField (key : String) (value : Json) : List (String × Json) → List (String × Json)
  | [] => [(key, value)]
  | (k, v) :: rest =>
    if k = key then (key, value) :: rest else (k, v) :: setField key value rest

/-- The fields with all fields of another list set, one after the other. -/
def mergeFields (fields changes : List (String × Json)) : List (String × Json) :=
  changes.foldl (fun fs (key, value) => setField key value fs) fields

/-- The value of a key of an object. -/
def get? (key : String) : Json → Option Json
  | object fields => lookup? key fields
  | _ => none

/-- The value at the end of a path of keys. -/
def getPath? : List String → Json → Option Json
  | [], v => some v
  | key :: path, v =>
    match v.get? key with
    | some w => getPath? path w
    | none => none

/-! ### Size -/

mutual

/-- The number of values inside a value, itself included. -/
def size : Json → Nat
  | array elements => sizeElements elements + 1
  | object fields => sizeFields fields + 1
  | _ => 1

/-- The number of values inside the elements of an array. -/
def sizeElements : List Json → Nat
  | [] => 0
  | v :: vs => size v + sizeElements vs

/-- The number of values inside the fields of an object. -/
def sizeFields : List (String × Json) → Nat
  | [] => 0
  | (_, v) :: rest => size v + sizeFields rest

end

/-! ### Kinds and truth -/

/-- Whether a value is an object. -/
def isObject : Json → Bool
  | object _ => true
  | _ => false

/-- Whether a value is an array. -/
def isArray : Json → Bool
  | array _ => true
  | _ => false

/-- Whether a value is a truth value. -/
def isBool : Json → Bool
  | bool _ => true
  | _ => false

/-- Whether a value is a string. -/
def isString : Json → Bool
  | string _ => true
  | _ => false

/-- Whether a value counts as true when empty containers do: all but `null`, `false`,
zero and the empty string. -/
def isTruthy : Json → Bool
  | null => false
  | bool b => b
  | number x => !x.isZero
  | string s => s ≠ ""
  | array _ | object _ => true

/-- Whether a value counts as set: all but `null`, `false`, zero and what is empty. -/
def isSet : Json → Bool
  | array xs => !xs.isEmpty
  | object fs => !fs.isEmpty
  | v => v.isTruthy

/-! ### Equality of documents -/

mutual

/-- Whether two values are the same to a validator: numbers are compared as numbers and
objects without regard to order; a truth value is no number. -/
def same : Json → Json → Bool
  | null, null => true
  | bool x, bool y => x = y
  | number x, number y => x = y || x.sameNumber y
  | string x, string y => x = y
  | array xs, array ys => sameElements xs ys
  | object xs, object ys => xs.length = ys.length && sameFields xs ys
  | _, _ => false

/-- Whether two lists hold the same values in order. -/
def sameElements : List Json → List Json → Bool
  | [], [] => true
  | x :: xs, y :: ys => same x y && sameElements xs ys
  | _, _ => false

/-- Whether every field has its counterpart among others. -/
def sameFields : List (String × Json) → List (String × Json) → Bool
  | [], _ => true
  | (k, x) :: xs, ys =>
    (match lookup? k ys with
      | some y => same x y
      | none => false) && sameFields xs ys

end

end Json

end ConceptModel
