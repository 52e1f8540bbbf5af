import ConceptModel.Json.Order

/-!
# Distinct elements

Whether the elements of an array count as distinct.  Elements that can be put in order
are put in order, and then every element is compared with the next one; elements that
cannot are compared in pairs.
-/

namespace ConceptModel.Json

/-- Whether no two elements are the same. -/
def allDiffer : List Json → Bool
  | [] => true
  | x :: xs => xs.all (fun y => !same x y) && allDiffer xs

/-- Whether no element is the same as the next one. -/
def neighboursDiffer : List Json → Bool
  | x :: y :: rest => !same x y && neighboursDiffer (y :: rest)
  | _ => true

/-- The elements of an array in order, if they have one; a truth value has none beside
another element. -/
def elementsInOrder? (elements : List Json) : Option (List Json) :=
  if elements.any isBool && 1 < elements.length then none else inOrder? elements

/-- Whether the elements of an array count as distinct. -/
def allDistinct (elements : List Json) : Bool :=
  match elementsInOrder? elements with
  | some sorted => neighboursDiffer sorted
  | none => allDiffer elements

/-! ### Examples -/

example : allDistinct [string "a", string "b", string "a"] = false := by decide +kernel

example : allDistinct [array [bool true], array [number (.int 1)]] = true := by
  decide +kernel

example : allDistinct [number (.int 1), number (.double .nan), number (.int 1)] = true := by
  decide +kernel

end ConceptModel.Json
