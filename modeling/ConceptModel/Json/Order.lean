import ConceptModel.Json.Basic

/-!
# The order of values

Which of two values goes before the other, and lists of values in that order.  Numbers
are ordered by size, strings by their characters, and lists by the first elements that
differ; inside a list a truth value has the place of zero or one.  Other pairs have no
order.  The number `nan` goes before no number and no number goes before it, so where it
ends up depends on the comparisons made: the values are put in order by taking the run
with which they start and inserting each of the others by halving.
-/

namespace ConceptModel.Json

/-! ### Places in the order -/

/-- The number whose place a truth value has. -/
def flagNumber (b : Bool) : Number := .int (if b then 1 else 0)

mutual

/-- Whether two values have the same place. -/
def level : Json → Json → Bool
  | null, null => true
  | bool x, bool y => x = y
  | bool x, number y => (flagNumber x).sameNumber y
  | number x, bool y => x.sameNumber (flagNumber y)
  | number x, number y => x = y || x.sameNumber y
  | string x, string y => x = y
  | array xs, array ys => levelElements xs ys
  | object xs, object ys => xs.length = ys.length && levelFields xs ys
  | _, _ => false

/-- Whether two lists hold values of the same places in order. -/
def levelElements : List Json → List Json → Bool
  | [], [] => true
  | x :: xs, y :: ys => level x y && levelElements xs ys
  | _, _ => false

/-- Whether every field has a counterpart of the same place among others. -/
def levelFields : List (String × Json) → List (String × Json) → Bool
  | [], _ => true
  | (k, x) :: xs, ys =>
    (match lookup? k ys with
      | some y => level x y
      | none => false) && levelFields xs ys

end

mutual

/-- Whether a value goes before another, if the two have an order. -/
def precedes? : Json → Json → Option Bool
  | bool x, bool y => some ((flagNumber x).isLess (flagNumber y))
  | bool x, number y => some ((flagNumber x).isLess y)
  | number x, bool y => some (x.isLess (flagNumber y))
  | number x, number y => some (x.isLess y)
  | string x, string y => some (x < y)
  | array xs, array ys => elementsPrecede? xs ys
  | _, _ => none

/-- Whether a list goes before another, if the first elements with different places have
an order; a list goes before its extensions. -/
def elementsPrecede? : List Json → List Json → Option Bool
  | x :: xs, y :: ys => if level x y then elementsPrecede? xs ys else precedes? x y
  | [], _ :: _ => some true
  | _, _ => some false

end

/-! ### Lists in order -/

/-- The values that go on a run after its last value, and what follows them.  In a
falling run each value goes before the one it follows, in a rising run none does. -/
def goOn? (falling : Bool) : Json → List Json → Option (List Json × List Json)
  | _, [] => some ([], [])
  | last, x :: rest =>
    match precedes? x last with
    | none => none
    | some before =>
      if before = falling then
        (goOn? falling x rest).map fun (run, after) => (x :: run, after)
      else some ([], x :: rest)

/-- A list of at most `bound` values in order with a value inserted: among those before
the middle one if it goes before that, and else among those after it. -/
def insertWithin? : Nat → Json → List Json → Option (List Json)
  | 0, x, ys => some (x :: ys)
  | bound + 1, x, ys =>
    let before := ys.take (ys.length / 2)
    match ys.drop (ys.length / 2) with
    | [] => some [x]
    | y :: after =>
      match precedes? x y with
      | none => none
      | some true => (insertWithin? bound x before).map fun before => before ++ y :: after
      | some false => (insertWithin? bound x after).map fun after => before ++ y :: after

/-- A list in order with a value inserted. -/
def insert? (ys : List Json) (x : Json) : Option (List Json) := insertWithin? ys.length x ys

/-- Values put in order, if those that are compared have one. -/
def inOrder? : List Json → Option (List Json)
  | x :: y :: rest =>
    match precedes? y x with
    | none => none
    | some falling =>
      (goOn? falling y rest).bind fun (run, after) =>
        let run := x :: y :: run
        after.foldlM insert? (if falling then run.reverse else run)
  | values => some values

/-! ### Examples -/

example : inOrder? [string "b", string "c", string "a"] =
    some [string "a", string "b", string "c"] := by decide +kernel

example : inOrder? [number (.int 1), string "a"] = none := by decide +kernel

end ConceptModel.Json
