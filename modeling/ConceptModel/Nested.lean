/-!
# Nested results

Results that come one by one, in lists of lists to any depth, or not at all.  Reading
them in order gives a plain list.
-/

namespace ConceptModel

/-- Nothing, one result, or a list of nested results. -/
inductive Nested (α : Type) where
  | nothing
  | one (result : α)
  | many (results : List (Nested α))
deriving Repr, Inhabited

namespace Nested

variable {α : Type}

mutual

/-- The results in order. -/
def flatten : Nested α → List α
  | nothing => []
  | one a => [a]
  | many rs => flattenAll rs

/-- The results of a list in order. -/
def flattenAll : List (Nested α) → List α
  | [] => []
  | r :: rs => flatten r ++ flattenAll rs

end

/-- Results side by side. -/
def ofList (results : List α) : Nested α := many (results.map one)

@[simp]
theorem flatten_ofList
    (results : List α) :
  (ofList results).flatten = results
  := by
  simp only [ofList, flatten]
  induction results with
  | nil => rfl
  | cons a rest ih => simp [flattenAll, flatten, ih]

end Nested

end ConceptModel
