/-!
# Cutting lists

Cutting a list at a separator, at its first occurrence, at its last, or at all, and
the search for a part.
-/

namespace ConceptModel.Text

variable {α : Type} [DecidableEq α]

/-- The part before the first separator, and the part after it if there is one. -/
def cutFirst (separator : α) : List α → List α × Option (List α)
  | [] => ([], none)
  | c :: rest =>
    if c = separator then ([], some rest)
    else
      let (before, after) := cutFirst separator rest
      (c :: before, after)

/-- The part after the last separator, or everything when there is none. -/
def afterLast (separator : α) : List α → List α
  | [] => []
  | c :: rest => if separator ∈ c :: rest then afterLast separator rest else c :: rest

/-- The parts between separators, one more than there are separators. -/
def splitAll (separator : α) : List α → List (List α)
  | [] => [[]]
  | c :: rest =>
    if c = separator then [] :: splitAll separator rest
    else
      match splitAll separator rest with
      | part :: parts => (c :: part) :: parts
      | [] => [[c]]

/-- A list without an ending, if it has this ending. -/
def dropEnding (ending cs : List α) : List α :=
  if ending.isSuffixOf cs then cs.take (cs.length - ending.length) else cs

/-- Whether a part stands somewhere in a list. -/
def occursIn (part : List α) : List α → Bool
  | [] => part.isEmpty
  | c :: rest => part.isPrefixOf (c :: rest) || occursIn part rest

end ConceptModel.Text
