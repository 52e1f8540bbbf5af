/-!
# Similarity

How much a text and a word have in common: their longest shared run of characters, and
what the characters before it and those after it have in common in turn.  A text is near a
word if this makes up three fifths of both.
-/

namespace ConceptModel.Text

/-! ### Shared runs -/

/-- A run of characters that two texts share: where it starts in each, and its length. -/
structure SharedRun where
  left : Nat
  right : Nat
  length : Nat
deriving DecidableEq, Repr

/-- The number of characters at the front in which two texts agree. -/
def agreement : List Char → List Char → Nat
  | c :: s, d :: t => if c = d then agreement s t + 1 else 0
  | _, _ => 0

/-- The runs that two texts share, the leftmost first. -/
def sharedRuns (s t : List Char) : List SharedRun :=
  (List.range s.length).flatMap fun i =>
    (List.range t.length).map fun j => ⟨i, j, agreement (s.drop i) (t.drop j)⟩

/-- The longest run that two texts share, of several the leftmost. -/
def longestShared (s t : List Char) : SharedRun :=
  (sharedRuns s t).foldl (fun best run => if best.length < run.length then run else best)
    ⟨0, 0, 0⟩

/-- The number of characters that two texts have in common, if the first has at most
`bound` characters. -/
def commonWithin : Nat → List Char → List Char → Nat
  | 0, _, _ => 0
  | bound + 1, s, t =>
    let run := longestShared s t
    if run.length = 0 then 0
    else
      run.length + commonWithin bound (s.take run.left) (t.take run.right)
        + commonWithin bound (s.drop (run.left + run.length)) (t.drop (run.right + run.length))

/-- The number of characters that two texts have in common, each in its place between the
others. -/
def common (s t : List Char) : Nat := commonWithin s.length s t

/-! ### Near texts -/

/-- A text beside a word, with what they have in common and the length of both. -/
structure Likeness where
  text : String
  common : Nat
  total : Nat
deriving DecidableEq, Repr

namespace Likeness

/-- The likeness of a text and a word. -/
def of (word text : String) : Likeness :=
  ⟨text, Text.common text.toList word.toList, text.length + word.length⟩

/-- Whether what is in common makes up three fifths. -/
def isNear (a : Likeness) : Bool := 3 * a.total ≤ 10 * a.common

/-- Whether one text goes before another: the one with the larger common part, of two
equal parts the greater text. -/
def precedes (a b : Likeness) : Bool :=
  match compare (b.common * a.total) (a.common * b.total) with
  | .lt => true
  | .eq => b.text ≤ a.text
  | .gt => false

end Likeness

/-- Whether the lengths of a text and a word let them be near. -/
def mayBeNear (word text : String) : Bool :=
  3 * (text.length + word.length) ≤ 10 * min text.length word.length

/-- The texts near a word, at most three of them, in alphabetical order. -/
def nearTo (word : String) (texts : List String) : List String :=
  let near := ((texts.filter (mayBeNear word)).map (Likeness.of word)).filter Likeness.isNear
  (((near.mergeSort Likeness.precedes).take 3).map Likeness.text).mergeSort (· ≤ ·)

/-! ### Examples -/

example : common "--format".toList "--formta".toList = 7 := by decide +kernel

end ConceptModel.Text
