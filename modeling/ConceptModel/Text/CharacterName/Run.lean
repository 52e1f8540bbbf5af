import ConceptModel.Text.Split

/-!
# Runs of names

The names of consecutive characters, which start alike.  A `NameRun` keeps the common
beginning once and lists the endings in order, so that the position of an ending tells
which character it belongs to.
-/

namespace ConceptModel.Text

/-- The names of the characters from `first` on: each is the common beginning with an
ending.  The endings stand in order, separated by commas, on one line or more. -/
structure NameRun where
  first : Nat
  beginning : String
  endings : List String
deriving DecidableEq, Repr

namespace NameRun

/-- The endings of a run, one by one. -/
def endingList (run : NameRun) : List (List Char) :=
  run.endings.flatMap fun line => splitAll ',' line.toList

/-- The code point of the character that a run gives a name to. -/
def codePoint? (run : NameRun) (name : List Char) : Option Nat :=
  (run.beginning.toList.isPrefixOf? name).bind fun ending =>
    (run.endingList.idxOf? ending).map (run.first + ·)

/-! ### Examples -/

example : (NameRun.mk 0x30 "DIGIT " ["ZERO,ONE", "TWO"]).codePoint? "DIGIT TWO".toList
    = some 0x32 := by decide +kernel

end NameRun

end ConceptModel.Text
