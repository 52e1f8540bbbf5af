import ConceptModel.Text.Digit

/-!
# Lone surrogates

Some code points are no characters: they come in pairs, which make up one character.  An
escape in a JSON text may name such a surrogate without its partner, and a file may hold
bytes that are no character either.  A text keeps each of them as a character from a
block of the same size, which lies in a plane where no character is assigned.  It is a
code point as any other, except that a text that holds one has no encoding.
-/

namespace ConceptModel.Text

/-- The character that stands for a surrogate. -/
def surrogate (unit : Nat) : Char := Char.ofNat (unit + 0x50000)

/-- Whether a character stands for the first surrogate of a pair. -/
def isHighSurrogate (c : Char) : Bool := 0x5D800 ≤ c.toNat && c.toNat < 0x5DC00

/-- Whether a character stands for the second surrogate of a pair. -/
def isLowSurrogate (c : Char) : Bool := 0x5DC00 ≤ c.toNat && c.toNat < 0x5E000

/-- Whether a character stands for a surrogate. -/
def isSurrogate (c : Char) : Bool := isHighSurrogate c || isLowSurrogate c

/-- The code point of a character, or of the surrogate for which it stands. -/
def codePoint (c : Char) : Nat := if isSurrogate c then c.toNat - 0x50000 else c.toNat

/-- Whether a text has an encoding. -/
def isEncodable (s : String) : Bool := s.toList.all fun c => !isSurrogate c

/-- The characters by which a stream shows a character: the escape of a surrogate. -/
def shownChar (c : Char) : List Char :=
  if isSurrogate c then '\\' :: 'u' :: hexDigits 4 (codePoint c) else [c]

/-- A text as a stream shows it. -/
def shown (s : String) : String := String.ofList (s.toList.flatMap shownChar)

/-! ### Laws -/

theorem isEncodable_append
    (s t : String) :
  isEncodable (s ++ t) = (isEncodable s && isEncodable t)
  := by simp [isEncodable]

/-! ### Examples -/

example : shown (String.ofList ['a', surrogate 0xD800]) = "a\\ud800" := by decide +kernel

end ConceptModel.Text
