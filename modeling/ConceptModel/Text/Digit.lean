/-!
# Digits

Hexadecimal digits: which characters they are, what they are worth, and how a number is
written with at least so many of them; and how many decimal digits an integer may have.
-/

namespace ConceptModel.Text

/-- Whether a character is a hexadecimal digit. -/
def isHexDigit (c : Char) : Bool :=
  ('0' ≤ c && c ≤ '9') || ('a' ≤ c && c ≤ 'f') || ('A' ≤ c && c ≤ 'F')

/-- The value of a hexadecimal digit. -/
def hexValue (c : Char) : Nat :=
  if c ≤ '9' then c.toNat - 0x30
  else if c ≤ 'F' then c.toNat - 0x37
  else c.toNat - 0x57

/-- The number that digits write in a base. -/
def numeral (base : Nat) (digits : List Char) : Nat :=
  digits.foldl (fun n d => base * n + hexValue d) 0

/-- The digits of a number in lower case, with zeros in front up to `width` of them. -/
def hexDigits (width n : Nat) : List Char :=
  let digits := Nat.toDigits 16 n
  List.replicate (width - digits.length) '0' ++ digits

/-- How many decimal digits an integer may have. -/
def digitLimit : Nat := 4300

/-! ### Examples -/

example : hexDigits 4 0xE9 = "00e9".toList := by decide +kernel

example : numeral 16 "00E9".toList = 0xE9 := by decide +kernel

end ConceptModel.Text
