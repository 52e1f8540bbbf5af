import ConceptModel.Text.Identifier
import ConceptModel.Text.Split

/-!
# Integers in texts

The integer that a text writes in decimal digits of any script, with a sign, single
underscores between digits and blanks around it.
-/

namespace ConceptModel.Text

/-- The zeros of the scripts; the other digits of a script follow its zero. -/
def decimalZeros : List Nat :=
  [0x30, 0x660, 0x6F0, 0x7C0, 0x966, 0x9E6, 0xA66, 0xAE6, 0xB66, 0xBE6, 0xC66, 0xCE6, 0xD66,
   0xDE6, 0xE50, 0xED0, 0xF20, 0x1040, 0x1090, 0x17E0, 0x1810, 0x1946, 0x19D0, 0x1A80, 0x1A90,
   0x1B50, 0x1BB0, 0x1C40, 0x1C50, 0xA620, 0xA8D0, 0xA900, 0xA9D0, 0xA9F0, 0xAA50, 0xABF0,
   0xFF10, 0x104A0, 0x10D30, 0x11066, 0x110F0, 0x11136, 0x111D0, 0x112F0, 0x11450, 0x114D0,
   0x11650, 0x116C0, 0x11730, 0x118E0, 0x11950, 0x11C50, 0x11D50, 0x11DA0, 0x16A60, 0x16AC0,
   0x16B50, 0x1D7CE, 0x1D7D8, 0x1D7E2, 0x1D7EC, 0x1D7F6, 0x1E140, 0x1E2F0, 0x1E950, 0x1FBF0]

/-- The value of a decimal digit. -/
def decimalValue? (c : Char) : Option Nat :=
  decimalZeros.findSome? fun first =>
    if first ≤ c.toNat && c.toNat < first + 10 then some (c.toNat - first) else none

/-- Whether a character may stand around a number: a blank that does not separate
records. -/
def isNumberBlank (c : Char) : Bool := isBlank c && !('\x1c' ≤ c && c ≤ '\x1f')

/-- The number that groups of digits write, with an underscore between groups. -/
def natural? (cs : List Char) : Option Nat :=
  let groups := splitAll '_' cs
  if groups.any List.isEmpty then none
  else
    let digits := groups.flatten.map decimalValue?
    if digits.length ≤ digitLimit && digits.all Option.isSome then
      some (digits.foldl (fun n d => 10 * n + d.getD 0) 0)
    else none

/-- The integer that characters write. -/
def integer? (cs : List Char) : Option Int :=
  match ((cs.dropWhile isNumberBlank).reverse.dropWhile isNumberBlank).reverse with
  | '+' :: digits => (natural? digits).map Int.ofNat
  | '-' :: digits => (natural? digits).map fun n => -(n : Int)
  | digits => (natural? digits).map Int.ofNat

/-! ### Examples -/

example : integer? " -1_0 ".toList = some (-10) := by decide +kernel

example : integer? "1__0".toList = none := by decide +kernel

end ConceptModel.Text
