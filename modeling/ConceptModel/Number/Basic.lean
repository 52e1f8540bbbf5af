import ConceptModel.Number.Shortest

/-!
# Numbers

The type `Number` of integers and doubles, and the ways a number is written.  The
records `Double.Layout` hold what a format decides: which exponents are written
positionally, and how the doubles without digits are spelled.
-/

namespace ConceptModel

namespace Double

/-- How doubles are written in a format. -/
structure Layout where
  /-- The least decimal exponent written positionally. -/
  leastPositional : Int
  /-- The least decimal exponent beyond those written positionally. -/
  leastScientific : Int
  /-- The spelling of positive infinity. -/
  infinity : String
  /-- The spelling of `nan`. -/
  notANumber : String

/-- The plain layout: positional from `1e-4` to below `1e16`, with lower-case names. -/
def Layout.plain : Layout := ⟨-4, 16, "inf", "nan"⟩

/-- The layout of JSON texts, which differs from the plain one by its names. -/
def Layout.json : Layout := ⟨-4, 16, "Infinity", "NaN"⟩

/-- `count` zeros. -/
def zeros (count : Nat) : List Char := List.replicate count '0'

/-- The digits with a decimal point after the first `point` of them, with at least one
digit on either side of it. -/
def positional (digits : List Char) (point : Int) : List Char :=
  if point ≤ 0 then '0' :: '.' :: zeros (-point).toNat ++ digits
  else if (digits.length : Int) ≤ point then
    digits ++ zeros (point.toNat - digits.length) ++ ['.', '0']
  else digits.take point.toNat ++ '.' :: digits.drop point.toNat

/-- The digits with a decimal point after the first of them, if others follow, before
the exponent with its sign and at least two digits. -/
def scientific (digits : List Char) (exponent : Int) : List Char :=
  let mantissa :=
    match digits with
    | first :: second :: rest => first :: '.' :: second :: rest
    | _ => digits
  let magnitude := Nat.toDigits 10 exponent.natAbs
  mantissa ++ 'e' :: (if exponent < 0 then '-' else '+')
    :: zeros (2 - magnitude.length) ++ magnitude

/-- The unsigned text of a shortest decimal in a layout. -/
def Layout.magnitude (layout : Layout) (x : Scientific) : List Char :=
  let digits := Nat.toDigits 10 x.digits
  let point : Int := digits.length + x.exponent
  if layout.leastPositional ≤ point - 1 ∧ point - 1 < layout.leastScientific then
    positional digits point
  else scientific digits (point - 1)

/-- The text of a double in a layout: the shortest decimal that reads back. -/
def text (layout : Layout) : Double → String
  | nan => layout.notANumber
  | infinite negative => if negative then "-" ++ layout.infinity else layout.infinity
  | finite negative significand exponent =>
    let unsigned :=
      if significand = 0 then positional ['0'] 1
      else layout.magnitude (shortest significand exponent)
    String.ofList (if negative then '-' :: unsigned else unsigned)

end Double

/-- A number of a document: an integer of any size, or a double. -/
inductive Number where
  | int (value : Int)
  | double (value : Double)
deriving DecidableEq, Repr, Inhabited

namespace Number

/-- The text of a number whose doubles are written in the given layout. -/
def text (layout : Double.Layout) : Number → String
  | int value => toString value
  | double value => value.text layout

/-- The plain text of a number. -/
def plain (x : Number) : String := x.text .plain

/-- The text of a number without a fractional part where it has none: a double that
stands for an integer is written as this integer. -/
def compact : Number → String
  | int value => toString value
  | double value =>
    match value.toInt? with
    | some n => toString n
    | none => value.text .plain

/-- Whether a number is zero. -/
def isZero : Number → Bool
  | int value => value = 0
  | double value => value.isZero

/-- How a number compares with an integer. -/
def compareInt : Number → Int → Option Ordering
  | int value, n => some (compare value n)
  | double value, n => value.compareInt n

/-- Whether two numbers are equal as numbers: an integer equals the double that stands
for it. -/
def sameNumber : Number → Number → Bool
  | int a, int b => a = b
  | int a, double b => b.compareInt a = some .eq
  | double a, int b => a.compareInt b = some .eq
  | double a, double b => a.sameNumber b

/-- Whether a number is less than another. -/
def isLess : Number → Number → Bool
  | x, int b => x.compareInt b = some .lt
  | int a, double b => b.compareInt a = some .gt
  | double a, double b => a.compareDouble b = some .lt

/-- Whether a number is at most an integer. -/
def atMost (x : Number) (n : Int) : Bool :=
  match x.compareInt n with
  | some .lt | some .eq => true
  | _ => false

/-- The integer part of a number, if it is finite. -/
def truncate? : Number → Option Int
  | int value => some value
  | double value => value.truncate?

/-! ### Examples -/

example : (double (.ofDecimal false 15 (-8))).plain = "1.5e-07" := by decide +kernel

example : (double (.ofDecimal false 1 16)).plain = "1e+16" := by decide +kernel

example : (double (.ofDecimal false 1 22)).compact = "10000000000000000000000" := by
  decide +kernel

end Number

end ConceptModel
