import ConceptModel.Number.Double

/-!
# Shortest decimals

The shortest decimal that reads back as a given double, and of those the nearest.
A double and the two midpoints to its neighbours are written as integers over one
power of ten, so the search compares natural numbers only.
-/

namespace ConceptModel.Double

/-- A natural number of digits before a power of ten: `digits · 10 ^ exponent`. -/
structure Scientific where
  digits : Nat
  exponent : Int
deriving DecidableEq, Repr

/-- The reals that round to a double, over the unit `10 ^ (-places)`: the double is
`centre`, the midpoints to its neighbours are `lower` and `upper`, and they belong
to the interval when `closed`. -/
structure Interval where
  centre : Nat
  lower : Nat
  upper : Nat
  places : Nat
  closed : Bool

/-- The interval of the positive double `significand · 2 ^ exponent`.  The gap below a
power of two is half the gap above it, unless the double is subnormal. -/
def interval (significand : Nat) (exponent : Int) : Interval :=
  let places := (2 - exponent).toNat
  let unit := if exponent < 2 then Nat.pow 5 places else Nat.pow 2 (exponent - 2).toNat
  let below := if significand = Nat.pow 2 52 ∧ -1074 < exponent then 1 else 2
  { centre := 4 * significand * unit
    lower := (4 * significand - below) * unit
    upper := (4 * significand + 2) * unit
    places := places
    closed := significand % 2 = 0 }

/-- Whether a number over the unit of the interval lies in it. -/
def Interval.holds (i : Interval) (x : Nat) : Bool :=
  if i.closed then i.lower ≤ x && x ≤ i.upper else i.lower < x && x < i.upper

/-- The decimal of the interval nearest to its centre among those that are multiples
of `10 ^ drop`; a tie goes to the even multiple. -/
def Interval.nearest? (i : Interval) (drop : Nat) : Option Nat :=
  let step := Nat.pow 10 drop
  let low := i.centre / step
  let high := low + 1
  match i.holds (low * step), i.holds (high * step) with
  | true, true =>
    let down := i.centre - low * step
    let up := high * step - i.centre
    if down < up then some low
    else if up < down then some high
    else if low % 2 = 0 then some low else some high
  | true, false => some low
  | false, true => some high
  | false, false => none

/-- The number of decimal digits of a natural number. -/
def digitCount (n : Nat) : Nat := (Nat.toDigits 10 n).length

/-- A numeral without the zeros at its end, which go to the exponent; `fuel` bounds
their number. -/
def Scientific.stripZeros : Nat → Scientific → Scientific
  | 0, x => x
  | fuel + 1, x =>
    if x.digits % 10 = 0 ∧ x.digits ≠ 0 then
      stripZeros fuel ⟨x.digits / 10, x.exponent + 1⟩
    else x

/-- The decimal of fewest digits that rounds to the positive double
`significand · 2 ^ exponent`, and the nearest such.  Seventeen digits always suffice. -/
def shortest (significand : Nat) (exponent : Int) : Scientific :=
  let i := interval significand exponent
  let total := digitCount i.centre
  let hit := (List.range 17).findSome? fun kept =>
    (i.nearest? (total - (kept + 1))).map fun digits =>
      Scientific.mk digits ((total - (kept + 1) : Nat) - (i.places : Int))
  match hit with
  | some x => x.stripZeros (digitCount x.digits)
  | none => ⟨i.centre, -(i.places : Int)⟩

/-! ### Examples -/

example : shortest 1 (-1074) = ⟨5, -324⟩ := by decide +kernel

example : shortest 7205759403792794 (-56) = ⟨1, -1⟩ := by decide +kernel

end ConceptModel.Double
