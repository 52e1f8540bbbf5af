/-!
# Binary64 numbers

The type `Double` of the numbers a binary64 word can hold, the rounding of a
decimal numeral to the nearest of them, and the exact comparison of a double with
an integer.  A finite double is the product of a natural `significand` and a power
of two, so that all its arithmetic is arithmetic of integers.
-/

namespace ConceptModel

/-- A binary64 number.  Finite numbers come from `Double.ofRatio`, which keeps the
exponent canonical: two of them are equal exactly when they agree in sign and value. -/
inductive Double where
  /-- The number `significand · 2 ^ exponent`, negated when `negative`. -/
  | finite (negative : Bool) (significand : Nat) (exponent : Int)
  /-- Positive infinity, or negative infinity when `negative`. -/
  | infinite (negative : Bool)
  /-- The result of no computation. -/
  | nan
deriving DecidableEq, Repr, Inhabited

namespace Double

/-! ### Rounding -/

/-- The quotient of `num` by `den`, rounded to the nearest natural; a half goes to
the even neighbour. -/
def roundHalfEven (num den : Nat) : Nat :=
  let quotient := num / den
  let twice := 2 * (num % den)
  if twice < den then quotient
  else if den < twice then quotient + 1
  else if quotient % 2 = 0 then quotient else quotient + 1

/-- The integer `k` with `2 ^ k ≤ num / den < 2 ^ (k + 1)`, for positive `num` and
`den`. -/
def binaryMagnitude (num den : Nat) : Int :=
  let estimate : Int := (num.log2 : Int) - (den.log2 : Int)
  let reached : Bool :=
    if 0 ≤ estimate then den * Nat.pow 2 estimate.toNat ≤ num
    else den ≤ num * Nat.pow 2 (-estimate).toNat
  if reached then estimate else estimate - 1

/-- The binary64 number nearest to `num / den`, negated when `negative`; a half goes
to the even significand, and what is too large is infinite. -/
def ofRatio (negative : Bool) (num den : Nat) : Double :=
  if num = 0 then finite negative 0 0
  else
    let exponent := max (binaryMagnitude num den - 52) (-1074)
    let significand :=
      if 0 ≤ exponent then roundHalfEven num (den * Nat.pow 2 exponent.toNat)
      else roundHalfEven (num * Nat.pow 2 (-exponent).toNat) den
    if significand = 0 then finite negative 0 0
    else if significand = Nat.pow 2 53 then
      if 971 < exponent + 1 then infinite negative
      else finite negative (Nat.pow 2 52) (exponent + 1)
    else if 971 < exponent then infinite negative
    else finite negative significand exponent

/-- The binary64 number nearest to `digits · 10 ^ exponent`, negated when `negative`.
Exponents far outside the range are settled without computing the power. -/
def ofDecimal (negative : Bool) (digits : Nat) (exponent : Int) : Double :=
  if digits = 0 then finite negative 0 0
  else
    let magnitude : Int := (Nat.toDigits 10 digits).length + exponent
    if 310 < magnitude then infinite negative
    else if magnitude < -330 then finite negative 0 0
    else if 0 ≤ exponent then ofRatio negative (digits * Nat.pow 10 exponent.toNat) 1
    else ofRatio negative digits (Nat.pow 10 (-exponent).toNat)

/-! ### Integers among the doubles -/

/-- The integer with the given sign and magnitude. -/
def signed (negative : Bool) (magnitude : Nat) : Int :=
  if negative then -(magnitude : Int) else magnitude

/-- The integer a finite double stands for, when it stands for one. -/
def toInt? : Double → Option Int
  | finite negative significand exponent =>
    if 0 ≤ exponent then some (signed negative (significand * Nat.pow 2 exponent.toNat))
    else if significand % Nat.pow 2 (-exponent).toNat = 0 then
      some (signed negative (significand / Nat.pow 2 (-exponent).toNat))
    else none
  | _ => none

/-- A finite double without its fractional part. -/
def truncate? : Double → Option Int
  | finite negative significand exponent =>
    if 0 ≤ exponent then some (signed negative (significand * Nat.pow 2 exponent.toNat))
    else some (signed negative (significand / Nat.pow 2 (-exponent).toNat))
  | _ => none

/-- How a double compares with an integer; `none` for `nan`, which compares with
nothing. -/
def compareInt : Double → Int → Option Ordering
  | finite negative significand exponent, n =>
    if 0 ≤ exponent then
      some (compare (signed negative (significand * Nat.pow 2 exponent.toNat)) n)
    else some (compare (signed negative significand) (n * Nat.pow 2 (-exponent).toNat))
  | infinite negative, _ => some (if negative then .lt else .gt)
  | nan, _ => none

/-- How two doubles compare; `none` when one of them is `nan`. -/
def compareDouble : Double → Double → Option Ordering
  | nan, _ | _, nan => none
  | infinite n, infinite n' => some (if n = n' then .eq else if n then .lt else .gt)
  | infinite n, finite .. => some (if n then .lt else .gt)
  | finite .., infinite n => some (if n then .gt else .lt)
  | finite n s e, finite n' s' e' =>
    let least := min e e'
    some (compare (signed n (s * Nat.pow 2 (e - least).toNat))
      (signed n' (s' * Nat.pow 2 (e' - least).toNat)))

/-- Whether two doubles stand for the same number: zero equals its negative, and
`nan` equals nothing. -/
def sameNumber : Double → Double → Bool
  | finite n s e, finite n' s' e' => (s = 0 ∧ s' = 0) ∨ (n = n' ∧ s = s' ∧ e = e')
  | infinite n, infinite n' => n = n'
  | _, _ => false

/-- Whether a double is zero, of either sign. -/
def isZero : Double → Bool
  | finite _ significand _ => significand = 0
  | _ => false

/-! ### Examples -/

example : ofDecimal false 1 (-1) = finite false 7205759403792794 (-56) := by decide +kernel

example : ofDecimal true 1 400 = infinite true := by decide +kernel

example : (ofDecimal false 20 (-1)).toInt? = some 2 := by decide +kernel

end Double

end ConceptModel
