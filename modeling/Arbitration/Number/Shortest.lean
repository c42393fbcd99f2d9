import Arbitration.Number.Binary64

/-!
# Shortest decimals

The decimal text of a rounded fraction: the fewest digits that single it out among all fractions
of the format, of these the nearest to it, written without an exponent. The digits are found by
exact comparison: on the grid of `n`-digit decimals only the two neighbours of the value need a
test.
-/

namespace Arbitration

namespace Magnitude

/-- `weight * 2 ^ (x.exponent - 2)`, the measure in which the borders of a rounding interval are
whole, compared with `digits * 10 ^ k`: numerators over a common denominator. -/
def borderAndDecimal (x : Magnitude) (weight digits : Nat) (k : Int) : Nat × Nat :=
  let (a, b) := scaled weight 1 (2 - x.exponent)
  let (c, d) := if 0 ≤ k then (digits * Nat.pow 10 k.toNat, 1) else (digits, Nat.pow 10 (-k).toNat)
  (a * d, c * b)

/-- The lower border of the values that round to `x`, in quarters of its last place. The gap is
narrow below a power of two. -/
def lowerBorder (x : Magnitude) : Nat :=
  if x.significand == Nat.pow 2 52 && minExponent < x.exponent then 4 * x.significand - 1
  else 4 * x.significand - 2

/-- The upper border of the values that round to `x`, in quarters of its last place. -/
def upperBorder (x : Magnitude) : Nat := 4 * x.significand + 2

/-- Whether `digits * 10 ^ k` reads back as `x`. The borders themselves do so if the significand is
even. -/
def readsBack (x : Magnitude) (digits : Nat) (k : Int) : Bool :=
  let (low, c) := x.borderAndDecimal x.lowerBorder digits k
  let (high, c') := x.borderAndDecimal x.upperBorder digits k
  if x.significand % 2 == 0 then low ≤ c && c' ≤ high else low < c && c' < high

/-- The number of zeros between the point and the first digit of `num / den`, up to `fuel`. -/
def leadingZeros (den : Nat) : Nat → Nat → Nat
  | 0, _ => 0
  | fuel + 1, num => if den ≤ 10 * num then 0 else leadingZeros den fuel (10 * num) + 1

/-- The number of digits before the point, or minus the number of zeros right after it. -/
def decimalScale (x : Magnitude) : Int :=
  let (num, den) := x.fraction
  if den ≤ num then (Nat.toDigits 10 (num / den)).length else -(leadingZeros den 400 num : Int)

/-- The neighbour of `x` on the grid of multiples of `10 ^ k` that reads back, the nearer one if
both do and on a tie the greater. -/
def onGrid (x : Magnitude) (k : Int) : Option Nat :=
  let (num, den) := x.fraction
  let (a, b) :=
    if 0 ≤ k then (num, den * Nat.pow 10 k.toNat) else (num * Nat.pow 10 (-k).toNat, den)
  let below := a / b
  -- Any other point of the grid is farther from `x` on the same side, so it does not read back
  -- unless one of these does.
  match x.readsBack below k, x.readsBack (below + 1) k with
  | true, true => some (if 2 * a < (2 * below + 1) * b then below else below + 1)
  | true, false => some below
  | false, true => some (below + 1)
  | false, false => none

/-- Digits and scale of the shortest decimal, searched from `17 - fuel` digits on. -/
def shortestFrom (x : Magnitude) (scale : Int) : Nat → Nat × Int
  | 0 => (x.significand, x.exponent)
  | fuel + 1 =>
    let k := scale - (17 - fuel : Int)
    match x.onGrid k with
    | some digits => (digits, k)
    | none => shortestFrom x scale fuel

/-- Digits and scale of the shortest decimal that reads back. -/
def shortest (x : Magnitude) : Nat × Int := shortestFrom x x.decimalScale 17

/-- `digits * 10 ^ k` written with a point where needed and no zeros at the end. -/
def positional (digits : Nat) (k : Int) : String :=
  if 0 ≤ k then String.ofList (Nat.toDigits 10 digits ++ List.replicate k.toNat '0')
  else
    let places := (-k).toNat
    let whole := toString (digits / Nat.pow 10 places)
    let rest := Nat.toDigits 10 (digits % Nat.pow 10 places)
    let padded := List.replicate (places - rest.length) '0' ++ rest
    match (padded.reverse.dropWhile (· == '0')).reverse with
    | [] => whole
    | shown => whole ++ "." ++ String.ofList shown

/-- The shortest decimal text. -/
def text (x : Magnitude) : String :=
  if x.isZero then "0"
  else
    let (digits, k) := x.shortest
    positional digits k

end Magnitude

/-- The shortest decimal text, with a sign on negative numbers and on the negative zero. -/
def Binary64.text (x : Binary64) : String :=
  (if x.negative then "-" else "") ++ x.magnitude.text

end Arbitration
