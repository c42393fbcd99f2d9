/-!
# Rounded fractions

Numbers with a fraction or an exponent are kept to 53 binary digits and an exponent of two, the
double precision format of the floating-point standard, without infinities. All arithmetic is
exact on natural numbers and rounds once at the end, to nearest and on a tie to the even
significand.
-/

namespace Arbitration

/-- The magnitude `significand * 2 ^ exponent`. -/
structure Magnitude where
  /-- At most 53 binary digits. -/
  significand : Nat
  /-- From `-1074` to `971`. -/
  exponent : Int
  deriving DecidableEq, Repr

/-- A magnitude with its sign; zero has one too. -/
structure Binary64 where
  negative : Bool
  magnitude : Magnitude
  deriving DecidableEq, Repr

namespace Magnitude

/-- The least exponent, shared by zero and by the magnitudes without a full significand. -/
def minExponent : Int := -1074

/-- The greatest exponent. -/
def maxExponent : Int := 971

/-- The greatest magnitude. -/
def greatest : Magnitude := ⟨Nat.pow 2 53 - 1, maxExponent⟩

/-- Nothing. -/
def zero : Magnitude := ⟨0, minExponent⟩

/-- Whether there is nothing. -/
def isZero (x : Magnitude) : Bool := x.significand == 0

/-- Numerator and denominator of `num / den` divided by `2 ^ e`. -/
def scaled (num den : Nat) (e : Int) : Nat × Nat :=
  if 0 ≤ e then (num, den * Nat.pow 2 e.toNat) else (num * Nat.pow 2 (-e).toNat, den)

/-- The quotient rounded to the nearest whole number, a tie going to the even one. -/
def nearestEven (num den : Nat) : Nat :=
  let q := num / den
  let r := num % den
  if den < 2 * r || (2 * r == den && q % 2 == 1) then q + 1 else q

/-- The exponent at which `num / den` has a significand of 53 digits, if the format reaches so
low. -/
def exponentOf (num den : Nat) : Int :=
  -- The logarithms fix the number of digits up to one, and one division settles which it is.
  let e : Int := (num.log2 : Int) - den.log2 - 53
  let s := scaled num den e
  max minExponent (if Nat.pow 2 53 ≤ s.1 / s.2 then e + 1 else e)

/-- The nearest magnitude to `num / den`; `none` if it is beyond the greatest. -/
def ofQuotient (num den : Nat) : Option Magnitude :=
  if num = 0 then some zero
  else
    let e := exponentOf num den
    let s := scaled num den e
    let q := nearestEven s.1 s.2
    let x : Magnitude := if q = Nat.pow 2 53 then ⟨Nat.pow 2 52, e + 1⟩ else ⟨q, e⟩
    if maxExponent < x.exponent then none else some x

/-- Numerator and denominator of a magnitude. -/
def fraction (x : Magnitude) : Nat × Nat := scaled x.significand 1 (-x.exponent)

/-- The product, rounded; `none` if it is beyond the greatest magnitude. -/
def mul (x y : Magnitude) : Option Magnitude :=
  let (a, b) := x.fraction
  let (c, d) := y.fraction
  ofQuotient (a * c) (b * d)

/-- The quotient by a magnitude that is at least one, rounded. -/
def div (x y : Magnitude) : Magnitude :=
  let (a, b) := x.fraction
  let (c, d) := y.fraction
  (ofQuotient (a * d) (b * c)).getD zero

/-- The power of ten, rounded, for exponents up to 308. -/
def tenPow (k : Nat) : Magnitude := (ofQuotient (Nat.pow 10 k) 1).getD zero

/-- `x` times a negative power of ten, in steps of at most 308 places. -/
def shiftDown (x : Magnitude) (places : Nat) : Magnitude :=
  if places ≤ 308 then x.div (tenPow places)
  else if x.isZero then x
  else shiftDown (x.div (tenPow 308)) (places - 308)
termination_by places

/-- The magnitude that stands for `digits * 10 ^ exponent`: the digits are rounded first and
scaled by a rounded power of ten after that, so the last binary digit may be off by one. -/
def ofDecimal (digits : Nat) (exponent : Int) : Option Magnitude := do
  let x ← ofQuotient digits 1
  if exponent < 0 then return x.shiftDown (-exponent).toNat
  else if x.isZero then return x
  else if exponent ≤ 308 then x.mul (tenPow exponent.toNat)
  else none

end Magnitude

end Arbitration
