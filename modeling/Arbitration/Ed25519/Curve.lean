import Arbitration.Bytes

/-!
# The curve of the signature scheme

The twisted Edwards curve `-x² + y² = 1 + d x² y²` over the integers modulo `2 ^ 255 - 19`, with its
group law in extended coordinates and the 32-byte form of its points. The addition formulas are
complete: they hold for equal points and for the neutral point too, so doubling is addition.
-/

namespace Arbitration

namespace Ed25519

/-- The size of the field. -/
def fieldPrime : Nat := Nat.pow 2 255 - 19

/-- The number of multiples of the base point. -/
def groupOrder : Nat := Nat.pow 2 252 + 27742317777372353535851937790883648493

/-- The curve's constant. -/
def curveConstant : Nat :=
  37095705934669439343138083508754565189542113879843219016388785533085940283555

/-! ### The field -/

namespace Field

/-- The product of two residues. -/
def mul (a b : Nat) : Nat := a * b % fieldPrime

/-- The sum of two residues. -/
def add (a b : Nat) : Nat := (a + b) % fieldPrime

/-- The difference of two residues. -/
def sub (a b : Nat) : Nat := (a + fieldPrime - b) % fieldPrime

/-- The negative of a residue. -/
def neg (a : Nat) : Nat := sub 0 a

/-- A power, by squaring, of which the low `bits` bits of the exponent count. -/
def pow : Nat → Nat → Nat → Nat
  | 0, _, _ => 1
  | bits + 1, a, exponent =>
    let rest := pow bits (mul a a) (exponent / 2)
    if exponent % 2 = 1 then mul a rest else rest

/-- The inverse of a residue other than zero. -/
def inv (a : Nat) : Nat := pow 255 a (fieldPrime - 2)

/-- A square root of minus one. -/
def rootOfMinusOne : Nat := pow 255 2 ((fieldPrime - 1) / 4)

/-- The even square root of `u / v`, if there is one. -/
def sqrtRatio (u v : Nat) : Option Nat :=
  let v₃ := mul (mul v v) v
  let v₇ := mul (mul v₃ v₃) v
  -- `r * r` is `u / v` up to a fourth root of one, and a square root of that is known.
  let r := mul (mul u v₃) (pow 255 (mul u v₇) ((fieldPrime - 5) / 8))
  let check := mul v (mul r r)
  let root :=
    if check = u then some r
    else if check = neg u then some (mul r rootOfMinusOne)
    else none
  root.map fun x => if x % 2 = 1 then neg x else x

end Field

/-! ### Points -/

/-- A point `(x / z, y / z)` with `t / z` its product of coordinates. -/
structure Point where
  x : Nat
  y : Nat
  z : Nat
  t : Nat

namespace Point

/-- The neutral point. -/
def neutral : Point := ⟨0, 1, 1, 0⟩

/-- The base point. -/
def base : Point :=
  let x := 15112221349535400772501151409588531511454012693041857206046113283949847762202
  let y := 46316835694926478169428394003475163141307993866256225615783033603165251855960
  ⟨x, y, 1, Field.mul x y⟩

/-- The sum of two points. -/
def add (p q : Point) : Point :=
  let a := Field.mul (Field.sub p.y p.x) (Field.sub q.y q.x)
  let b := Field.mul (Field.add p.y p.x) (Field.add q.y q.x)
  let c := Field.mul (Field.mul (Field.add p.t p.t) curveConstant) q.t
  let d := Field.mul (Field.add p.z p.z) q.z
  let e := Field.sub b a
  let f := Field.sub d c
  let g := Field.add d c
  let h := Field.add b a
  ⟨Field.mul e f, Field.mul g h, Field.mul f g, Field.mul e h⟩

/-- The point with the opposite abscissa. -/
def neg (p : Point) : Point := ⟨Field.neg p.x, p.y, p.z, Field.neg p.t⟩

/-- A multiple of a point, of which the low `bits` bits of the factor count. -/
def mulBits : Nat → Nat → Point → Point
  | 0, _, _ => neutral
  | bits + 1, factor, p =>
    let rest := mulBits bits (factor / 2) (p.add p)
    if factor % 2 = 1 then rest.add p else rest

/-- A multiple of a point by a factor below `2 ^ 256`. -/
def mul (p : Point) (factor : Nat) : Point := mulBits 256 factor p

/-- The 32-byte form: the ordinate, with the abscissa's parity in the highest bit. -/
def encode (p : Point) : Bytes 32 :=
  let inverse := Field.inv p.z
  let x := Field.mul p.x inverse
  let y := Field.mul p.y inverse
  Bytes.ofNat 32 (y + Nat.pow 2 255 * (x % 2))

/-- The point of a 32-byte form. The ordinate may exceed the field's size, and the parity bit is let
pass where the abscissa is zero. -/
def decode? (b : Bytes 32) : Option Point := do
  let n := b.toNat
  let y := n % Nat.pow 2 255 % fieldPrime
  let square := Field.mul y y
  let even ← Field.sqrtRatio (Field.sub square 1) (Field.add (Field.mul curveConstant square) 1)
  let x := if n / Nat.pow 2 255 = 1 then Field.neg even else even
  return ⟨x, y, 1, Field.mul x y⟩

end Point

end Ed25519

end Arbitration
