import Arbitration.Json.Basic
import Arbitration.Yaml.Tag

/-!
# What scalars stand for

A plain scalar can be null, a truth value, a whole number or a fraction; otherwise it is a text.
Whole numbers may have a sign, and a letter after a zero gives another base than ten. Digits
after a leading zero make a text, not a number. A tag can demand one of these kinds, or that a
scalar be a text.
-/

namespace Arbitration

namespace Yaml

/-- Whether a text is a word for null. -/
def isNullWord (s : String) : Bool := ["~", "null", "Null", "NULL"].contains s

/-- Whether a text is a way to write null, which may be to write nothing. -/
def isNull (s : String) : Bool := s.isEmpty || isNullWord s

/-- The truth value that a text stands for. -/
def truth? (s : String) : Option Bool :=
  if ["true", "True", "TRUE"].contains s then some true
  else if ["false", "False", "FALSE"].contains s then some false
  else none

/-- The number of some digits in a base up to sixteen, of which there has to be one. -/
def numeral? (base : Nat) (cs : List Char) : Option Nat :=
  if cs.isEmpty then none
  else cs.foldlM (fun n c => (Text.hexValue c).bind fun v =>
    if v < base then some (base * n + v) else none) 0

/-- Whether a text is made of more than one digit and starts with a zero. -/
def hasLeadingZero (cs : List Char) : Bool :=
  match cs with
  | '0' :: rest => !rest.isEmpty && rest.all Char.isDigit
  | _ => false

/-- The number that a text without a sign stands for. -/
def magnitude? (cs : List Char) : Option Nat :=
  match cs with
  | '0' :: 'x' :: rest => numeral? 16 rest
  | '0' :: 'o' :: rest => numeral? 8 rest
  | '0' :: 'b' :: rest => numeral? 2 rest
  | _ => if hasLeadingZero cs then none else numeral? 10 cs

/-- A text without a plus sign at its front. -/
def dropPlus (cs : List Char) : List Char :=
  match cs with
  | '+' :: rest => rest
  | _ => cs

/-- The number that is not negative for which a text stands. -/
def natural? (s : String) : Option Nat := magnitude? (dropPlus s.toList)

/-- The size of the number after a minus sign. -/
def negative? (s : String) : Option Nat :=
  match s.toList with
  | '-' :: rest => magnitude? rest
  | _ => none

/-! ### Fractions -/

/-- Digits before a point, after it, and the exponent. -/
def decimalParts? (cs : List Char) : Option (List Char × List Char × Int) := do
  let (whole, rest) := cs.span Char.isDigit
  let (fraction, rest) :=
    match rest with
    | '.' :: after => after.span Char.isDigit
    | _ => ([], rest)
  if whole.isEmpty && fraction.isEmpty then none
  match rest with
  | [] => return (whole, fraction, 0)
  | mark :: rest =>
    if mark ≠ 'e' ∧ mark ≠ 'E' then none
    match rest with
    | '-' :: digits => return (whole, fraction, -(← numeral? 10 digits : Nat))
    | digits => return (whole, fraction, ← numeral? 10 (dropPlus digits))

/-- A text without the sign at its front. -/
def dropSign (cs : List Char) : List Char :=
  match cs with
  | '-' :: rest => rest
  | _ => dropPlus cs

/-- Whether `digits * 10 ^ exponent` is not too great to be held. -/
def isBounded (digits : Nat) (exponent : Int) : Bool :=
  let size := (Nat.toDigits 10 digits).length + exponent
  -- Powers of ten are computed only where the number of digits leaves the question open.
  if digits = 0 ∨ size ≤ 308 then true
  else if 309 < size then false
  else if exponent < 0 then (Magnitude.ofQuotient digits (Nat.pow 10 (-exponent).toNat)).isSome
  else (Magnitude.ofQuotient (digits * Nat.pow 10 exponent.toNat) 1).isSome

/-- Whether a text stands for a fraction that is not too great to be held. -/
def isFinite (s : String) : Bool :=
  (decimalParts? (dropSign s.toList)).any fun (whole, fraction, exponent) =>
    (numeral? 10 (whole ++ fraction)).any fun digits =>
      isBounded digits (exponent - fraction.length)

/-- Whether a text is a way to write an infinity, or what is not a number. -/
def isBeyondFinite (s : String) : Bool :=
  [".inf", ".Inf", ".INF"].contains (String.ofList (dropPlus s.toList)) ||
    ["-.inf", "-.Inf", "-.INF", ".nan", ".NaN", ".NAN"].contains s

/-- Whether a text stands for a fraction. -/
def isFraction (s : String) : Bool := isFinite s || isBeyondFinite s

/-! ### Meanings -/

/-- What a scalar stands for. -/
inductive Meaning where
  | null
  | truth (b : Bool)
  | natural (n : Nat)
  /-- A number after a minus sign. -/
  | negative (n : Nat)
  | fraction
  | text (s : String)
  deriving DecidableEq, Repr

namespace Meaning

/-- The whole number that a text stands for, if it has at most 128 bits, its sign among them
where it has one. -/
def whole? (s : String) : Option Meaning :=
  match natural? s, negative? s with
  | some n, _ => if n < Nat.pow 2 128 then some (natural n) else none
  | none, some n => if n ≤ Nat.pow 2 127 then some (negative n) else none
  | none, none => none

/-- What a plain scalar stands for. A whole number that is too great counts as a fraction. -/
def ofPlain (s : String) : Meaning :=
  if isNull s then null
  else
    match truth? s, whole? s with
    | some b, _ => truth b
    | none, some n => n
    | none, none =>
      if !hasLeadingZero (dropSign s.toList) && isFraction s then fraction else text s

/-- What a scalar under a tag stands for. A tag that belongs to its text can mean anything. -/
def ofTagged? (tag s : String) : Option Meaning :=
  if tag = Tag.boolean then (truth? s).map truth
  else if tag = Tag.integer then whole? s
  else if tag = Tag.fraction then if isFraction s then some fraction else none
  else if tag = Tag.null then if isNullWord s then some null else none
  else if Tag.isLocal tag then none
  else some (text s)

/-- Whether a meaning can be held before it is known what is asked for: whole numbers only if
they have at most 64 bits. -/
def isHeld : Meaning → Bool
  | natural n => n < Nat.pow 2 64
  | negative n => n ≤ Nat.pow 2 63
  | _ => true

/-- The JSON value for a meaning. There is none for a fraction, as nobody asks for one. -/
def json? : Meaning → Option Json
  | null => some .null
  | truth b => some (.bool b)
  | natural n => some (.nat n)
  | negative n => some (.int (-n))
  | fraction => none
  | text s => some (.str s)

end Meaning

end Yaml

end Arbitration
