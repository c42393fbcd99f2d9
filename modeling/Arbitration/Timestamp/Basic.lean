import Arbitration.Amount

/-!
# Timestamps

A `Timestamp` is an instant in coordinated universal time within the calendar, which runs from
the year -262143 to the year 262142. Clock readings and deadlines are whole seconds; a timestamp
that was read from a record keeps the fraction it was written with, and a fraction of a second
or more stands for a leap second. Deadline arithmetic is checked: an instant past the end of the
calendar is an error.
-/

namespace Arbitration

/-- An instant. -/
structure Timestamp where
  /-- Whole seconds since 1 January 1970. -/
  seconds : Int
  /-- Nanoseconds beyond them, a billion or more within a leap second. -/
  nanos : Nat
  first_le : -8334601228800 ≤ seconds
  le_last : seconds ≤ 8210266876799
  nanos_lt : nanos < 2000000000
  deriving DecidableEq

namespace Timestamp

/-- The first second of the calendar. -/
def firstSecond : Int := -8334601228800

/-- The last second of the calendar. -/
def lastSecond : Int := 8210266876799

theorem ext {t u : Timestamp} (hs : t.seconds = u.seconds) (hn : t.nanos = u.nanos) : t = u := by
  cases t; cases u; cases hs; cases hn; rfl

/-- The instant with a count of seconds and nanoseconds, if the calendar has it. -/
def ofParts? (seconds : Int) (nanos : Nat) : Option Timestamp :=
  if h : firstSecond ≤ seconds ∧ seconds ≤ lastSecond ∧ nanos < 2000000000 then
    some ⟨seconds, nanos, h.1, h.2.1, h.2.2⟩
  else none

/-- The whole second with a number, if the calendar has it. -/
def ofEpoch? (seconds : Int) : Option Timestamp := ofParts? seconds 0

theorem ofParts?_eq_some_iff {seconds : Int} {nanos : Nat} {t : Timestamp} :
    ofParts? seconds nanos = some t ↔ t.seconds = seconds ∧ t.nanos = nanos := by
  unfold ofParts?
  split
  · simp only [Option.some.injEq]
    constructor
    · rintro rfl; exact ⟨rfl, rfl⟩
    · rintro ⟨hs, hn⟩; exact ext hs.symm hn.symm
  · rename_i h
    simp only [reduceCtorEq, false_iff]
    rintro ⟨rfl, rfl⟩
    exact h ⟨t.first_le, t.le_last, t.nanos_lt⟩

/-- Whether the instant is a whole second. -/
def isWhole (t : Timestamp) : Bool := t.nanos == 0

/-- The second in which the instant lies. -/
def truncate (t : Timestamp) : Timestamp := { t with nanos := 0, nanos_lt := by decide }

/-! ### Order -/

/-- Earlier or equal: by seconds, and within one by nanoseconds. -/
def le (t u : Timestamp) : Bool :=
  t.seconds < u.seconds || (t.seconds == u.seconds && t.nanos ≤ u.nanos)

instance : LE Timestamp := ⟨fun t u => t.le u = true⟩
instance : LT Timestamp := ⟨fun t u => ¬ u ≤ t⟩
instance (t u : Timestamp) : Decidable (t ≤ u) := inferInstanceAs (Decidable (t.le u = true))
instance (t u : Timestamp) : Decidable (t < u) := inferInstanceAs (Decidable (¬ u ≤ t))

theorem le_iff {t u : Timestamp} :
    t ≤ u ↔ t.seconds < u.seconds ∨ t.seconds = u.seconds ∧ t.nanos ≤ u.nanos := by
  show t.le u = true ↔ _
  simp [le]

theorem lt_iff {t u : Timestamp} :
    t < u ↔ t.seconds < u.seconds ∨ t.seconds = u.seconds ∧ t.nanos < u.nanos := by
  show ¬ u ≤ t ↔ _
  rw [le_iff]; omega

/-! ### Arithmetic -/

/-- The least number that 64 bits with a sign can hold. -/
def leastSigned : Int := -9223372036854775808

/-- The greatest one. -/
def greatestSigned : Int := 9223372036854775807

/-- A number that is held in 64 bits with a sign: where it cannot be, the nearest one that can. -/
def saturated (n : Int) : Int :=
  if n < leastSigned then leastSigned else if greatestSigned < n then greatestSigned else n

/-- The span of some seconds. It is counted in seconds and in milliseconds, and either number is
held in 64 bits with a sign. -/
def span? (secs : UInt64) : Option Int :=
  if greatestSigned < secs.toNat then none
  else if greatestSigned / 1000 < secs.toNat then none
  else some secs.toNat

/-- The nanoseconds that an instant keeps when it moves by some seconds: a leap second is left
behind. -/
def carriedNanos (t : Timestamp) (secs : UInt64) : Nat :=
  if 1000000000 ≤ t.nanos ∧ secs ≠ 0 then t.nanos - 1000000000 else t.nanos

/-- The instant `secs` seconds later. -/
def addSeconds (t : Timestamp) (secs : UInt64) : Except ArithmeticError Timestamp :=
  match (span? secs).bind fun span => ofParts? (t.seconds + span) (t.carriedNanos secs) with
  | some u => .ok u
  | none => .error .timestamp

/-- The seconds that lie between two instants, none if the first is not the later one. -/
def secondsSince (t earlier : Timestamp) : Nat := (saturated (t.seconds - earlier.seconds)).toNat

end Timestamp

end Arbitration
