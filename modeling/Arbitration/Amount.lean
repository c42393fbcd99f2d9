/-!
# Amounts and checked arithmetic

Every stake, fee, burn and payout is an `Amount`: a whole number of the ledger's unit below `2 ^
64`. The operations here either give the exact result or name the calculation that left the
range, so no value is created or lost by wrapping around. Scaling by a rate rounds down; a
caller that splits value accounts for the floored remainder itself.
-/

namespace Arbitration

/-- The calculations that are checked, named by what they compute. -/
inductive ArithmeticError where
  | amountSum
  | amountDifference
  | amountProduct
  | rateScaling
  | zeroParts
  | disputeId
  | timestamp
  | counterFee
  | burnRatio
  | cumulativeExtension
  | counterCount
  deriving DecidableEq, Repr

namespace ArithmeticError

/-- The phrase by which an error message names the calculation. -/
def subject : ArithmeticError → String
  | amountSum => "amount addition"
  | amountDifference => "amount subtraction"
  | amountProduct => "amount multiplication"
  | rateScaling => "basis-point scaling"
  | zeroParts => "split into zero parts"
  | disputeId => "dispute id"
  | timestamp => "timestamp"
  | counterFee => "counter fee exponent"
  | burnRatio => "burn ratio above 100%"
  | cumulativeExtension => "cumulative extension"
  | counterCount => "counter count"

/-- The error message of a calculation that left its range. -/
def message (e : ArithmeticError) : String :=
  "arithmetic overflow in " ++ e.subject

end ArithmeticError

/-- Rates are counted in basis points: `10 000` of them make the whole. -/
def wholeBps : Nat := 10000

/-- A quantity of the ledger's unit of account. -/
structure Amount where
  /-- The number of units. -/
  units : UInt64
  deriving DecidableEq, Repr

namespace Amount

/-- The number of units, without a bound. -/
def toNat (a : Amount) : Nat := a.units.toNat

/-- Nothing at all. -/
def zero : Amount := ⟨0⟩

instance : Inhabited Amount := ⟨zero⟩

/-- The amount of `n` units, if that many can be held. -/
def ofNat? (n : Nat) : Option Amount :=
  if h : n < UInt64.size then some ⟨UInt64.ofNatLT n h⟩ else none

theorem toNat_lt (a : Amount) : a.toNat < UInt64.size := a.units.toNat_lt

theorem toNat_inj {a b : Amount} : a.toNat = b.toNat ↔ a = b := by
  refine ⟨fun h => ?_, fun h => h ▸ rfl⟩
  cases a; cases b
  exact congrArg _ (UInt64.toNat_inj.1 h)

@[simp] theorem toNat_zero : zero.toNat = 0 := rfl

/-- The one law from which the results of all checked operations are read off. -/
theorem ofNat?_eq_some_iff {n : Nat} {a : Amount} : ofNat? n = some a ↔ a.toNat = n := by
  unfold ofNat?
  split
  · rename_i h
    constructor
    · rintro ⟨⟩; exact UInt64.toNat_ofNatLT
    · intro ha
      refine congrArg some (toNat_inj.1 ?_)
      exact UInt64.toNat_ofNatLT.trans ha.symm
  · rename_i h
    simp only [reduceCtorEq, false_iff]
    intro ha; exact h (ha ▸ a.toNat_lt)

theorem ofNat?_eq_none_iff {n : Nat} : ofNat? n = none ↔ UInt64.size ≤ n := by
  unfold ofNat?
  split <;> rename_i h
  · exact iff_of_false (by simp) (Nat.not_le.2 h)
  · exact iff_of_true rfl (Nat.not_lt.1 h)

@[simp] theorem ofNat?_toNat (a : Amount) : ofNat? a.toNat = some a :=
  ofNat?_eq_some_iff.2 rfl

instance : LE Amount := ⟨fun a b => a.toNat ≤ b.toNat⟩
instance : LT Amount := ⟨fun a b => a.toNat < b.toNat⟩
instance (a b : Amount) : Decidable (a ≤ b) := inferInstanceAs (Decidable (a.toNat ≤ b.toNat))
instance (a b : Amount) : Decidable (a < b) := inferInstanceAs (Decidable (a.toNat < b.toNat))

theorem le_iff {a b : Amount} : a ≤ b ↔ a.toNat ≤ b.toNat := Iff.rfl
theorem lt_iff {a b : Amount} : a < b ↔ a.toNat < b.toNat := Iff.rfl

/-- Whether there is nothing. -/
def isZero (a : Amount) : Bool := a == zero

/-- The units in decimal digits. -/
def text (a : Amount) : String := toString a.toNat

instance : ToString Amount := ⟨text⟩

/-! ### Checked operations -/

/-- The exact result `n` of a calculation, or the error that names it. -/
def checked (e : ArithmeticError) (n : Nat) : Except ArithmeticError Amount :=
  match ofNat? n with
  | some a => .ok a
  | none => .error e

theorem checked_eq_ok_iff {e : ArithmeticError} {n : Nat} {a : Amount} :
    checked e n = .ok a ↔ a.toNat = n := by
  unfold checked
  split
  · rename_i b hb
    rw [Except.ok.injEq, ← ofNat?_eq_some_iff, hb, Option.some.injEq]
  · rename_i hb
    simp only [reduceCtorEq, ← ofNat?_eq_some_iff, hb]

theorem checked_eq_error_iff {e e' : ArithmeticError} {n : Nat} :
    checked e n = .error e' ↔ UInt64.size ≤ n ∧ e = e' := by
  unfold checked
  split
  · rename_i b hb
    have hn := ofNat?_eq_some_iff.1 hb
    have hlt := b.toNat_lt
    exact iff_of_false (by simp) (by omega)
  · rename_i hb
    have hn := ofNat?_eq_none_iff.1 hb
    rw [Except.error.injEq]
    exact ⟨fun h => ⟨hn, h⟩, fun h => h.2⟩

/-- The sum of two amounts. -/
def add (a b : Amount) : Except ArithmeticError Amount :=
  checked .amountSum (a.toNat + b.toNat)

/-- What is left of `a` when `b` is taken away. -/
def sub (a b : Amount) : Except ArithmeticError Amount :=
  if b ≤ a then checked .amountDifference (a.toNat - b.toNat) else .error .amountDifference

/-- The product with a whole number. -/
def mul (a : Amount) (factor : UInt64) : Except ArithmeticError Amount :=
  checked .amountProduct (a.toNat * factor.toNat)

/-- The share of `a` at a rate in basis points, rounded down. The rate may exceed the whole. -/
def mulBps (a : Amount) (bps : UInt64) : Except ArithmeticError Amount :=
  checked .rateScaling (a.toNat * bps.toNat / wholeBps)

/-- Equal shares and the remainder that is left over. -/
def splitEven (a : Amount) (parts : UInt64) : Except ArithmeticError (Amount × Amount) :=
  if parts = 0 then .error .zeroParts else .ok (⟨a.units / parts⟩, ⟨a.units % parts⟩)

end Amount

end Arbitration
