import Arbitration.Proofs.Operations

/-!
# The accounts that hold value for disputes

Three accounts of the protocol hold value on behalf of single disputes: escrow, the defense fund
and the incentive earmark. Each is a `Pot`, and each record says what its **share** of a pot is.
An operation keeps the pots right if it is `Balanced`: what its moves give to a pot and take from
it makes up for the change of the one record that it writes. With the default accounts no pot
coincides with another one, with the reserve, with the sinks, or with the account of a party.
-/

namespace Arbitration

theorem AccountId.isSystem_system (name : String) : (AccountId.system name).isSystem = true := by
  simp [system, isSystem, hasSystemMark, systemMark]

/-- An account that holds value for disputes. -/
inductive Pot where
  | escrow
  | defenseFund
  | incentiveEarmark
  deriving DecidableEq, Repr

namespace Pot

/-- The account of a pot. -/
def account (accounts : SystemAccounts) : Pot → AccountId
  | escrow => accounts.escrow
  | defenseFund => accounts.defenseFund
  | incentiveEarmark => accounts.incentiveEarmark

/-- What a pot holds for a dispute: the stakes, the subsidy until it is part of a stake, and the
incentive set aside; nothing once the dispute is resolved. -/
def share (d : Dispute) : Pot → Nat
  | escrow => if d.resolved then 0 else d.initiatorStake.toNat + d.counterpartyStake.toNat
  | defenseFund => if d.resolved || d.fullyStaked then 0 else d.subsidy.toNat
  | incentiveEarmark => if d.resolved then 0 else d.earmarkedIncentive.toNat

theorem share_of_resolved {d : Dispute} (h : d.resolved = true) (p : Pot) : p.share d = 0 := by
  cases p <;> simp [share, h]

end Pot

/-- The protocol's accounts and the reserve are the ones it uses if it is told no others. -/
structure Engine.Standard (e : Engine) : Prop where
  accounts : e.accounts = .default
  reserve : e.treasury.reserve = ({} : Treasury).reserve

namespace Engine.Standard

variable {e : Engine} (h : e.Standard) (p : Pot)

include h

/-- No two pots are one account. -/
theorem account_inj (q : Pot) : q.account e.accounts = p.account e.accounts ↔ p = q := by
  rw [h.accounts]
  cases p <;> cases q <;> simp [Pot.account, SystemAccounts.default, AccountId.system]

theorem escrow_iff : e.accounts.escrow = p.account e.accounts ↔ p = .escrow :=
  h.account_inj p .escrow

theorem defenseFund_iff : e.accounts.defenseFund = p.account e.accounts ↔ p = .defenseFund :=
  h.account_inj p .defenseFund

theorem incentiveEarmark_iff :
    e.accounts.incentiveEarmark = p.account e.accounts ↔ p = .incentiveEarmark :=
  h.account_inj p .incentiveEarmark

theorem burnSink_ne : e.accounts.burnSink ≠ p.account e.accounts := by
  rw [h.accounts]
  cases p <;> simp [Pot.account, SystemAccounts.default, AccountId.system]

theorem feePool_ne : e.accounts.feePool ≠ p.account e.accounts := by
  rw [h.accounts]
  cases p <;> simp [Pot.account, SystemAccounts.default, AccountId.system]

theorem reserve_ne : e.treasury.reserve ≠ p.account e.accounts := by
  rw [h.accounts, h.reserve]
  cases p <;> simp [Pot.account, SystemAccounts.default, AccountId.system]

/-- The account of a party is no pot. -/
theorem outside_ne {a : AccountId} (ha : a.isSystem = false) : a ≠ p.account e.accounts := by
  rintro rfl
  rw [h.accounts] at ha
  cases p <;> exact absurd ha (by simp [Pot.account, SystemAccounts.default,
    AccountId.isSystem_system])

/-- None of the protocol's accounts is the account of a party. -/
theorem protocol_ne {a : AccountId} (ha : a.isSystem = false) :
    e.accounts.escrow ≠ a ∧ e.accounts.defenseFund ≠ a ∧ e.accounts.incentiveEarmark ≠ a ∧
      e.accounts.burnSink ≠ a ∧ e.accounts.feePool ≠ a ∧ e.treasury.reserve ≠ a := by
  have hne : ∀ b : AccountId, b.isSystem = true → b ≠ a := by
    rintro b hb rfl
    rw [ha] at hb
    cases hb
  rw [h.accounts, h.reserve]
  simp only [SystemAccounts.default]
  exact ⟨hne _ (AccountId.isSystem_system _), hne _ (AccountId.isSystem_system _),
    hne _ (AccountId.isSystem_system _), hne _ (AccountId.isSystem_system _),
    hne _ (AccountId.isSystem_system _), hne _ (AccountId.isSystem_system _)⟩

end Engine.Standard

/-- The moves of an operation make up for the record that it writes. -/
def Balanced (e : Engine) (moves : List Move) (next : Dispute) : Prop :=
  ∀ p : Pot, given (p.account e.accounts) moves +
      ((e.store.get? next.id).map fun d => p.share d).getD 0 =
    taken (p.account e.accounts) moves + p.share next

/-- Every pot holds exactly the shares of all records. -/
def Engine.Custody (e : Engine) : Prop :=
  ∀ p : Pot, (e.ledger.balance (p.account e.accounts)).toNat = e.store.total fun d => p.share d

/-- **One step.** A balanced operation keeps the pots right. -/
theorem Engine.Custody.having {e : Engine} {f : Footprint} {ledger : Ledger} {w : StoreWrite}
    (h : e.Custody) (hmoves : e.ledger.Moves f.moves ledger)
    (hwritten : e.store.write w = .ok f.store) (hbalanced : Balanced e f.moves w.record) :
    (e.having f ledger).Custody := by
  intro p
  have hpot := h p
  have hledger := hmoves.balance (p.account e.accounts)
  have hstore := Store.total_of_write (fun d => p.share d) hwritten
  have hmakes := hbalanced p
  show (ledger.balance (p.account e.accounts)).toNat = f.store.total fun d => p.share d
  omega

end Arbitration
