import Arbitration.Proofs.Arithmetic
import Arbitration.Proofs.Tables

/-!
# What transfers do to balances

A transfer takes an amount from one account and gives it to another, which may be the same one.
`transferred_of_transfer` says so for every account at once, by one equation without subtraction
that stays right where source and target coincide. A `Move` is a transfer that an operation asks
for; one of nothing is skipped. What a list of moves does to an account is then read off the list:
`Moves.balance` adds up what it **takes** from the account and what it **gives** to it.
-/

namespace Arbitration

namespace Ledger

variable {l l' : Ledger} {source target : AccountId} {amount : Amount}

/-! ### One transfer -/

theorem balance_setBalance (l : Ledger) (a b : AccountId) (amount : Amount) :
    (l.setBalance a amount).balance b = if a = b then amount else l.balance b := by
  simp only [balance, setBalance, Table.get?_insert]
  split <;> rfl

/-- A balance as the quantity that the supply adds up. -/
private theorem toNat_balance (l : Ledger) (a : AccountId) :
    (l.balance a).toNat = ((Table.lookup a l.balances.entries).map Amount.toNat).getD 0 := by
  simp only [balance, Table.get?]
  cases Table.lookup a l.balances.entries <;> rfl

/-- Setting a balance changes the supply by the new balance less the old one. -/
theorem totalSupply_setBalance (l : Ledger) (a : AccountId) (amount : Amount) :
    (l.setBalance a amount).totalSupply + (l.balance a).toNat = l.totalSupply + amount.toNat := by
  rw [toNat_balance]
  exact Table.sumOf_put Amount.toNat a amount l.balances.entries

/-- Two accounts together hold no more than the supply. -/
theorem balance_add_balance_le (l : Ledger) {a b : AccountId} (h : a ≠ b) :
    (l.balance a).toNat + (l.balance b).toNat ≤ l.totalSupply := by
  rw [toNat_balance, toNat_balance]
  exact Table.lookup_add_lookup_le_sumOf Amount.toNat h l.balances.entries

/-- What a transfer that went through says: it was not refused, it was covered, and it gave the
target what it took from the source. -/
structure Transferred (l : Ledger) (source target : AccountId) (amount : Amount) (l' : Ledger) :
    Prop where
  accepted : l.refusedCredit ≠ some target
  covered : amount.toNat ≤ (l.balance source).toNat
  refusedCredit : l'.refusedCredit = l.refusedCredit
  balance : ∀ a, (l'.balance a).toNat + (if source = a then amount.toNat else 0) =
    (l.balance a).toNat + (if target = a then amount.toNat else 0)
  supply : l'.totalSupply = l.totalSupply

/-- Setting the source to what is left and the target to what it comes to moves the amount. -/
private theorem balance_debit_credit {debited credited : Amount} (hne : source ≠ target)
    (hdebit : debited.toNat + amount.toNat = (l.balance source).toNat)
    (hcredit : credited.toNat = (l.balance target).toNat + amount.toNat) (a : AccountId) :
    (((l.setBalance source debited).setBalance target credited).balance a).toNat +
        (if source = a then amount.toNat else 0) =
      (l.balance a).toNat + (if target = a then amount.toNat else 0) := by
  rw [balance_setBalance, balance_setBalance]
  by_cases ht : target = a
  · subst ht
    rw [if_pos rfl, if_pos rfl, if_neg hne]
    omega
  · rw [if_neg ht, if_neg ht]
    by_cases hs : source = a
    · subst hs
      rw [if_pos rfl, if_pos rfl]
      omega
    · rw [if_neg hs, if_neg hs]

private theorem totalSupply_debit_credit {debited credited : Amount} (hne : source ≠ target)
    (hdebit : debited.toNat + amount.toNat = (l.balance source).toNat)
    (hcredit : credited.toNat = (l.balance target).toNat + amount.toNat) :
    ((l.setBalance source debited).setBalance target credited).totalSupply = l.totalSupply := by
  have hfirst := totalSupply_setBalance l source debited
  have hsecond := totalSupply_setBalance (l.setBalance source debited) target credited
  rw [balance_setBalance, if_neg hne] at hsecond
  omega

theorem transferred_of_transfer (h : l.transfer source target amount = .ok l') :
    l.Transferred source target amount l' := by
  unfold transfer at h
  split at h
  · cases h
  · rename_i hrefused
    split at h
    · cases h
    · rename_i debited hdebit
      rw [Amount.sub_eq_ok_iff] at hdebit
      split at h
      · -- to itself: the balance is checked but not touched
        rename_i hself
        cases h
        exact ⟨hrefused, by omega, rfl, fun a => by rw [hself]; rfl, rfl⟩
      · rename_i hne
        split at h
        · cases h
        · rename_i credited hcredit
          rw [Amount.add_eq_ok_iff] at hcredit
          cases h
          exact ⟨hrefused, by omega, rfl, balance_debit_credit hne hdebit hcredit,
            totalSupply_debit_credit hne hdebit hcredit⟩

/-- A transfer goes through if it is not refused, is covered and does not leave the range. -/
theorem exists_transfer (haccepted : l.refusedCredit ≠ some target)
    (hcovered : amount.toNat ≤ (l.balance source).toNat)
    (hroom : source ≠ target → (l.balance target).toNat + amount.toNat < UInt64.size) :
    ∃ l', l.transfer source target amount = .ok l' := by
  obtain ⟨debited, hdebit⟩ := Amount.exists_sub hcovered
  simp only [transfer, if_neg haccepted, hdebit]
  by_cases hself : source = target
  · simp [hself]
  · obtain ⟨credited, hcredit⟩ := Amount.exists_add (hroom hself)
    simp [hself, hcredit]

/-- Where the supply is in range, every covered transfer that is not refused goes through. -/
theorem exists_transfer_of_supply (haccepted : l.refusedCredit ≠ some target)
    (hcovered : amount.toNat ≤ (l.balance source).toNat) (hsupply : l.totalSupply < UInt64.size) :
    ∃ l', l.transfer source target amount = .ok l' := by
  -- the target's new balance is at most what both accounts hold now
  refine exists_transfer haccepted hcovered fun hne => ?_
  have := l.balance_add_balance_le hne
  omega

end Ledger

/-! ### Lists of moves -/

/-- A transfer that an operation asks for. -/
structure Move where
  source : AccountId
  target : AccountId
  amount : Amount
  deriving DecidableEq, Repr

/-- What some moves take from an account. -/
def taken (a : AccountId) (ms : List Move) : Nat :=
  sumOf (fun m => if m.source = a then m.amount.toNat else 0) ms

/-- What some moves give to an account. -/
def given (a : AccountId) (ms : List Move) : Nat :=
  sumOf (fun m => if m.target = a then m.amount.toNat else 0) ms

section Amounts

variable {a : AccountId} {m : Move} {ms : List Move}

@[simp] theorem taken_nil : taken a [] = 0 := rfl

@[simp] theorem given_nil : given a [] = 0 := rfl

theorem taken_cons :
    taken a (m :: ms) = (if m.source = a then m.amount.toNat else 0) + taken a ms :=
  rfl

theorem given_cons :
    given a (m :: ms) = (if m.target = a then m.amount.toNat else 0) + given a ms :=
  rfl

theorem taken_append (a : AccountId) (ms₁ ms₂ : List Move) :
    taken a (ms₁ ++ ms₂) = taken a ms₁ + taken a ms₂ := sumOf_append ..

theorem given_append (a : AccountId) (ms₁ ms₂ : List Move) :
    given a (ms₁ ++ ms₂) = given a ms₁ + given a ms₂ := sumOf_append ..

end Amounts

namespace Ledger

/-- A move carried out: nothing happens if there is nothing to move. -/
def Moved (l : Ledger) (m : Move) (l' : Ledger) : Prop :=
  if m.amount.isZero then l' = l else l.transfer m.source m.target m.amount = .ok l'

/-- Some moves carried out in order. -/
inductive Moves : Ledger → List Move → Ledger → Prop
  | nil {l} : Moves l [] l
  | snoc {l ms l₁ m l'} : Moves l ms l₁ → Moved l₁ m l' → Moves l (ms ++ [m]) l'

/-- Some moves can be carried out, but the one after them cannot. -/
def Refuses (l : Ledger) (done : List Move) (m : Move) (err : LedgerError) : Prop :=
  ∃ l', l.Moves done l' ∧ l'.transfer m.source m.target m.amount = .error err

variable {l l' : Ledger} {m : Move} {ms : List Move}

theorem Moved.balance (h : l.Moved m l') (a : AccountId) :
    (l'.balance a).toNat + (if m.source = a then m.amount.toNat else 0) =
      (l.balance a).toNat + (if m.target = a then m.amount.toNat else 0) := by
  unfold Moved at h
  split at h
  · rename_i hz
    rw [h, Amount.isZero_iff.1 hz]
    simp
  · exact (transferred_of_transfer h).balance a

theorem Moved.supply (h : l.Moved m l') : l'.totalSupply = l.totalSupply := by
  unfold Moved at h
  split at h
  · rw [h]
  · exact (transferred_of_transfer h).supply

theorem Moved.refusedCredit (h : l.Moved m l') : l'.refusedCredit = l.refusedCredit := by
  unfold Moved at h
  split at h
  · rw [h]
  · exact (transferred_of_transfer h).refusedCredit

theorem moved_of_isZero (h : m.amount.isZero = true) : l.Moved m l := by
  rw [Moved, if_pos h]

/-- An account ends with what it had and was given, less what was taken from it. -/
theorem Moves.balance (h : l.Moves ms l') (a : AccountId) :
    (l'.balance a).toNat + taken a ms = (l.balance a).toNat + given a ms := by
  induction h with
  | nil => rfl
  | snoc _ hm ih =>
    have := hm.balance a
    simp only [taken, given, sumOf_append, sumOf_cons, sumOf_nil] at ih this ⊢
    omega

theorem Moves.supply (h : l.Moves ms l') : l'.totalSupply = l.totalSupply := by
  induction h with
  | nil => rfl
  | snoc _ hm ih => rw [hm.supply, ih]

theorem Moves.refusedCredit (h : l.Moves ms l') : l'.refusedCredit = l.refusedCredit := by
  induction h with
  | nil => rfl
  | snoc _ hm ih => rw [hm.refusedCredit, ih]

/-- Where the supply is in range and no credits are refused, a move is carried out if the source
holds enough by then. -/
theorem not_refuses {err : LedgerError} (haccepted : l.refusedCredit = none)
    (hsupply : l.totalSupply < UInt64.size)
    (hcovered : m.amount.toNat + taken m.source ms ≤
      (l.balance m.source).toNat + given m.source ms) : ¬ l.Refuses ms m err := by
  rintro ⟨l', hmoves, hrefused⟩
  have hbalance := hmoves.balance m.source
  have hfunded : m.amount.toNat ≤ (l'.balance m.source).toNat := by omega
  have hopen : l'.refusedCredit ≠ some m.target := by
    rw [hmoves.refusedCredit, haccepted]
    exact nofun
  obtain ⟨l'', hdone⟩ := exists_transfer_of_supply hopen hfunded (hmoves.supply ▸ hsupply)
  rw [hdone] at hrefused
  cases hrefused

/-- There a move is refused only because the source holds too little. -/
theorem Refuses.insufficient {err : LedgerError} (h : l.Refuses ms m err)
    (haccepted : l.refusedCredit = none) (hsupply : l.totalSupply < UInt64.size) :
    ∃ balance, balance < m.amount ∧ err = .insufficientFunds m.source balance m.amount := by
  obtain ⟨l', hmoves, hrefused⟩ := h
  have hopen : l'.refusedCredit ≠ some m.target := by
    rw [hmoves.refusedCredit, haccepted]
    exact nofun
  by_cases hfunded : m.amount.toNat ≤ (l'.balance m.source).toNat
  · obtain ⟨l'', hdone⟩ := exists_transfer_of_supply hopen hfunded (hmoves.supply ▸ hsupply)
    rw [hdone] at hrefused
    cases hrefused
  · refine ⟨l'.balance m.source, Amount.lt_iff.2 (Nat.not_le.1 hfunded), ?_⟩
    have hshort : ∀ debited, (l'.balance m.source).sub m.amount ≠ .ok debited := by
      intro debited hdebited
      have := Amount.sub_eq_ok_iff.1 hdebited
      omega
    rw [transfer, if_neg hopen] at hrefused
    split at hrefused
    · exact (Except.error.inj hrefused).symm
    · rename_i debited hdebited
      exact absurd hdebited (hshort debited)

end Ledger

end Arbitration
