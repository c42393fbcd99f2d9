import Arbitration.Proofs.Evolution
import Arbitration.Proofs.Faults

/-!
# What a refused compensation costs

A resolution pays before it marks the record. If it fails in between, the payments are taken back by
transfers into escrow, and where the ledger refuses these the dispute has been paid **and is still
open**: it can be enforced again, at the cost of the other stakes in escrow. So nothing bounds what
one dispute draws from escrow by its own stakes, unless what was left outside is counted too.

`Undo.allMissing` counts it: the transfers that took from an account and were not taken back.
Whatever is refused, a failed operation costs an account no more than that (`Trail.le_balance`, one
induction along the trail). `escrow_pays_stakes_and_stranded` follows for every run: a dispute draws
its stakes once, when it is resolved, and beyond that only what refused compensations left outside.
-/

namespace Arbitration

/-! ### What is not taken back -/

namespace Undo

/-- What an account misses if the effect is not taken back. -/
def missing (account : AccountId) (e : Engine) : Undo → Nat
  | transfer source target amount =>
    match e.ledger.transfer target source amount with
    | .ok _ => 0
    | .error _ => if source = account then amount.toNat else 0
  | freeze _ | unfreeze _ _ | harassment _ | record _ => 0

/-- What an account misses once the effects are taken back in order, as far as they can be. -/
def allMissing (account : AccountId) (e : Engine) : List Undo → Nat
  | [] => 0
  | u :: rest => u.missing account e + allMissing account (u.apply e) rest

/-- Nothing is missing where nothing is refused. -/
theorem allMissing_eq_zero {account : AccountId} {e : Engine} {journal : List Undo}
    (h : allAccepted e journal = true) : allMissing account e journal = 0 := by
  induction journal generalizing e with
  | nil => rfl
  | cons u rest ih =>
    obtain ⟨hfirst, hrest⟩ := Bool.and_eq_true_iff.1 h
    have hnone : u.missing account e = 0 := by
      cases u with
      | transfer source target amount =>
        obtain ⟨ledger, hdone⟩ := isOk_iff.1 hfirst
        rw [missing, hdone]
      | _ => rfl
    rw [allMissing, hnone, ih hrest]

end Undo

section Trail

variable {start e e₁ e' : Engine} {issued : Undo → Prop} {u : Undo} {journal : List Undo}
  {account : AccountId} {k : Nat}

/-- One effect: an engine that is short by some amount is not short by more when it was taken back,
but for what is missing. -/
theorem Reversible.le_balance (h : Reversible start e u e₁)
    (hle : (e₁.ledger.balance account).toNat ≤ (e'.ledger.balance account).toNat + k) :
    (e.ledger.balance account).toNat ≤
      ((u.apply e').ledger.balance account).toNat + (u.missing account e' + k) := by
  cases h with
  | @transfer source target amount ledger done =>
    have hthere := (Ledger.transferred_of_transfer done).balance account
    change (ledger.balance account).toNat ≤ _ at hle
    show _ ≤ ((orElseKeep e'.ledger (e'.ledger.transfer target source amount)).balance
      account).toNat + _
    rw [Undo.missing]
    cases hback : e'.ledger.transfer target source amount with
    | ok ledger' =>
      have hagain := (Ledger.transferred_of_transfer hback).balance account
      show _ ≤ (ledger'.balance account).toNat + (0 + k)
      omega
    | error err =>
      show _ ≤ (e'.ledger.balance account).toNat + ((if source = account then _ else 0) + k)
      omega
  | _ =>
    simp only [Undo.missing, Nat.zero_add]
    exact hle

/-- **The whole trail**, for every engine that is short by some amount at its end. -/
theorem Trail.le_balance (h : Trail start issued journal e)
    (hle : (e.ledger.balance account).toNat ≤ (e'.ledger.balance account).toNat + k) :
    (start.ledger.balance account).toNat ≤
      ((journal.foldl Undo.apply e').ledger.balance account).toNat +
        (Undo.allMissing account e' journal + k) := by
  induction h generalizing e' k with
  | start =>
    rw [Undo.allMissing, Nat.zero_add]
    exact hle
  | @effect journal e e₁ u _ _ last ih =>
    have hrest := ih (last.le_balance hle)
    rw [Undo.allMissing]
    show _ ≤ ((journal.foldl Undo.apply (u.apply e')).ledger.balance account).toNat + _
    omega

end Trail

/-! ### Calls and runs -/

namespace Engine

/-- What escrow holds. -/
def escrowed (e : Engine) : Nat := (e.ledger.balance e.accounts.escrow).toNat

/-- What an operation takes out of escrow on balance, whether it succeeds or fails. -/
def drains (e : Engine) (op : Operation) : Nat := e.escrowed - (e.perform op).2.escrowed

/-- What an operation brings into escrow on balance. -/
def fills (e : Engine) (op : Operation) : Nat := (e.perform op).2.escrowed - e.escrowed

/-- What an operation leaves outside of escrow because compensations are refused. -/
def strands (e : Engine) (op : Operation) : Nat :=
  match e.stop op with
  | none => 0
  | some s => Undo.allMissing e.accounts.escrow s.engine s.journal

/-- A quantity of the calls in some turns, added up. -/
def sumCalls (q : Engine → Operation → Nat) (e : Engine) : List Turn → Nat
  | [] => 0
  | .call op :: rest => q e op + ((e.perform op).2).sumCalls q rest
  | .clock now :: rest => (e.setClock now).sumCalls q rest
  | .switch switches :: rest => (e.setSwitches switches).sumCalls q rest

/-- The part of a quantity that belongs to one dispute: the one that a call names or opens. -/
def ofDispute (id : DisputeId) (q : Engine → Operation → Nat) (e : Engine) (op : Operation) : Nat :=
  if op.dispute e = id then q e op else 0

end Engine

/-! ### What the records say -/

namespace Dispute

/-- What a dispute may have drawn from escrow: its stakes, once it is resolved. -/
def paid (d : Dispute) : Nat := if d.resolved then d.stakes else 0

theorem share_add_paid (d : Dispute) : Pot.escrow.share d + d.paid = d.stakes := by
  cases hresolved : d.resolved <;> simp [Pot.share, paid, stakes, hresolved]

end Dispute

namespace Engine

/-- A quantity of a dispute, nothing if there is no such dispute. -/
def ofRecord (q : Dispute → Nat) (e : Engine) (id : DisputeId) : Nat :=
  ((e.store.get? id).map q).getD 0

theorem ofRecord_share_add_paid (e : Engine) (id : DisputeId) :
    e.ofRecord (fun d => Pot.escrow.share d) id + e.ofRecord Dispute.paid id =
      e.ofRecord Dispute.stakes id := by
  unfold ofRecord
  cases e.store.get? id with
  | none => rfl
  | some d => exact d.share_add_paid

namespace Writes

variable {e : Engine} {op : Operation} {f : Footprint} {w : StoreWrite} {id : DisputeId}

/-- What the records say after a successful operation. -/
theorem ofRecord_having (hw : e.Writes op f w) (ledger : Ledger) (q : Dispute → Nat) :
    (e.having f ledger).ofRecord q id =
      if op.dispute e = id then q w.record else e.ofRecord q id := by
  show ((f.store.get? id).map q).getD 0 = _
  rw [Store.get?_of_write hw.written, hw.number]
  split <;> rfl

/-- A dispute that stays open has drawn nothing so far. -/
theorem paid_before (hw : e.Writes op f w) (hopen : w.record.resolved = false) :
    e.ofRecord Dispute.paid (op.dispute e) = 0 := by
  rw [← hw.number, ofRecord]
  cases hget : e.store.get? w.record.id with
  | none => rfl
  | some d =>
    refine if_neg fun hresolved => ?_
    rw [hw.latched d hget hresolved] at hopen
    cases hopen

/-- A dispute that is over keeps its stakes. -/
theorem stakes_before (hw : e.Writes op f w) (hresolved : w.record.resolved = true) :
    e.ofRecord Dispute.stakes (op.dispute e) = w.record.stakes := by
  obtain ⟨d, hget, hstakes⟩ := hw.settled hresolved
  rw [← hw.number, ofRecord, hget, hstakes]
  rfl

/-- What a successful operation draws from escrow is the stakes of a dispute that it resolves, and
what it adds to the stakes it brings. -/
theorem books (hw : e.Writes op f w) :
    taken e.accounts.escrow f.moves - given e.accounts.escrow f.moves +
        e.ofRecord Dispute.paid (op.dispute e) ≤ w.record.paid ∧
      w.record.stakes ≤ e.ofRecord Dispute.stakes (op.dispute e) +
        (given e.accounts.escrow f.moves - taken e.accounts.escrow f.moves) := by
  have hbefore := e.ofRecord_share_add_paid (op.dispute e)
  have hafter := w.record.share_add_paid
  have hbalanced := hw.balanced
  rw [hw.number] at hbalanced
  change _ + e.ofRecord (fun d => Pot.escrow.share d) (op.dispute e) = _ at hbalanced
  cases hresolved : w.record.resolved with
  | false =>
    -- nothing is taken, and what is given adds to the stakes
    have htaken : taken e.accounts.escrow f.moves = 0 := by
      rcases hw.oneWay with htaken | ⟨-, hover⟩
      · exact htaken
      · rw [hresolved] at hover
        cases hover
    have hpaid := hw.paid_before hresolved
    have hopen : w.record.paid = 0 := if_neg (Bool.eq_false_iff.1 hresolved)
    omega
  | true =>
    -- the share is paid out, and the stakes stay
    have hshare : Pot.escrow.share w.record = 0 := Pot.share_of_resolved hresolved _
    have hstakes := hw.stakes_before hresolved
    rcases hw.oneWay with htaken | ⟨hgiven, -⟩ <;> omega

end Writes

/-! ### One call -/

namespace Intact

variable {e e' : Engine} {op : Operation} {f : Footprint} {err : DisputeError}

/-- A failed operation leaves in escrow what it found, but for what it strands. -/
theorem escrowed_le_of_error (h : e.Intact) (hfailed : e.perform op = (.error err, e')) :
    e.escrowed ≤ e'.escrowed + e.strands op := by
  obtain ⟨s, hstop, ⟨htrail, -⟩, hrollback⟩ := perform_error h.keyed hfailed
  have hle : e.escrowed ≤ (s.rollback.ledger.balance e.accounts.escrow).toNat +
      (Undo.allMissing e.accounts.escrow s.engine s.journal + 0) :=
    htrail.le_balance (Nat.le_refl _)
  show e.escrowed ≤ (e'.ledger.balance e'.accounts.escrow).toNat + e.strands op
  rw [strands, hstop, (aligned_of_error h.keyed hfailed).accounts, ← hrollback]
  exact hle

end Intact

/-- How the books of escrow go on from one state to another, while for one dispute some amounts are
drained, filled in and stranded, and some amount is stranded altogether. -/
structure Reckons (id : DisputeId) (e e' : Engine) (drained filled stranded lost : Nat) : Prop where
  drains : drained + e.ofRecord Dispute.paid id ≤ e'.ofRecord Dispute.paid id + stranded
  fills : e'.ofRecord Dispute.stakes id ≤ e.ofRecord Dispute.stakes id + filled
  covers : e'.store.total (fun d => Pot.escrow.share d) + e.escrowed ≤
    e.store.total (fun d => Pot.escrow.share d) + e'.escrowed + lost

theorem Reckons.trans {id : DisputeId} {e e' e'' : Engine} {drained filled stranded lost drained'
    filled' stranded' lost' : Nat} (h : Reckons id e e' drained filled stranded lost)
    (h' : Reckons id e' e'' drained' filled' stranded' lost') :
    Reckons id e e'' (drained + drained') (filled + filled') (stranded + stranded')
      (lost + lost') := by
  obtain ⟨hdrains, hfills, hcovers⟩ := h
  obtain ⟨hdrains', hfills', hcovers'⟩ := h'
  exact ⟨by omega, by omega, by omega⟩

/-- **One call**, whether it succeeds or fails: what it draws from escrow for a dispute is due to a
resolution or to a refusal, and what the dispute has staked came into escrow. -/
theorem Intact.reckons_call {e : Engine} (h : e.Intact) (op : Operation) (id : DisputeId) :
    Reckons id e (e.perform op).2 (ofDispute id Engine.drains e op)
      (ofDispute id Engine.fills e op) (ofDispute id Engine.strands e op) (e.strands op) := by
  unfold ofDispute Engine.drains Engine.fills
  rcases hdone : e.perform op with ⟨err | answer, e'⟩
  · -- the records are as before, and what is drawn is stranded
    have hstore := store_of_error h.keyed hdone
    have hle := h.escrowed_le_of_error hdone
    have hsame : ∀ q, e'.ofRecord q id = e.ofRecord q id := fun q => by
      rw [ofRecord, hstore, ofRecord]
    dsimp only
    refine ⟨?_, ?_, ?_⟩
    · rw [hsame]
      split <;> omega
    · rw [hsame]
      exact Nat.le_add_right _ _
    · rw [hstore]
      omega
  · obtain ⟨f, ledger, hsucceeds, hmoves, rfl⟩ := perform_ok h.keyed hdone
    obtain ⟨w, hw⟩ := h.exists_writes hsucceeds
    obtain ⟨hdrawn, hbrought⟩ := hw.books
    have hescrow : (e.having f ledger).escrowed + taken e.accounts.escrow f.moves =
        e.escrowed + given e.accounts.escrow f.moves := hmoves.balance e.accounts.escrow
    dsimp only
    refine ⟨?_, ?_, ?_⟩
    · rw [hw.ofRecord_having]
      split
      · rename_i hid
        subst hid
        omega
      · omega
    · rw [hw.ofRecord_having]
      split
      · rename_i hid
        subst hid
        omega
      · omega
    · have htotal := Store.total_of_write (fun d => Pot.escrow.share d) hw.written
      have hbalanced := hw.balanced
      show f.store.total _ + _ ≤ _
      omega

/-- **A whole run**, call by call. -/
theorem Intact.reckons_run {e : Engine} (h : e.Intact) (turns : List Turn) (id : DisputeId) :
    Reckons id e (e.run turns) (e.sumCalls (ofDispute id Engine.drains) turns)
      (e.sumCalls (ofDispute id Engine.fills) turns)
      (e.sumCalls (ofDispute id Engine.strands) turns) (e.sumCalls Engine.strands turns) := by
  induction turns generalizing e with
  | nil => exact ⟨Nat.le_of_eq (Nat.zero_add _), Nat.le_refl _, Nat.le_refl _⟩
  | cons s rest ih =>
    have hrest := ih (h.step s)
    cases s with
    -- the clock and the switches are neither in the records nor in a balance
    | clock now => exact ⟨hrest.drains, hrest.fills, hrest.covers⟩
    | switch switches => exact ⟨hrest.drains, hrest.fills, hrest.covers⟩
    | call op => exact (h.reckons_call op id).trans hrest

/-- A clean run strands nothing. -/
theorem sumCalls_strands_of_clean {e : Engine} {turns : List Turn}
    (hclean : e.runsCleanly turns = true) : e.sumCalls Engine.strands turns = 0 := by
  induction turns generalizing e with
  | nil => rfl
  | cons s rest ih =>
    obtain ⟨hfirst, hrest⟩ := Bool.and_eq_true_iff.1 hclean
    cases s with
    | clock now => exact ih hrest
    | switch switches => exact ih hrest
    | call op =>
      have hnone : e.strands op = 0 := by
        change e.takesBack op = true at hfirst
        unfold strands
        unfold takesBack at hfirst
        split
        · rfl
        · rename_i s hstop
          rw [hstop] at hfirst
          exact Undo.allMissing_eq_zero hfirst
      rw [sumCalls, hnone, Nat.zero_add]
      exact ih hrest

end Engine

/-- **What one dispute draws from escrow**, in every run from a fresh engine, whatever the parts are
made to refuse. All operations that name or open it together take out of it no more than its stakes,
and these only once it is resolved, besides what its failed operations could not take back because
transfers into escrow were refused. The stakes on its record all came into escrow through its own
operations. And escrow falls short of the stakes of all open disputes by no more than what all
operations together could not take back; in a clean run that is nothing. -/
theorem escrow_pays_stakes_and_stranded {start : Engine} (turns : List Turn) (h : start.Fresh) :
    (∀ id, start.sumCalls (Engine.ofDispute id Engine.drains) turns ≤
        (start.run turns).ofRecord Dispute.paid id +
          start.sumCalls (Engine.ofDispute id Engine.strands) turns) ∧
      (∀ id, (start.run turns).ofRecord Dispute.stakes id ≤
        start.sumCalls (Engine.ofDispute id Engine.fills) turns) ∧
      (start.run turns).store.total (fun d => Pot.escrow.share d) ≤
        (start.run turns).escrowed + start.sumCalls Engine.strands turns ∧
      (start.runsCleanly turns = true → start.sumCalls Engine.strands turns = 0) := by
  have hempty : ∀ q id, start.ofRecord q id = 0 := by
    obtain ⟨-, -, -, -, hstore, -⟩ := h.parts
    intro q id
    rw [Engine.ofRecord, hstore]
    rfl
  have hnone : start.store.total (fun d => Pot.escrow.share d) = 0 := by
    obtain ⟨-, -, -, -, hstore, -⟩ := h.parts
    rw [hstore]
    rfl
  have hrun := h.intact.reckons_run turns
  refine ⟨fun id => ?_, fun id => ?_, ?_, Engine.sumCalls_strands_of_clean⟩
  · have hdrains := (hrun id).drains
    rw [hempty] at hdrains
    exact hdrains
  · have hfills := (hrun id).fills
    rw [hempty, Nat.zero_add] at hfills
    exact hfills
  · have hcovers := (hrun .first).covers
    omega

namespace Sample

/-- Alice and Bob file against each other, and neither answers. When Alice enforces her filing, the
release of her asset fails, and escrow does not take her stake back. Then she enforces it again. -/
def stranding : List Turn :=
  [.call (.initiate alice filing), .call (.initiate bob returnFiling), .clock windowClosed,
    .switch { refusedCredit := some SystemAccounts.default.escrow,
              registry := { unfreeze := true } },
    .call (.enforce alice .first), .switch {}, .call (.enforce alice .first)]

end Sample

/-- Her stake of one hundred is paid out twice: the second time it is Bob's, whose filing is open
and has nothing left in escrow. -/
theorem stranded_stake_is_paid_again :
    Sample.engine.Fresh ∧
      Sample.engine.sumCalls (Engine.ofDispute .first Engine.fills) Sample.stranding = 100 ∧
      Sample.engine.sumCalls (Engine.ofDispute .first Engine.drains) Sample.stranding = 200 ∧
      (Sample.engine.run Sample.stranding).ofRecord Dispute.stakes .first = 100 ∧
      (Sample.engine.run Sample.stranding).ofRecord (fun d => Pot.escrow.share d) ⟨2⟩ = 100 ∧
      (Sample.engine.run Sample.stranding).escrowed = 0 :=
  ⟨Sample.engine_fresh, by decide +kernel, by decide +kernel, by decide +kernel,
    by decide +kernel, by decide +kernel⟩

/-- It is not paid out a third time: besides the stake only what was stranded is drawn. -/
theorem stranded_stake_is_all_that_is_lost :
    Sample.engine.Fresh ∧
      Sample.engine.sumCalls (Engine.ofDispute .first Engine.strands) Sample.stranding = 100 ∧
      (Sample.engine.run Sample.stranding).ofRecord Dispute.paid .first = 100 ∧
      Sample.engine.sumCalls (Engine.ofDispute .first Engine.drains) Sample.stranding ≤
        100 + 100 := by
  have hstrands : Sample.engine.sumCalls (Engine.ofDispute .first Engine.strands)
      Sample.stranding = 100 := by decide +kernel
  have hpaid : (Sample.engine.run Sample.stranding).ofRecord Dispute.paid .first = 100 := by
    decide +kernel
  obtain ⟨hdrains, -⟩ := escrow_pays_stakes_and_stranded Sample.stranding Sample.engine_fresh
  have hfirst := hdrains .first
  rw [hstrands, hpaid] at hfirst
  exact ⟨Sample.engine_fresh, hstrands, hpaid, hfirst⟩

end Arbitration
