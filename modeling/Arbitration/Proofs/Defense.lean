import Arbitration.Proofs.Completion

/-!
# When a counterparty can defend itself

A counterparty that can pay its part of the stake should be able to match any dispute until the
stake deadline. In a sound engine whose parts refuse nothing there is **one thing that stops it**:
a deposit also works out the resolution deadline, and that one may lie beyond the calendar where
the stake deadline does not. A filing works out the stake deadline only, so such a dispute can be
opened, and then it cannot be matched.
-/

namespace Arbitration

namespace Engine

variable {e : Engine} {id : DisputeId} {d : Dispute} {t u : Timestamp}

/-- The stake deadline comes before the resolution deadline. -/
theorem Sound.stakeDeadline_le (h : e.Sound) (ht : d.stakeDeadline e.config = .ok t)
    (hu : d.resolutionDeadline e.config = .ok u) : t ≤ u := by
  obtain ⟨-, -, hlt, -⟩ := Config.validate_eq_ok_iff.1 h.valid
  exact Timestamp.addSeconds_le (UInt64.le_of_lt hlt) ht hu

/-- A deposit in time by a counterparty that can pay is admitted. -/
theorem Sound.exists_admitDeposit (h : e.Sound) (hget : e.store.get? id = some d)
    (hopen : d.resolved = false) (hstaked : d.fullyStaked = false)
    (ht : d.stakeDeadline e.config = .ok t) (htime : e.now ≤ t)
    (hu : d.resolutionDeadline e.config = .ok u) :
    ∃ ownShare, d.initiatorStake.sub d.subsidy = .ok ownShare ∧
      e.admitDeposit d.counterparty id = .ok ⟨d, u, ownShare⟩ := by
  obtain ⟨ownShare, hown⟩ := Amount.exists_sub (h.records id d hget).subsidised
  have hlater : e.now ≤ u := Timestamp.le_trans htime (h.stakeDeadline_le ht hu)
  exact ⟨ownShare, hown,
    admitDeposit_eq_ok_iff.2 ⟨hget, hopen, rfl, hstaked, ⟨t, ht, htime⟩, hu, hlater, hown⟩⟩

/-- A deposit that is admitted fails only if the counterparty cannot pay its own share. -/
theorem Undeposited.refused_or_unpaid {caller : AccountId} {err : DisputeError}
    (h : e.Undeposited caller id err) (hsound : e.Sound) (hfree : e.Unimpeded) :
    e.admitDeposit caller id = .error err ∨
      ∃ dep refusal, e.admitDeposit caller id = .ok dep ∧ err = .ledger refusal ∧
        e.ledger.Refuses [] ⟨dep.record.counterparty, e.accounts.escrow, dep.ownShare⟩ refusal := by
  cases h with
  | refused h => exact .inl h
  | unpaid admitted h => exact .inr ⟨_, _, admitted, rfl, h⟩
  | unfunded admitted h =>
    obtain ⟨hget, hopen, -, hstaked, -⟩ := admitDeposit_eq_ok_iff.1 admitted
    obtain ⟨-, hfund, -⟩ := hsound.standard.protocol_ne (hsound.records id _ hget).counterparty
    refine absurd h (Ledger.not_refuses hfree.refusedCredit hfree.supply ?_)
    -- the fund holds the subsidy, and the own share does not come from there
    have hshare := hsound.share_le hget .defenseFund
    simp only [Pot.share, hopen, hstaked, Bool.or_self, Bool.false_eq_true, if_false] at hshare
    simp only [taken_cons, taken_nil, if_neg (Ne.symm hfund)]
    exact Nat.le_trans hshare (Nat.le_add_right _ _)
  | @unsummed dep ledger err admitted paid h =>
    obtain ⟨hget, hopen, -, -, -, -, -, hown⟩ := admitDeposit_eq_ok_iff.1 admitted
    have hsum := Amount.sub_eq_ok_iff.1 hown
    obtain ⟨hescrow, -⟩ := hsound.standard.protocol_ne (hsound.records id _ hget).counterparty
    -- by then escrow holds both stakes, so they are in range together
    have hshare := hsound.share_le hget .escrow
    simp only [Pot.share, hopen, Bool.false_eq_true, if_false] at hshare
    change _ ≤ (e.ledger.balance e.accounts.escrow).toNat at hshare
    have hledger := paid.balance e.accounts.escrow
    have hfund' : e.accounts.defenseFund ≠ e.accounts.escrow := fun hc =>
      Pot.noConfusion ((hsound.standard.defenseFund_iff .escrow).1 hc)
    simp only [given_cons, given_nil, taken_cons, taken_nil, if_true, if_neg (Ne.symm hescrow),
      if_neg hfund'] at hledger
    have hlt := (ledger.balance e.accounts.escrow).toNat_lt
    obtain ⟨total, htotal⟩ := Amount.exists_add (show
      dep.record.initiatorStake.toNat + dep.record.initiatorStake.toNat < UInt64.size by omega)
    rw [htotal] at h
    cases h
  | unwritten admitted h =>
    obtain ⟨hget, -⟩ := admitDeposit_eq_ok_iff.1 admitted
    have hid := hsound.keyed id _ hget
    exact absurd h (hfree.not_unwritten (hid.symm ▸ hget))

/-- Nothing stands in the way of a deposit in time by a counterparty that can pay. -/
theorem not_undeposited {err : DisputeError} (hsound : e.Sound) (hfree : e.Unimpeded)
    (hget : e.store.get? id = some d) (hopen : d.resolved = false)
    (hstaked : d.fullyStaked = false) (ht : d.stakeDeadline e.config = .ok t)
    (htime : e.now ≤ t) (hu : d.resolutionDeadline e.config = .ok u)
    (hcovers : d.initiatorStake.toNat ≤
      (e.ledger.balance d.counterparty).toNat + d.subsidy.toNat) :
    ¬ e.Undeposited d.counterparty id err := by
  obtain ⟨ownShare, hown, hadmitted⟩ :=
    hsound.exists_admitDeposit hget hopen hstaked ht htime hu
  have hsum := Amount.sub_eq_ok_iff.1 hown
  intro hblocked
  rcases hblocked.refused_or_unpaid hsound hfree with hrefused | ⟨dep, refusal, hdep, -, hunpaid⟩
  · rw [hadmitted] at hrefused
    cases hrefused
  rw [hadmitted] at hdep
  cases hdep
  refine Ledger.not_refuses hfree.refusedCredit hfree.supply ?_ hunpaid
  show ownShare.toNat ≤ (e.ledger.balance d.counterparty).toNat
  omega

/-- What a successful deposit says. -/
theorem Sound.of_deposit_ok {answer : Answer} (h : e.Sound) (hget : e.store.get? id = some d)
    (hdone : (e.perform (.deposit d.counterparty id)).1 = .ok answer) :
    d.initiatorStake.toNat ≤ (e.ledger.balance d.counterparty).toNat + d.subsidy.toNat ∧
      ∃ u, d.resolutionDeadline e.config = .ok u := by
  have hd := h.records id d hget
  have hperform : e.perform (.deposit d.counterparty id) =
      (.ok answer, (e.perform (.deposit d.counterparty id)).2) := Prod.ext hdone rfl
  obtain ⟨f, ledger, hsucceeds, hmoves, -⟩ := perform_ok h.keyed hperform
  cases hsucceeds with
  | @deposit _ _ dep total store admitted added written =>
    obtain ⟨hget', -, -, -, -, hdated, -, hown⟩ := admitDeposit_eq_ok_iff.1 admitted
    obtain rfl := Option.some.inj (hget'.symm.trans hget)
    refine ⟨?_, dep.resolutionDeadline, hdated⟩
    -- what escrow and the fund are given did not go to the counterparty
    obtain ⟨hescrow, -⟩ := h.standard.protocol_ne hd.counterparty
    have hbalance := hmoves.balance dep.record.counterparty
    have hsum := Amount.sub_eq_ok_iff.1 hown
    simp only [given_cons, given_nil, taken_cons, taken_nil, if_true, if_neg hescrow] at hbalance
    omega

end Engine

/-- **When a counterparty can defend itself.** Take any state of a clean run whose supply is in
range, and a dispute in it that is neither resolved nor matched. It has a stake deadline in the
calendar. At any time up to it, with no part made to fail, a deposit by the counterparty succeeds
exactly if its balance and the subsidy make up the stake and the resolution deadline is in the
calendar too. -/
theorem deposit_succeeds_iff {start : Engine} {turns : List Turn} {id : DisputeId} {d : Dispute}
    (h : CleanRun start turns) (hsupply : (start.run turns).ledger.totalSupply < UInt64.size)
    (hget : (start.run turns).store.get? id = some d) (hopen : d.resolved = false)
    (hstaked : d.fullyStaked = false) :
    ∃ deadline, d.stakeDeadline (start.run turns).config = .ok deadline ∧
      ∀ now : Timestamp, now ≤ deadline →
        ((((start.run turns).resumed now).perform (.deposit d.counterparty id)).1 = .ok .done ↔
          d.initiatorStake.toNat ≤
              ((start.run turns).ledger.balance d.counterparty).toNat + d.subsidy.toNat ∧
            ∃ t, d.resolutionDeadline (start.run turns).config = .ok t) := by
  have hd := h.sound.records id d hget
  obtain ⟨deadline, hdated⟩ := hd.dated hopen
  rw [Dispute.deadline, hstaked, if_neg Bool.false_ne_true] at hdated
  refine ⟨deadline, hdated, fun now htime => ?_⟩
  have hsound : ((start.run turns).resumed now).Sound := (h.sound.setSwitches {}).setClock now
  have hfree : ((start.run turns).resumed now).Unimpeded := ⟨rfl, rfl, rfl, hsupply⟩
  constructor
  · exact hsound.of_deposit_ok hget
  · rintro ⟨hcovers, t, ht⟩
    obtain ⟨answer, f, ledger, hsucceeds, hdone⟩ :=
      Engine.perform_of_not_blocked (.deposit d.counterparty id) hsound.keyed fun err =>
        Engine.not_undeposited hsound hfree hget hopen hstaked hdated htime ht hcovers
    rw [hdone]
    cases hsucceeds with
    | deposit admitted added written => rfl

namespace Sample

/-- Alice files, and nothing more. -/
def filed : List Turn := [.call (.initiate alice filing)]

/-- The record then. -/
def filedRecord : Dispute := { contested with counterpartyStake := .zero }

/-- A week after the filing, when the stake window closes. -/
def oneWeekLater : Timestamp := (Timestamp.ofEpoch? 1767830400).get (by decide)

/-- The sample engine, if it leaves the parties more time than the calendar has. -/
def endless : Engine :=
  engineUnder { Config.default with resolutionTimeoutSecs := 18446744073709551615 }

end Sample

/-- Bob can match the sample dispute for a week. -/
theorem deposit_succeeds_for_a_week :
    CleanRun Sample.engine Sample.filed ∧
      ∀ now : Timestamp, now ≤ Sample.oneWeekLater →
        (((Sample.engine.run Sample.filed).resumed now).perform
          (.deposit Sample.bob .first)).1 = .ok .done := by
  have hclean : CleanRun Sample.engine Sample.filed := ⟨Sample.engine_fresh, by decide +kernel⟩
  have hget : (Sample.engine.run Sample.filed).store.get? .first = some Sample.filedRecord := by
    decide +kernel
  obtain ⟨deadline, hdated, hiff⟩ := deposit_succeeds_iff hclean (by decide +kernel) hget rfl rfl
  obtain rfl : Sample.oneWeekLater = deadline := Except.ok.inj hdated
  exact ⟨hclean, fun now htime =>
    (hiff now htime).2 ⟨by decide +kernel, Sample.twoWeeksLater, rfl⟩⟩

/-- **A dispute that cannot be matched.** The configuration is valid, the filing is accepted and
the stake window is open, but Bob's deposit fails, because the resolution deadline is beyond the
calendar. -/
theorem deposit_fails_beyond_calendar :
    CleanRun Sample.endless Sample.filed ∧
      (Sample.endless.run Sample.filed).ledger.totalSupply < UInt64.size ∧
      (Sample.endless.run Sample.filed).store.get? .first = some Sample.filedRecord ∧
      Sample.filedRecord.stakeDeadline Sample.endless.config = .ok Sample.oneWeekLater ∧
      Sample.newYear ≤ Sample.oneWeekLater ∧
      Sample.filedRecord.initiatorStake ≤
        (Sample.endless.run Sample.filed).ledger.balance Sample.bob ∧
      (((Sample.endless.run Sample.filed).resumed Sample.newYear).perform
        (.deposit Sample.bob .first)).1 = .error (.arithmetic .timestamp) := by
  have hclean : CleanRun Sample.endless Sample.filed :=
    ⟨Sample.engineUnder_fresh rfl, by decide +kernel⟩
  refine ⟨hclean, by decide +kernel, by decide +kernel, rfl, by decide +kernel,
    by decide +kernel, ?_⟩
  rfl

end Arbitration
