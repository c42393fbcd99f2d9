import Arbitration.Proofs.Defense
import Arbitration.Proofs.Supply
import Arbitration.Proofs.Turns

/-!
# With what an operation can fail

Many errors of the engine guard it against itself: a settlement that does not come to the stakes,
an asset that is frozen already, a pot that is short. Unless a part is made to fail, **none of them
occurs**. A request is either rejected before it has any effect, or it asks for more than there is:
more than the caller holds, or a number or a date beyond its range (`Engine.Exceeded`).

The questions that an operation asks first are chains of checks. `FailsOnly` says with which errors
such a chain can end, and is closed under the ways in which checks are put together. What comes
after the questions is known from `Operation.Blocked`, and what holds in every sound engine excludes
one reason after the other.
-/

namespace Arbitration

/-! ### Questions that fail -/

/-- The question fails with such errors only. -/
def FailsOnly {ε α : Type} (x : Except ε α) (E : ε → Prop) : Prop := ∀ err, x = .error err → E err

namespace FailsOnly

variable {ε ε' α β : Type} {x : Except ε α} {f : α → Except ε β} {E : ε → Prop} {err : ε} {a : α}

protected theorem pure : FailsOnly (pure a : Except ε α) E := nofun

protected theorem throw (h : E err) : FailsOnly (throw err : Except ε α) E := by
  intro err' herr
  cases herr
  exact h

theorem of_ok (h : x = .ok a) : FailsOnly x E := by
  intro err herr
  rw [h] at herr
  cases herr

protected theorem bind (hx : FailsOnly x E) (hf : ∀ a, x = .ok a → FailsOnly (f a) E) :
    FailsOnly (x >>= f) E := by
  intro err herr
  cases hrun : x with
  | ok a =>
    rw [hrun] at herr
    exact hf a hrun err herr
  | error err' =>
    rw [hrun] at herr
    cases herr
    exact hx err hrun

/-- A refusal, and what is asked where it is not made. -/
theorem refuse {p : Prop} [Decidable p] {f : PUnit → Except ε α} (herr : E err)
    (hf : ¬ p → FailsOnly (f ⟨⟩) E) : FailsOnly (if p then throw err >>= f else f ⟨⟩) E := by
  split
  · exact .bind (.throw herr) nofun
  · rename_i hp
    exact hf hp

/-- A refusal that is not made. -/
theorem skip {p : Prop} [Decidable p] {f : PUnit → Except ε α} (hp : ¬ p)
    (hf : FailsOnly (f ⟨⟩) E) : FailsOnly (if p then throw err >>= f else f ⟨⟩) E := by
  rw [if_neg hp]
  exact hf

theorem mapError {g : ε → ε'} {E : ε' → Prop} (hx : FailsOnly x fun err => E (g err)) :
    FailsOnly (x.mapError g) E := by
  intro err herr
  cases hrun : x with
  | ok a =>
    rw [hrun] at herr
    cases herr
  | error err' =>
    rw [hrun] at herr
    cases herr
    exact hx err' hrun

end FailsOnly

/-! ### What is expected -/

/-- Who pays for an operation. -/
def Operation.payer : Operation → Option AccountId
  | initiate caller _ | deposit caller _ | counter caller _ _ => some caller
  | grantSubsidy .. | submit .. | accept .. | enforce .. | retryRelease .. => none

namespace Dispute.Sound

variable {config : Config} {d : Dispute}

/-- The stake deadline of a dispute that is not matched is in the calendar. -/
theorem exists_stakeDeadline (h : d.Sound config) (hopen : d.resolved = false)
    (hstaked : d.fullyStaked = false) : ∃ t, d.stakeDeadline config = .ok t := by
  obtain ⟨t, hdated⟩ := h.dated hopen
  rw [deadline_of_unstaked hstaked] at hdated
  exact ⟨t, hdated⟩

/-- The resolution deadline of a dispute that is matched is in the calendar. -/
theorem exists_resolutionDeadline (h : d.Sound config) (hopen : d.resolved = false)
    (hstaked : d.fullyStaked = true) : ∃ t, d.resolutionDeadline config = .ok t := by
  obtain ⟨t, hdated⟩ := h.dated hopen
  rw [deadline_of_staked hstaked] at hdated
  exact ⟨t, hdated⟩

end Dispute.Sound

namespace Engine

/-- A request that was not rejected asks for more than there is. -/
inductive Exceeded (e : Engine) : Operation → DisputeError → Prop
  | funds {op : Operation} {caller : AccountId} {balance requested : Amount}
      (payer : op.payer = some caller) (outsider : caller.isSystem = false)
      (short : balance < requested) :
      Exceeded e op (.ledger (.insufficientFunds caller balance requested))
  | calendar {op : Operation} {caller : AccountId} {t : Timestamp} {secs : UInt64}
      (payer : op.payer = some caller) (beyond : t.addSeconds secs = .error .timestamp) :
      Exceeded e op (.arithmetic .timestamp)
  | stake {caller : AccountId} {r : InitiateRequest}
      (large : UInt64.size ≤
        r.stake.toNat * e.config.escalationMultiplierBps.toNat / wholeBps) :
      Exceeded e (.initiate caller r) (.arithmetic .rateScaling)
  | numbers {caller : AccountId} {r : InitiateRequest}
      (last : e.store.nextId.toNat + 1 = UInt64.size) :
      Exceeded e (.initiate caller r) (.store (.exhausted .disputeId))
  | fee {caller : AccountId} {id : DisputeId} {r : CounterRequest} {d : Dispute}
      (found : e.store.get? id = some d)
      (large : UInt64.size ≤ e.config.counterBaseFee.toNat * Nat.pow 2 d.counterCount.toNat) :
      Exceeded e (.counter caller id r) (.arithmetic .amountProduct)

/-- What an operation is expected to fail with. -/
def Expected (e : Engine) (op : Operation) (err : DisputeError) : Prop :=
  err.isPrecondition = true ∨ e.Exceeded op err

variable {e : Engine} {op : Operation} {caller : AccountId} {id : DisputeId} {d : Dispute}

/-- A calculation of an instant fails at the end of the calendar only. -/
theorem fails_addSeconds (hpayer : op.payer = some caller) (t : Timestamp) (secs : UInt64) :
    FailsOnly (t.addSeconds secs) fun err => e.Expected op (.arithmetic err) := by
  intro err herr
  obtain rfl := Timestamp.addSeconds_eq_error herr
  exact .inr (.calendar hpayer herr)

/-! ### Questions about records -/

theorem fails_dispute : FailsOnly (e.dispute id) (e.Expected op) := by
  unfold dispute
  split
  · exact .pure
  · exact .throw (.inl rfl)

theorem fails_openDispute : FailsOnly (e.openDispute id) (e.Expected op) :=
  .bind fails_dispute fun _ _ => .refuse (.inl rfl) fun _ => .pure

theorem fails_stakeDeadlineAhead
    (h : FailsOnly (d.stakeDeadline e.config) fun err => e.Expected op (.arithmetic err)) :
    FailsOnly (e.stakeDeadlineAhead d) (e.Expected op) :=
  .bind (.mapError h) fun _ _ => .refuse (.inl rfl) fun _ => .pure

theorem fails_resolutionDeadlineAhead
    (h : FailsOnly (d.resolutionDeadline e.config) fun err => e.Expected op (.arithmetic err)) :
    FailsOnly (e.resolutionDeadlineAhead d) (e.Expected op) :=
  .bind (.mapError h) fun _ _ => .refuse (.inl rfl) fun _ => .pure

/-! ### Admissions -/

theorem fails_admitFiling {r : InitiateRequest} :
    FailsOnly (e.admitFiling caller r) (e.Expected (.initiate caller r)) := by
  unfold admitFiling
  refine .refuse (.inl rfl) fun _ => ?_
  refine .refuse (.inl rfl) fun _ => ?_
  refine .refuse (.inl rfl) fun _ => ?_
  refine .bind (.mapError fun _ _ => .inl rfl) fun _ _ => .mapError fun err herr => ?_
  obtain ⟨rfl, hlarge⟩ := Policy.escalatedStake_eq_error herr
  exact .inr (.stake hlarge)

/-- Where no subsidy exceeds the stake, the own share of a deposit can be worked out. -/
theorem fails_admitDeposit
    (hsub : ∀ d, e.store.get? id = some d → d.subsidy.toNat ≤ d.initiatorStake.toNat) :
    FailsOnly (e.admitDeposit caller id) (e.Expected (.deposit caller id)) := by
  have hcalendar : ∀ t secs, FailsOnly (Timestamp.addSeconds t secs) fun err =>
      e.Expected (.deposit caller id) (.arithmetic err) := fails_addSeconds rfl
  refine .bind fails_openDispute fun d hd => ?_
  obtain ⟨hget, -⟩ := openDispute_eq_ok_iff.1 hd
  refine .refuse (.inl rfl) fun _ => ?_
  refine .refuse (.inl rfl) fun _ => ?_
  refine .bind (fails_stakeDeadlineAhead (hcalendar _ _)) fun _ _ => ?_
  refine .bind (fails_resolutionDeadlineAhead (hcalendar _ _)) fun _ _ => ?_
  obtain ⟨ownShare, hown⟩ := Amount.exists_sub (hsub d hget)
  exact .bind (.mapError (.of_ok hown)) fun _ _ => .pure

theorem Sound.fails_admitDeposit (h : e.Sound) :
    FailsOnly (e.admitDeposit caller id) (e.Expected (.deposit caller id)) :=
  Engine.fails_admitDeposit fun d hget => (h.records id d hget).subsidised

/-- The rate of a subsidy is at most the whole, so the subsidy can be worked out. -/
theorem Sound.fails_admitSubsidy (h : e.Sound) :
    FailsOnly (e.admitSubsidy caller id) (e.Expected (.grantSubsidy caller id)) := by
  obtain ⟨-, -, -, -, -, -, -, -, -, hmax, -⟩ := Config.validate_eq_ok_iff.1 h.valid
  refine .bind fails_openDispute fun d hd => ?_
  obtain ⟨hget, hopen⟩ := openDispute_eq_ok_iff.1 hd
  cases d.partyOf caller with
  | none => exact .bind (.throw (.inl rfl)) nofun
  | some party =>
    cases party with
    | initiator => exact .bind (.throw (.inl rfl)) nofun
    | counterparty =>
      refine .refuse (.inl rfl) fun hstaked => ?_
      obtain ⟨t, hdated⟩ :=
        (h.records id d hget).exists_stakeDeadline hopen (Bool.not_eq_true _ ▸ hstaked)
      refine .refuse (.inl rfl) fun _ => ?_
      refine .bind (fails_stakeDeadlineAhead (.of_ok hdated)) fun _ _ => ?_
      obtain ⟨amount, hamount⟩ := Amount.exists_mulBps (a := d.initiatorStake)
        (Nat.le_trans (Policy.subsidyRate_le (e.treasury.score d.initiator) _ _) hmax)
      refine .bind (.mapError (.of_ok hamount)) fun _ _ => ?_
      refine .refuse (.inl rfl) fun _ => ?_
      exact .refuse (.inl rfl) fun _ => .pure

theorem Sound.fails_admitProposal {p : SignedProposal} (h : e.Sound) :
    FailsOnly (e.admitProposal caller id p) (e.Expected (.submit caller id p)) := by
  unfold admitProposal
  refine .refuse (.inl rfl) fun _ => ?_
  refine .bind fails_openDispute fun d hd => ?_
  obtain ⟨hget, hopen⟩ := openDispute_eq_ok_iff.1 hd
  refine .refuse (.inl rfl) fun hstaked => ?_
  obtain ⟨t, hdated⟩ :=
    (h.records id d hget).exists_resolutionDeadline hopen (by simpa using hstaked)
  refine .refuse (.inl rfl) fun _ => ?_
  refine .refuse (.inl rfl) fun _ => ?_
  refine .bind (fails_resolutionDeadlineAhead (.of_ok hdated)) fun _ _ => ?_
  refine .bind (.mapError fun _ _ => .inl rfl) fun _ _ => ?_
  split
  · exact .refuse (.inl rfl) fun _ => .pure
  · exact .pure

theorem Sound.fails_admitAcceptance (h : e.Sound) :
    FailsOnly (e.admitAcceptance caller id) (e.Expected (.accept caller id)) := by
  refine .bind fails_openDispute fun d hd => ?_
  obtain ⟨hget, hopen⟩ := openDispute_eq_ok_iff.1 hd
  have hsound := h.records id d hget
  split
  · exact .throw (.inl rfl)
  · split
    · exact .throw (.inl rfl)
    · rename_i p hproposal
      obtain ⟨t, hdated⟩ :=
        hsound.exists_resolutionDeadline hopen (hsound.proposed (by rw [hproposal]; rfl))
      refine .bind (fails_resolutionDeadlineAhead (.of_ok hdated)) fun _ _ => ?_
      exact .refuse (.inl rfl) fun _ => .pure

/-- The rounds are limited so that only the fee itself may leave the range. -/
theorem Sound.fails_admitCounter {r : CounterRequest} (h : e.Sound) :
    FailsOnly (e.admitCounter caller id r) (e.Expected (.counter caller id r)) := by
  obtain ⟨-, -, -, -, hrounds, -⟩ := Config.validate_eq_ok_iff.1 h.valid
  refine .bind fails_openDispute fun d hd => ?_
  obtain ⟨hget, hopen⟩ := openDispute_eq_ok_iff.1 hd
  split
  · exact .throw (.inl rfl)
  · refine .refuse (.inl rfl) fun hstaked => ?_
    obtain ⟨t, hdated⟩ :=
      (h.records id d hget).exists_resolutionDeadline hopen (by simpa using hstaked)
    refine .bind (fails_resolutionDeadlineAhead (.of_ok hdated)) fun _ _ => ?_
    split
    · exact .throw (.inl rfl)
    · rename_i err hfee
      obtain ⟨rfl, hlarge⟩ :=
        Policy.counterFee_arithmetic (UInt32.le_trans hrounds (by decide)) hfee
      exact .throw (.inr (.fee hget hlarge))
    · exact .refuse (.inl rfl) fun _ => .pure

theorem Sound.fails_admitEnforcement (h : e.Sound) :
    FailsOnly (e.admitEnforcement id) (e.Expected (.enforce caller id)) := by
  obtain ⟨-, -, -, -, -, -, hburn, -⟩ := Config.validate_eq_ok_iff.1 h.valid
  refine .bind fails_openDispute fun d hd => ?_
  obtain ⟨hget, hopen⟩ := openDispute_eq_ok_iff.1 hd
  have hsound := h.records id d hget
  split
  · rename_i hstaked
    obtain ⟨t, hdated⟩ := hsound.exists_resolutionDeadline hopen hstaked
    refine .bind (.mapError (.of_ok hdated)) fun _ _ => ?_
    refine .refuse (.inl rfl) fun _ => ?_
    obtain ⟨settlement, hsplit⟩ := Policy.exists_timeoutSplit hburn (h.stakes_lt hget hopen)
    exact .bind (.mapError (.of_ok hsplit)) fun _ _ => .pure
  · rename_i hstaked
    obtain ⟨t, hdated⟩ := hsound.exists_stakeDeadline hopen (Bool.not_eq_true _ ▸ hstaked)
    refine .bind (.mapError (.of_ok hdated)) fun _ _ => ?_
    exact .refuse (.inl rfl) fun _ => .pure

theorem fails_admitRetry : FailsOnly (e.admitRetry id) (e.Expected (.retryRelease caller id)) := by
  refine .bind fails_dispute fun d _ => ?_
  split
  · split
    · exact .pure
    · exact .throw (.inl rfl)
  · exact .throw (.inl rfl)

/-! ### After the questions -/

/-- No part is made to refuse anything, and the supply is in range. -/
structure Unhindered (e : Engine) : Prop extends e.Unimpeded where
  refuseUpdates : e.treasury.refuseUpdates = false

variable {err : DisputeError}

/-- A move that its payer may be asked for is refused only if the payer holds too little. -/
theorem Unimpeded.expected_of_refuses {refusal : LedgerError} {done : List Move} {m : Move}
    (h : e.Unimpeded) (hrefused : e.ledger.Refuses done m refusal)
    (hpayer : op.payer = some m.source) (houtsider : m.source.isSystem = false) :
    e.Expected op (.ledger refusal) := by
  obtain ⟨balance, hshort, rfl⟩ := hrefused.insufficient h.refusedCredit h.supply
  exact .inr (.funds hpayer houtsider hshort)

/-- Nothing is frozen under the next number, and the reserve covers what is drawn on it. -/
theorem Unfiled.expected {r : InitiateRequest} (h : e.Unfiled caller r err) (hsound : e.Sound)
    (hfree : e.Unhindered) : e.Expected (.initiate caller r) err := by
  obtain ⟨-, -, -, -, -, -, -, hincentive, -⟩ := Config.validate_eq_ok_iff.1 hsound.valid
  cases h with
  | refused h => exact fails_admitFiling err h
  | unpaid admitted h =>
    obtain ⟨-, hcaller, -⟩ := admitFiling_eq_ok_iff.1 admitted
    exact hfree.expected_of_refuses h rfl hcaller
  | unowed h =>
    obtain ⟨owed, howed⟩ := Amount.exists_mulBps hincentive
    rw [Policy.incentiveAmount, howed] at h
    cases h
  | @unreserved stake owed ledger err paid h =>
    refine absurd h (Ledger.not_refuses hfree.refusedCredit hfree.supply ?_)
    have hdraw := Policy.incentiveDraw_le owed (ledger.balance e.treasury.reserve)
    have hledger := paid.balance e.treasury.reserve
    show _ + taken e.treasury.reserve _ ≤ (e.ledger.balance e.treasury.reserve).toNat +
      given e.treasury.reserve _
    exact Nat.le_trans (Nat.add_le_add_right hdraw _) (Nat.le_of_eq hledger)
  | uncounted h =>
    rw [Treasury.recordHarassment, hfree.refuseUpdates, if_neg Bool.false_ne_true] at h
    cases h
  | unfrozen h =>
    rw [Registry.freeze_eq_ok_iff.2 ⟨by rw [hfree.faults], hsound.frozen_nextId, rfl⟩] at h
    cases h
  | undated h => exact fails_addSeconds rfl _ _ _ h
  | unwritten next h =>
    obtain ⟨rfl, hlast⟩ :=
      Store.write_next_eq_error hfree.refuseWrites hsound.get?_nextId next h
    exact .inr (.numbers hlast)

theorem Undeposited.expected (h : e.Undeposited caller id err) (hsound : e.Sound)
    (hfree : e.Unhindered) : e.Expected (.deposit caller id) err := by
  rcases h.refused_or_unpaid hsound hfree.toUnimpeded with
    hrefused | ⟨dep, refusal, hadmitted, rfl, hunpaid⟩
  · exact hsound.fails_admitDeposit err hrefused
  · obtain ⟨hget, -, hcaller, -⟩ := admitDeposit_eq_ok_iff.1 hadmitted
    exact hfree.expected_of_refuses hunpaid (congrArg some hcaller)
      (hsound.records id _ hget).counterparty

/-- What is granted is in the reserve, which was looked at. -/
theorem Ungranted.expected (h : e.Ungranted caller id err) (hsound : e.Sound)
    (hfree : e.Unhindered) : e.Expected (.grantSubsidy caller id) err := by
  cases h with
  | refused h => exact hsound.fails_admitSubsidy err h
  | unpaid admitted h =>
    obtain ⟨-, -, -, -, -, -, -, -, hcovered⟩ := admitSubsidy_eq_ok_iff.1 admitted
    exact absurd h (Ledger.not_refuses hfree.refusedCredit hfree.supply (Amount.le_iff.1 hcovered))
  | unwritten admitted h =>
    obtain ⟨hget, -⟩ := admitSubsidy_eq_ok_iff.1 admitted
    have hid := hsound.keyed id _ hget
    exact absurd h (hfree.not_unwritten (hid.symm ▸ hget))

theorem Unproposed.expected {p : SignedProposal} (h : e.Unproposed caller id p err)
    (hsound : e.Sound) (hfree : e.Unhindered) : e.Expected (.submit caller id p) err := by
  cases h with
  | refused h => exact hsound.fails_admitProposal err h
  | unwritten admitted h =>
    obtain ⟨-, hget, -⟩ := admitProposal_eq_ok_iff.1 admitted
    have hid := hsound.keyed id _ hget
    exact absurd h (hfree.not_unwritten (hid.symm ▸ hget))

theorem Unaccepted.expected (h : e.Unaccepted caller id err) (hsound : e.Sound)
    (hfree : e.Unhindered) : e.Expected (.accept caller id) err := by
  cases h with
  | refused h => exact hsound.fails_admitAcceptance err h
  | unwritten admitted h =>
    exact absurd (.unwritten admitted h) (not_unaccepted hsound hfree.toUnimpeded admitted)
  | stuck admitted h =>
    exact absurd (.stuck admitted h) (not_unaccepted hsound hfree.toUnimpeded admitted)

/-- Another round is one of few, and what all rounds extend the deadline by is capped, so only the
calendar can end. -/
theorem fails_nextRound {r : CounterRequest} {c : CounterRound} (hsound : e.Sound)
    (hadmitted : e.admitCounter caller id r = .ok c) :
    FailsOnly (e.nextRound c.record r) fun err =>
      e.Expected (.counter caller id r) (.arithmetic err) := by
  obtain ⟨-, -, -, -, hrounds, -⟩ := Config.validate_eq_ok_iff.1 hsound.valid
  obtain ⟨-, -, -, -, -, hfee, -⟩ := admitCounter_eq_ok_iff.1 hadmitted
  have hlimit := UInt32.lt_of_lt_of_le (Policy.counterFee_ok hfee) hrounds
  have hcount : c.record.counterCount.toNat < 32 := UInt32.lt_iff_toNat_lt.1 hlimit
  have hextension := Policy.counterExtension_lt e.config.counterExtensionSecs
    c.record.cumulativeExtensionSecs e.config.maxTotalExtensionSecs
  refine .bind (fails_addSeconds rfl _ _) fun _ _ => ?_
  refine .skip (Nat.not_le.2 hextension) ?_
  refine .skip ?_ .pure
  show ¬ 4294967296 ≤ c.record.counterCount.toNat + 1
  omega

theorem Uncountered.expected {r : CounterRequest} (h : e.Uncountered caller id r err)
    (hsound : e.Sound) (hfree : e.Unhindered) : e.Expected (.counter caller id r) err := by
  -- whoever may open a round is a party, and so none of the protocol's accounts
  have houtsider : ∀ {c}, e.admitCounter caller id r = .ok c → caller.isSystem = false := by
    intro c admitted
    obtain ⟨hget, -, hparty, -⟩ := admitCounter_eq_ok_iff.1 admitted
    exact (hsound.records id _ hget).isSystem_of_partyOf hparty
  cases h with
  | refused h => exact hsound.fails_admitCounter err h
  | unpaid admitted h => exact hfree.expected_of_refuses h rfl (houtsider admitted)
  | unrouted admitted h =>
    obtain ⟨-, -, -, -, -, -, hoffered⟩ := admitCounter_eq_ok_iff.1 admitted
    obtain ⟨excess, hexcess⟩ := Amount.exists_sub (Amount.le_iff.1 hoffered)
    rw [hexcess] at h
    cases h
  | unpooled admitted h => exact hfree.expected_of_refuses h rfl (houtsider admitted)
  | unopened admitted h => exact fails_nextRound hsound admitted _ h
  | undated h => exact fails_addSeconds rfl _ _ _ h
  | @unwritten c next err admitted opened h =>
    obtain ⟨hget, -⟩ := admitCounter_eq_ok_iff.1 admitted
    obtain ⟨startTime, -, -, -, rfl⟩ := Dispute.counterRound_eq_ok_iff.1 opened
    have hid := hsound.keyed id _ hget
    exact absurd h (hfree.not_unwritten (hid.symm ▸ hget))

theorem Unenforced.expected (h : e.Unenforced id err) (hsound : e.Sound) (hfree : e.Unhindered) :
    e.Expected (.enforce caller id) err := by
  have hnot : ∀ {overdue}, e.admitEnforcement id = .ok overdue →
      e.Expected (.enforce caller id) err := fun admitted =>
    absurd h (not_unenforced_of_admitted hsound hfree.toUnimpeded admitted)
  cases h with
  | refused h => exact hsound.fails_admitEnforcement err h
  | unreturned admitted _ => exact hnot admitted
  | unowed admitted _ => exact hnot admitted
  | unpaid admitted _ _ => exact hnot admitted
  | lapse admitted _ _ => exact hnot admitted
  | deadlock admitted _ => exact hnot admitted

/-- A release is pending only as long as the asset is held. -/
theorem Unreleased.expected (h : e.Unreleased id err) (hsound : e.Sound) (hfree : e.Unhindered) :
    e.Expected (.retryRelease caller id) err := by
  cases h with
  | refused h => exact fails_admitRetry err h
  | unfreed admitted h =>
    obtain ⟨hget, hpending, -⟩ := admitRetry_eq_ok_iff.1 admitted
    have hholds := Dispute.holdsAsset_iff.2 (.inr (Option.isSome_of_eq_some hpending))
    have hheld := (hsound.registered.fits id _ hget).held
    rw [if_pos hholds] at hheld
    rw [Registry.unfreeze_eq_ok_iff.2 ⟨by rw [hfree.faults], ⟨_, hheld⟩, rfl⟩] at h
    cases h
  | unwritten admitted h =>
    obtain ⟨hget, -⟩ := admitRetry_eq_ok_iff.1 admitted
    have hid := hsound.keyed id _ hget
    exact absurd h (hfree.not_unwritten (hid.symm ▸ hget))

/-- **Every operation** fails as expected in a sound engine that refuses nothing. -/
theorem Sound.fails_perform (hsound : e.Sound) (hfree : e.Unhindered) (op : Operation) :
    FailsOnly (e.perform op).1 (e.Expected op) := by
  intro err herr
  have hfailed : e.perform op = (.error err, (e.perform op).2) := Prod.ext herr rfl
  obtain ⟨-, -, ⟨-, hblocked⟩, -⟩ := Engine.perform_error hsound.keyed hfailed
  cases op with
  | initiate caller r => exact Unfiled.expected hblocked hsound hfree
  | deposit caller id => exact Undeposited.expected hblocked hsound hfree
  | grantSubsidy caller id => exact Ungranted.expected hblocked hsound hfree
  | submit caller id p => exact Unproposed.expected hblocked hsound hfree
  | accept caller id => exact Unaccepted.expected hblocked hsound hfree
  | counter caller id r => exact Uncountered.expected hblocked hsound hfree
  | enforce caller id => exact Unenforced.expected hblocked hsound hfree
  | retryRelease caller id => exact Unreleased.expected hblocked hsound hfree

end Engine

/-! ### Runs in which no part is made to fail -/

/-- A resolution leaves the switches as they are. -/
theorem Resolves.switches {e : Engine} {d : Dispute} {r : Resolution} {moves : List Move}
    {events : List (DisputeId × Event)} {f : Footprint} (h : Resolves e d r moves events f) :
    f.registry.faults = e.registry.faults ∧
      f.treasury.refuseUpdates = e.treasury.refuseUpdates ∧
      f.store.refuseWrites = e.store.refuseWrites := by
  cases h with
  | @intro burned freed registry released pending store admitted releases written licensed =>
    obtain ⟨-, hfaults, -⟩ := releases.frame
    refine ⟨?_, rfl, Store.refuseWrites_of_write written⟩
    show registry.faults = _
    split at licensed
    · obtain ⟨-, -, rfl⟩ := Registry.applyFallback_eq_ok_iff.1 licensed
      exact hfaults
    · rw [licensed]
      exact hfaults

/-- So does every successful operation. -/
theorem Succeeds.switches {e : Engine} {op : Operation} {answer : Answer} {f : Footprint}
    (hs : Succeeds e op answer f) :
    f.registry.faults = e.registry.faults ∧
      f.treasury.refuseUpdates = e.treasury.refuseUpdates ∧
      f.store.refuseWrites = e.store.refuseWrites := by
  cases hs with
  | @initiate caller r stake earmarked escalated treasury registry store deadline admitted
      setAside counted frozen dated written =>
    obtain ⟨-, -, rfl⟩ := Registry.freeze_eq_ok_iff.1 frozen
    refine ⟨rfl, ?_, Store.refuseWrites_of_write written⟩
    show treasury.refuseUpdates = _
    split at counted
    · exact (Treasury.recordHarassment_frame counted).2
    · rw [counted]
  | deposit admitted added written => exact ⟨rfl, rfl, Store.refuseWrites_of_write written⟩
  | grantSubsidy admitted written => exact ⟨rfl, rfl, Store.refuseWrites_of_write written⟩
  | submit admitted written => exact ⟨rfl, rfl, Store.refuseWrites_of_write written⟩
  | accept admitted one written => exact ⟨rfl, rfl, Store.refuseWrites_of_write written⟩
  | counter admitted routes opened dated written =>
    exact ⟨rfl, rfl, Store.refuseWrites_of_write written⟩
  | agree admitted both resolves => exact resolves.switches
  | lapse admitted draws resolves => exact resolves.switches
  | deadlock admitted resolves => exact resolves.switches
  | retry admitted freed written =>
    obtain ⟨-, -, rfl⟩ := Registry.unfreeze_eq_ok_iff.1 freed
    exact ⟨rfl, rfl, Store.refuseWrites_of_write written⟩

namespace Engine

variable {e : Engine}

/-- No operation sets a switch, and none changes the supply. -/
theorem Sound.unhindered_perform (h : e.Sound) (hfree : e.Unhindered) (op : Operation)
    (hclean : e.takesBack op = true) : (e.perform op).2.Unhindered := by
  have hclosed : Ledger.Closed fun l => l.refusedCredit = none ∧ l.totalSupply < UInt64.size := by
    rintro l l' source target amount ⟨hcredit, hsupply⟩ hdone
    have htransferred := Ledger.transferred_of_transfer hdone
    exact ⟨htransferred.refusedCredit.trans hcredit, htransferred.supply ▸ hsupply⟩
  obtain ⟨hcredit, hsupply⟩ := perform_keeps hclosed ⟨hfree.refusedCredit, hfree.supply⟩ op
  rcases hdone : e.perform op with ⟨err | answer, e'⟩
  · obtain ⟨session, hstop, ⟨htrail, -⟩, rfl⟩ := Engine.perform_error h.keyed hdone
    simp only [takesBack, hstop] at hclean
    have hagree := htrail.rollback h.holdsAssets (.refl _ _ _) hclean
    rw [hdone] at hcredit hsupply
    exact ⟨⟨hcredit, hagree.faults.trans hfree.faults, hagree.store ▸ hfree.refuseWrites, hsupply⟩,
      hagree.refuseUpdates.trans hfree.refuseUpdates⟩
  · obtain ⟨f, ledger, hsucceeds, -, rfl⟩ := perform_ok h.keyed hdone
    obtain ⟨hfaults, hupdates, hwrites⟩ := hsucceeds.switches
    rw [hdone] at hcredit hsupply
    exact ⟨⟨hcredit, hfaults.trans hfree.faults, hwrites.trans hfree.refuseWrites, hsupply⟩,
      hupdates.trans hfree.refuseUpdates⟩

/-- If no part is made to fail along a run, none refuses anything. -/
theorem Sound.unhindered_run {turns : List Turn} (h : e.Sound) (hfree : e.Unhindered)
    (hclean : e.runsCleanly turns = true) (hswitches : ∀ s, .switch s ∈ turns → s = {}) :
    (e.run turns).Unhindered := by
  induction turns generalizing e with
  | nil => exact hfree
  | cons s rest ih =>
    obtain ⟨hfirst, hrest⟩ := Bool.and_eq_true_iff.1 hclean
    refine ih (h.step s hfirst) ?_ hrest fun s' hs' => hswitches s' (List.mem_cons_of_mem s hs')
    cases s with
    | call op => exact h.unhindered_perform hfree op hfirst
    | clock now =>
      exact ⟨⟨hfree.refusedCredit, hfree.faults, hfree.refuseWrites, hfree.supply⟩,
        hfree.refuseUpdates⟩
    | switch s =>
      rw [hswitches s List.mem_cons_self]
      exact ⟨⟨rfl, rfl, rfl, hfree.supply⟩, rfl⟩

/-- A fresh engine refuses nothing, if its ledger takes all credits. -/
theorem Fresh.unhindered (h : e.Fresh) (hcredit : e.ledger.refusedCredit = none)
    (hsupply : e.ledger.totalSupply < UInt64.size) : e.Unhindered := by
  obtain ⟨-, -, hregistry, htreasury, hstore, -⟩ := h.parts
  exact ⟨⟨hcredit, by rw [hregistry], by rw [hstore], hsupply⟩, by rw [htreasury]⟩

end Engine

/-- **Only requests fail.** Take any clean run in which no part is made to fail and whose supply is
in range, and call any operation in any state of it. If it fails, then the request was rejected, or
it asked for more than there is: the caller of a filing, a deposit or another round held too
little, or a deadline of theirs lies beyond the calendar; the raised stake of a filing, the number
of its dispute or the fee for another round is out of range. -/
theorem only_requests_fail {start : Engine} {turns : List Turn} (h : CleanRun start turns)
    (hsupply : start.ledger.totalSupply < UInt64.size)
    (hcredit : start.ledger.refusedCredit = none)
    (hswitches : ∀ s, .switch s ∈ turns → s = {}) (op : Operation) {err : DisputeError}
    (hfailed : ((start.run turns).perform op).1 = .error err) :
    err.isPrecondition = true ∨ (start.run turns).Exceeded op err := by
  have hfree := h.fresh.unhindered hcredit hsupply
  exact h.sound.fails_perform (h.fresh.sound.unhindered_run hfree h.clean hswitches) op err hfailed

namespace Sample

/-- A filing with a stake of five thousand, which is more than Alice has. -/
def overdrawn : Operation := .initiate alice { filing with stake := ⟨5000⟩ }

end Sample

/-- When both parties have staked, Alice has nine hundred left. A filing with five thousand costs
her half as much again, because it comes too soon, and that exceeds what she holds. -/
theorem overdrawn_filing_fails :
    CleanRun Sample.engine Sample.staking ∧
      ((Sample.engine.run Sample.staking).perform Sample.overdrawn).1 =
        .error (.ledger (.insufficientFunds Sample.alice ⟨900⟩ ⟨7500⟩)) ∧
      (Sample.engine.run Sample.staking).Exceeded Sample.overdrawn
        (.ledger (.insufficientFunds Sample.alice ⟨900⟩ ⟨7500⟩)) := by
  have hclean : CleanRun Sample.engine Sample.staking := ⟨Sample.engine_fresh, by decide +kernel⟩
  have hfailed : ((Sample.engine.run Sample.staking).perform Sample.overdrawn).1 =
      .error (.ledger (.insufficientFunds Sample.alice ⟨900⟩ ⟨7500⟩)) := rfl
  have hswitches : ∀ s, .switch s ∈ Sample.staking → s = {} := by
    intro s hs
    simp only [Sample.staking, List.mem_cons, List.not_mem_nil, reduceCtorEq, or_self] at hs
  rcases only_requests_fail hclean (by decide +kernel) rfl hswitches Sample.overdrawn hfailed with
    hrejected | hexceeded
  · cases hrejected
  · exact ⟨hclean, hfailed, hexceeded⟩

end Arbitration
