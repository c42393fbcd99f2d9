import Arbitration.Engine.Operation

/-!
# What an accepted check says

The engine asks its questions in the `Except` monad: one early refusal after the other, then an
answer. The laws here turn "the answer is `a`" into the conjunction of everything that was
checked on the way, and each admission of the engine gets **one** `_eq_ok_iff` lemma. Later proofs
use these and never open an admission again.
-/

namespace Arbitration

section Except

variable {ε ε' α β : Type}

theorem bind_eq_ok_iff {x : Except ε α} {f : α → Except ε β} {b : β} :
    (x >>= f) = .ok b ↔ ∃ a, x = .ok a ∧ f a = .ok b := by
  cases x with
  | ok a =>
    constructor
    · intro h
      exact ⟨a, rfl, h⟩
    · rintro ⟨_, ha, h⟩
      cases ha
      exact h
  | error err =>
    constructor
    · intro h
      cases h
    · rintro ⟨_, ha, -⟩
      cases ha

theorem pure_eq_ok_iff {a b : α} : (pure a : Except ε α) = .ok b ↔ a = b :=
  Except.ok.injEq a b ▸ Iff.rfl

theorem throw_ne_ok {err : ε} {a : α} : (throw err : Except ε α) ≠ .ok a := by
  intro h
  cases h

/-- A refusal that was not made. -/
theorem refuse_eq_ok_iff {p : Prop} [Decidable p] {err : ε} {f : β → Except ε α}
    {x : Except ε α} {a : α} :
    (if p then throw err >>= f else x) = .ok a ↔ ¬ p ∧ x = .ok a := by
  by_cases h : p
  · simp only [h, if_true, not_true_eq_false, false_and, iff_false]
    intro hc
    cases hc
  · simp only [h, if_false, not_false_eq_true, true_and]

theorem mapError_eq_ok_iff {f : ε → ε'} {x : Except ε α} {a : α} :
    x.mapError f = .ok a ↔ x = .ok a := by
  cases x with
  | ok b =>
    show (Except.ok b : Except ε' α) = .ok a ↔ (Except.ok b : Except ε α) = .ok a
    simp only [Except.ok.injEq]
  | error err => exact ⟨nofun, nofun⟩

theorem isOk_iff {x : Except ε α} : x.isOk = true ↔ ∃ a, x = .ok a := by
  cases x <;> simp [Except.isOk, Except.toBool]

end Except

/-! ### Configurations -/

theorem Config.checkShare_eq_ok_iff {share : Config.Share} {bps : UInt64} {u : Unit} :
    Config.checkShare share bps = .ok u ↔ bps.toNat ≤ wholeBps := by
  unfold Config.checkShare
  split
  · rename_i h
    exact iff_of_false nofun (Nat.not_le.2 h)
  · rename_i h
    exact iff_of_true rfl (Nat.not_lt.1 h)

theorem Config.validate_eq_ok_iff {c : Config} :
    c.validate = .ok () ↔
      c.stakeWindowSecs ≠ 0 ∧ c.resolutionTimeoutSecs ≠ 0 ∧
        c.stakeWindowSecs < c.resolutionTimeoutSecs ∧
        wholeBps ≤ c.escalationMultiplierBps.toNat ∧ c.maxCounters ≤ Config.counterRoundLimit ∧
        c.counterExtensionSecs ≤ c.maxTotalExtensionSecs ∧ c.timeoutBurnBps.toNat ≤ wholeBps ∧
        c.incentiveBps.toNat ≤ wholeBps ∧ c.subsidyBaseBps.toNat ≤ wholeBps ∧
        c.subsidyMaxBps.toNat ≤ wholeBps ∧ c.subsidyBaseBps ≤ c.subsidyMaxBps := by
  -- the last rule ends the chain, so it is not followed by a refusal of its own
  have hlast : (if c.subsidyMaxBps < c.subsidyBaseBps then throw .subsidyBaseAboveMax
      else pure () : Except Config.Fault Unit) = .ok () ↔ c.subsidyBaseBps ≤ c.subsidyMaxBps := by
    rw [← UInt64.not_lt]
    split
    · rename_i h
      exact iff_of_false throw_ne_ok (not_not_intro h)
    · rename_i h
      exact iff_of_true rfl h
  simp only [Config.validate, bind_eq_ok_iff, refuse_eq_ok_iff, exists_const, ne_eq,
    Config.checkShare_eq_ok_iff, UInt64.not_le, UInt64.not_lt, UInt32.not_lt, Nat.not_lt, hlast]

/-! ### Another round -/

theorem Dispute.counterRound_eq_ok_iff {d next : Dispute} {evidence : ContentDigest}
    {extension : UInt64} :
    d.counterRound evidence extension = .ok next ↔
      ∃ startTime, d.startTime.addSeconds extension = .ok startTime ∧
        d.cumulativeExtensionSecs.toNat + extension.toNat < UInt64.size ∧
        d.counterCount.toNat + 1 < UInt32.size ∧
        { d with
          startTime
          cumulativeExtensionSecs :=
            UInt64.ofNat (d.cumulativeExtensionSecs.toNat + extension.toNat)
          counterCount := UInt32.ofNat (d.counterCount.toNat + 1)
          evidence
          proposal := none
          initiatorAccepted := false
          counterpartyAccepted := false } = next := by
  simp only [Dispute.counterRound, bind_eq_ok_iff, refuse_eq_ok_iff, pure_eq_ok_iff, Nat.not_le]

namespace Engine

variable {e : Engine} {id : DisputeId} {caller : AccountId} {d : Dispute}

/-! ### Records and deadlines -/

theorem dispute_eq_ok_iff : e.dispute id = .ok d ↔ e.store.get? id = some d := by
  unfold dispute
  cases e.store.get? id <;> simp

theorem openDispute_eq_ok_iff :
    e.openDispute id = .ok d ↔ e.store.get? id = some d ∧ d.resolved = false := by
  simp only [openDispute, bind_eq_ok_iff, refuse_eq_ok_iff, pure_eq_ok_iff, dispute_eq_ok_iff,
    Bool.not_eq_true]
  constructor
  · rintro ⟨_, hget, hres, rfl⟩
    exact ⟨hget, hres⟩
  · rintro ⟨hget, hres⟩
    exact ⟨d, hget, hres, rfl⟩

/-- A deadline that is in the calendar and has not passed. -/
private theorem ahead_eq_ok_iff {deadline : Except ArithmeticError Timestamp}
    {refusal : Timestamp → DisputeError} {now t : Timestamp} :
    (do
      let d ← deadline.mapError .arithmetic
      if d < now then throw (refusal d)
      return d : Except DisputeError Timestamp) = .ok t ↔ deadline = .ok t ∧ now ≤ t := by
  simp only [bind_eq_ok_iff, refuse_eq_ok_iff, pure_eq_ok_iff, mapError_eq_ok_iff]
  constructor
  · rintro ⟨_, ht, hlt, rfl⟩
    exact ⟨ht, Decidable.not_not.1 hlt⟩
  · rintro ⟨ht, hle⟩
    exact ⟨t, ht, not_not_intro hle, rfl⟩

theorem stakeDeadlineAhead_eq_ok_iff {t : Timestamp} :
    e.stakeDeadlineAhead d = .ok t ↔ d.stakeDeadline e.config = .ok t ∧ e.now ≤ t :=
  ahead_eq_ok_iff

theorem resolutionDeadlineAhead_eq_ok_iff {t : Timestamp} :
    e.resolutionDeadlineAhead d = .ok t ↔ d.resolutionDeadline e.config = .ok t ∧ e.now ≤ t :=
  ahead_eq_ok_iff

/-! ### Admissions -/

theorem admitFiling_eq_ok_iff {r : InitiateRequest} {esc : Policy.Escalation} :
    e.admitFiling caller r = .ok esc ↔
      r.counterparty ≠ caller ∧ caller.isSystem = false ∧ r.counterparty.isSystem = false ∧
        r.stake.isZero = false ∧ r.fallback.validate = .ok () ∧
        Policy.escalatedStake r.stake (e.store.lastBetween caller r.counterparty) e.now
          e.config.cooldownSecs e.config.escalationMultiplierBps = .ok esc := by
  simp only [admitFiling, bind_eq_ok_iff, refuse_eq_ok_iff, mapError_eq_ok_iff, Bool.or_eq_true,
    not_or, Bool.not_eq_true, and_assoc, ne_eq]
  constructor
  · rintro ⟨hself, hc, hr, hz, _, hv, hesc⟩
    exact ⟨hself, hc, hr, hz, hv, hesc⟩
  · rintro ⟨hself, hc, hr, hz, hv, hesc⟩
    exact ⟨hself, hc, hr, hz, (), hv, hesc⟩

theorem admitDeposit_eq_ok_iff {dep : Deposit} :
    e.admitDeposit caller id = .ok dep ↔
      e.store.get? id = some dep.record ∧ dep.record.resolved = false ∧
        caller = dep.record.counterparty ∧ dep.record.fullyStaked = false ∧
        (∃ t, dep.record.stakeDeadline e.config = .ok t ∧ e.now ≤ t) ∧
        dep.record.resolutionDeadline e.config = .ok dep.resolutionDeadline ∧
        e.now ≤ dep.resolutionDeadline ∧
        dep.record.initiatorStake.sub dep.record.subsidy = .ok dep.ownShare := by
  simp only [admitDeposit, bind_eq_ok_iff, refuse_eq_ok_iff, pure_eq_ok_iff, mapError_eq_ok_iff,
    openDispute_eq_ok_iff, stakeDeadlineAhead_eq_ok_iff, resolutionDeadlineAhead_eq_ok_iff,
    Bool.not_eq_true, ne_eq, Decidable.not_not]
  constructor
  · rintro ⟨d, ⟨hget, hres⟩, hc, hstaked, t, ht, t', ⟨ht', hle'⟩, own, hown, rfl⟩
    exact ⟨hget, hres, hc, hstaked, ⟨t, ht⟩, ht', hle', hown⟩
  · rintro ⟨hget, hres, hc, hstaked, ⟨t, ht⟩, ht', hle', hown⟩
    exact ⟨_, ⟨hget, hres⟩, hc, hstaked, t, ht, _, ⟨ht', hle'⟩, _, hown, rfl⟩

/-- A record names the role that an account plays. -/
theorem partyOf_eq_some_iff {p : Party} :
    d.partyOf caller = some p ↔
      match p with
      | .initiator => caller = d.initiator
      | .counterparty => caller = d.counterparty ∧ caller ≠ d.initiator := by
  unfold Dispute.partyOf
  cases p <;> by_cases hi : caller = d.initiator <;> by_cases hc : caller = d.counterparty <;>
    simp_all

theorem admitSubsidy_eq_ok_iff {amount : Amount} :
    e.admitSubsidy caller id = .ok (d, amount) ↔
      e.store.get? id = some d ∧ d.resolved = false ∧ d.partyOf caller = some .counterparty ∧
        d.fullyStaked = false ∧ d.subsidy.isZero = true ∧
        (∃ t, d.stakeDeadline e.config = .ok t ∧ e.now ≤ t) ∧
        Policy.subsidyAmount d.initiatorStake (e.treasury.score d.initiator)
          e.config.subsidyBaseBps e.config.subsidyMaxBps = .ok amount ∧
        amount.isZero = false ∧ amount ≤ e.reserve := by
  simp only [admitSubsidy, bind_eq_ok_iff, openDispute_eq_ok_iff]
  constructor
  · rintro ⟨d', ⟨hget, hres⟩, h⟩
    split at h
    · rename_i hp
      simp only [bind_eq_ok_iff, refuse_eq_ok_iff, pure_eq_ok_iff, mapError_eq_ok_iff,
        stakeDeadlineAhead_eq_ok_iff, Prod.mk.injEq, Bool.not_eq_true, Bool.not_eq_eq_eq_not,
        Bool.not_true, Bool.not_eq_false, Amount.lt_iff, Nat.not_lt] at h
      obtain ⟨hstaked, hsub, t, ht, a, ha, hz, hle, rfl, rfl⟩ := h
      exact ⟨hget, hres, hp, hstaked, hsub, ⟨t, ht⟩, ha, hz, hle⟩
    · cases h
    · cases h
  · rintro ⟨hget, hres, hp, hstaked, hsub, ⟨t, ht⟩, ha, hz, hle⟩
    refine ⟨d, ⟨hget, hres⟩, ?_⟩
    simp only [hp, bind_eq_ok_iff, refuse_eq_ok_iff, pure_eq_ok_iff, mapError_eq_ok_iff,
      stakeDeadlineAhead_eq_ok_iff, Prod.mk.injEq, hstaked, hsub, Bool.not_eq_true,
      Bool.not_true, Amount.lt_iff, Nat.not_lt, true_and]
    exact ⟨t, ht, amount, ha, hz, hle, rfl⟩

theorem admitProposal_eq_ok_iff {p : SignedProposal} :
    e.admitProposal caller id p = .ok d ↔
      caller = e.oracle.account ∧ e.store.get? id = some d ∧ d.resolved = false ∧
        d.fullyStaked = true ∧ d.proposal = none ∧ p.text.toList.all Text.isBlank = false ∧
        (∃ t, d.resolutionDeadline e.config = .ok t ∧ e.now ≤ t) ∧
        e.oracle.verify id p = .ok () ∧ ∀ last, e.store.nonce = some last → last < p.nonce := by
  simp only [admitProposal, bind_eq_ok_iff, refuse_eq_ok_iff, mapError_eq_ok_iff,
    openDispute_eq_ok_iff, resolutionDeadlineAhead_eq_ok_iff, ne_eq, Decidable.not_not,
    Bool.not_eq_true, Bool.not_eq_eq_eq_not, Bool.not_true, Bool.not_eq_false,
    Option.isSome_eq_false_iff, Option.isNone_iff_eq_none]
  -- before the first proposal there is no nonce that the new one has to exceed
  cases hn : e.store.nonce with
  | none =>
    simp only [pure_eq_ok_iff, reduceCtorEq, false_implies, implies_true, and_true]
    constructor
    · rintro ⟨hc, d', ⟨hget, hres⟩, hs, hp, hb, t, ht, _, hv, rfl⟩
      exact ⟨hc, hget, hres, hs, hp, hb, ⟨t, ht⟩, hv⟩
    · rintro ⟨hc, hget, hres, hs, hp, hb, ⟨t, ht⟩, hv⟩
      exact ⟨hc, d, ⟨hget, hres⟩, hs, hp, hb, t, ht, (), hv, rfl⟩
  | some last =>
    simp only [refuse_eq_ok_iff, pure_eq_ok_iff, UInt64.not_le, Option.some.injEq,
      forall_eq']
    constructor
    · rintro ⟨hc, d', ⟨hget, hres⟩, hs, hp, hb, t, ht, _, hv, hlt, rfl⟩
      exact ⟨hc, hget, hres, hs, hp, hb, ⟨t, ht⟩, hv, hlt⟩
    · rintro ⟨hc, hget, hres, hs, hp, hb, ⟨t, ht⟩, hv, hlt⟩
      exact ⟨hc, d, ⟨hget, hres⟩, hs, hp, hb, t, ht, (), hv, hlt, rfl⟩

theorem admitAcceptance_eq_ok_iff {a : Acceptance} :
    e.admitAcceptance caller id = .ok a ↔
      e.store.get? id = some a.record ∧ a.record.resolved = false ∧
        a.record.partyOf caller = some a.party ∧
        (∃ p, a.record.proposal = some p ∧ a.text = p.text) ∧
        (∃ t, a.record.resolutionDeadline e.config = .ok t ∧ e.now ≤ t) ∧
        a.record.hasAccepted a.party = false := by
  simp only [admitAcceptance, bind_eq_ok_iff, openDispute_eq_ok_iff]
  constructor
  · rintro ⟨d, ⟨hget, hres⟩, h⟩
    split at h
    · exact absurd h throw_ne_ok
    · rename_i party hparty
      split at h
      · exact absurd h throw_ne_ok
      · rename_i p hp
        simp only [bind_eq_ok_iff, refuse_eq_ok_iff, pure_eq_ok_iff,
          resolutionDeadlineAhead_eq_ok_iff, Bool.not_eq_true] at h
        obtain ⟨t, ht, hacc, rfl⟩ := h
        exact ⟨hget, hres, hparty, ⟨p, hp, rfl⟩, ⟨t, ht⟩, hacc⟩
  · rintro ⟨hget, hres, hparty, ⟨p, hp, htext⟩, ⟨t, ht⟩, hacc⟩
    refine ⟨a.record, ⟨hget, hres⟩, ?_⟩
    simp only [hparty, hp, bind_eq_ok_iff, refuse_eq_ok_iff, pure_eq_ok_iff,
      resolutionDeadlineAhead_eq_ok_iff, hacc, Bool.false_eq_true, not_false_eq_true, true_and]
    exact ⟨t, ht, by rw [← htext]⟩

theorem admitCounter_eq_ok_iff {r : CounterRequest} {c : CounterRound} :
    e.admitCounter caller id r = .ok c ↔
      e.store.get? id = some c.record ∧ c.record.resolved = false ∧
        c.record.partyOf caller = some c.party ∧ c.record.fullyStaked = true ∧
        (∃ t, c.record.resolutionDeadline e.config = .ok t ∧ e.now ≤ t) ∧
        Policy.counterFee e.config.counterBaseFee c.record.counterCount e.config.maxCounters =
          .ok c.fee ∧
        c.fee ≤ r.maxFee := by
  simp only [admitCounter, bind_eq_ok_iff, openDispute_eq_ok_iff]
  constructor
  · rintro ⟨d, ⟨hget, hres⟩, h⟩
    split at h
    · exact absurd h throw_ne_ok
    · rename_i party hparty
      simp only [bind_eq_ok_iff, refuse_eq_ok_iff, resolutionDeadlineAhead_eq_ok_iff,
        Bool.not_eq_eq_eq_not, Bool.not_true, Bool.not_eq_false] at h
      obtain ⟨hs, t, ht, h⟩ := h
      split at h
      · exact absurd h throw_ne_ok
      · exact absurd h throw_ne_ok
      · rename_i fee hfee
        simp only [refuse_eq_ok_iff, pure_eq_ok_iff, Amount.lt_iff, Nat.not_lt] at h
        obtain ⟨hle, rfl⟩ := h
        exact ⟨hget, hres, hparty, hs, ⟨t, ht⟩, hfee, hle⟩
  · rintro ⟨hget, hres, hparty, hs, ⟨t, ht⟩, hfee, hle⟩
    refine ⟨c.record, ⟨hget, hres⟩, ?_⟩
    simp only [hparty, hs, hfee, bind_eq_ok_iff, refuse_eq_ok_iff, pure_eq_ok_iff,
      resolutionDeadlineAhead_eq_ok_iff, Bool.not_true, Bool.false_eq_true, not_false_eq_true,
      Amount.lt_iff, Nat.not_lt, true_and, and_true]
    exact ⟨t, ht, hle⟩

theorem admitEnforcement_eq_silent_iff :
    e.admitEnforcement id = .ok (.silent d) ↔
      e.store.get? id = some d ∧ d.resolved = false ∧ d.fullyStaked = false ∧
        ∃ t, d.stakeDeadline e.config = .ok t ∧ t < e.now := by
  simp only [admitEnforcement, bind_eq_ok_iff, openDispute_eq_ok_iff]
  constructor
  · rintro ⟨d', ⟨hget, hres⟩, h⟩
    split at h
    · simp only [bind_eq_ok_iff, refuse_eq_ok_iff, pure_eq_ok_iff, reduceCtorEq, and_false,
        exists_false] at h
    · rename_i hs
      simp only [bind_eq_ok_iff, refuse_eq_ok_iff, pure_eq_ok_iff, mapError_eq_ok_iff,
        Overdue.silent.injEq] at h
      obtain ⟨t, ht, hlt, rfl⟩ := h
      exact ⟨hget, hres, Bool.not_eq_true _ ▸ hs, t, ht, hlt⟩
  · rintro ⟨hget, hres, hs, t, ht, hlt⟩
    refine ⟨d, ⟨hget, hres⟩, ?_⟩
    simp only [hs, Bool.false_eq_true, if_false, bind_eq_ok_iff, refuse_eq_ok_iff,
      pure_eq_ok_iff, mapError_eq_ok_iff, and_true]
    exact ⟨t, ht, hlt⟩

theorem admitEnforcement_eq_deadlocked_iff {s : Settlement} :
    e.admitEnforcement id = .ok (.deadlocked d s) ↔
      e.store.get? id = some d ∧ d.resolved = false ∧ d.fullyStaked = true ∧
        (∃ t, d.resolutionDeadline e.config = .ok t ∧ t < e.now) ∧
        Policy.timeoutSplit d.initiatorStake d.counterpartyStake e.config.timeoutBurnBps =
          .ok s := by
  simp only [admitEnforcement, bind_eq_ok_iff, openDispute_eq_ok_iff]
  constructor
  · rintro ⟨d', ⟨hget, hres⟩, h⟩
    split at h
    · rename_i hs
      simp only [bind_eq_ok_iff, refuse_eq_ok_iff, pure_eq_ok_iff, mapError_eq_ok_iff,
        Overdue.deadlocked.injEq] at h
      obtain ⟨t, ht, hlt, s', hs', rfl, rfl⟩ := h
      exact ⟨hget, hres, hs, ⟨t, ht, hlt⟩, hs'⟩
    · simp only [bind_eq_ok_iff, refuse_eq_ok_iff, pure_eq_ok_iff, reduceCtorEq, and_false,
        exists_false] at h
  · rintro ⟨hget, hres, hs, ⟨t, ht, hlt⟩, hs'⟩
    refine ⟨d, ⟨hget, hres⟩, ?_⟩
    simp only [hs, if_true, bind_eq_ok_iff, refuse_eq_ok_iff, pure_eq_ok_iff, mapError_eq_ok_iff]
    exact ⟨t, ht, hlt, s, hs', rfl⟩

theorem admitRetry_eq_ok_iff {r : Release} :
    e.admitRetry id = .ok (d, r) ↔
      e.store.get? id = some d ∧ d.pendingRelease = some r ∧ d.resolved = true := by
  simp only [admitRetry, bind_eq_ok_iff, dispute_eq_ok_iff]
  constructor
  · rintro ⟨d', hget, h⟩
    split at h
    · rename_i r' hr'
      split at h
      · rename_i hres
        cases h
        exact ⟨hget, hr', hres⟩
      · exact absurd h throw_ne_ok
    · exact absurd h throw_ne_ok
  · rintro ⟨hget, hr, hres⟩
    exact ⟨d, hget, by simp only [hr, hres, if_true, pure_eq_ok_iff]⟩

end Engine

end Arbitration
