import Arbitration.Proofs.Failures

/-!
# Subsidies in whole numbers

What a counterparty is granted is a share of the initiator's stake, at a rate that grows with the
initiator's score up to a ceiling. Rate and score are multiplied in 64 bits, and where the product
is too large for these the ceiling takes its place. That makes no difference: the ceiling is a
number of 64 bits too, so it was the smaller one (`Policy.toNat_subsidyRate`). The subsidy is the
share that **one formula in whole numbers** gives (`Policy.subsidyShare`), and what is shown of the
formula holds of the subsidy.

With a ceiling of at most the whole no subsidy exceeds the stake that it is for. A subsidy is
granted before the deposit that uses it, so that the counterparty's own share is always there to be
computed takes an induction over the run (`Engine.Capped.run`). The run may be any: a failed
operation leaves the records, whatever was refused on the way back.
-/

namespace Arbitration

namespace Policy

/-! ### The formula -/

/-- The subsidy in whole numbers. -/
def subsidyShare (stake score baseBps maxBps : Nat) : Nat :=
  stake * min (baseBps * (score + 1)) maxBps / wholeBps

/-- It grows with each of its arguments: rounding down keeps the order, and so does the ceiling. -/
theorem subsidyShare_mono {stake stake' score score' baseBps baseBps' maxBps maxBps' : Nat}
    (hstake : stake ≤ stake') (hscore : score ≤ score') (hbase : baseBps ≤ baseBps')
    (hmax : maxBps ≤ maxBps') :
    subsidyShare stake score baseBps maxBps ≤ subsidyShare stake' score' baseBps' maxBps' := by
  have hrate : baseBps * (score + 1) ≤ baseBps' * (score' + 1) :=
    Nat.mul_le_mul hbase (Nat.succ_le_succ hscore)
  have hceiling : min (baseBps * (score + 1)) maxBps ≤ min (baseBps' * (score' + 1)) maxBps' := by
    omega
  exact Nat.div_le_div_right (Nat.mul_le_mul hstake hceiling)

variable {stake amount : Amount} {score : UInt32} {baseBps maxBps : UInt64}

theorem subsidyAmount_eq : subsidyAmount stake score baseBps maxBps =
    Amount.checked .rateScaling
      (subsidyShare stake.toNat score.toNat baseBps.toNat maxBps.toNat) := by
  rw [subsidyAmount, Amount.mulBps, toNat_subsidyRate, subsidyShare]

/-- A larger stake, score, rate or ceiling never has a smaller subsidy, and if it has one at all, so
has the smaller one. -/
theorem exists_subsidyAmount_le {stake' more : Amount} {score' : UInt32} {baseBps' maxBps' : UInt64}
    (hstake : stake ≤ stake') (hscore : score ≤ score') (hbase : baseBps ≤ baseBps')
    (hmax : maxBps ≤ maxBps') (hmore : subsidyAmount stake' score' baseBps' maxBps' = .ok more) :
    ∃ amount, subsidyAmount stake score baseBps maxBps = .ok amount ∧ amount ≤ more := by
  have hle := subsidyShare_mono (Amount.le_iff.1 hstake) (UInt32.le_iff_toNat_le.1 hscore)
    (UInt64.le_iff_toNat_le.1 hbase) (UInt64.le_iff_toNat_le.1 hmax)
  rw [subsidyAmount_eq, Amount.checked_eq_ok_iff] at hmore
  rw [← hmore] at hle
  obtain ⟨amount, hamount⟩ :=
    Amount.exists_checked .rateScaling (Nat.lt_of_le_of_lt hle more.toNat_lt)
  refine ⟨amount, subsidyAmount_eq.trans hamount, Amount.le_iff.2 ?_⟩
  rw [Amount.checked_eq_ok_iff.1 hamount]
  exact hle

/-- Below a ceiling of at most the whole there is a subsidy, and it leaves an own share. -/
theorem exists_ownShare (stake : Amount) (score : UInt32) (baseBps : UInt64)
    (hmax : maxBps.toNat ≤ wholeBps) :
    ∃ amount own, subsidyAmount stake score baseBps maxBps = .ok amount ∧ amount ≤ stake ∧
      stake.sub amount = .ok own ∧ own.toNat + amount.toNat = stake.toNat := by
  have hrate := Nat.le_trans (subsidyRate_le score baseBps maxBps) hmax
  obtain ⟨amount, hamount⟩ := Amount.exists_mulBps (a := stake) hrate
  have hle := Amount.mulBps_le hrate hamount
  obtain ⟨own, hown⟩ := Amount.exists_sub hle
  exact ⟨amount, own, hamount, Amount.le_iff.2 hle, hown, Amount.sub_eq_ok_iff.1 hown⟩

end Policy

/-! ### Own shares in a run -/

namespace Engine

/-- No subsidy in the records exceeds the stake that it is for, and none will. -/
structure Capped (e : Engine) : Prop where
  ceiling : e.config.subsidyMaxBps.toNat ≤ wholeBps
  keyed : e.store.Keyed
  records : ∀ id d, e.store.get? id = some d → d.subsidy.toNat ≤ d.initiatorStake.toNat

variable {e e' : Engine} {op : Operation}

/-- A resolution changes neither the subsidy nor the stake. -/
theorem Capped.of_resolves {d : Dispute} {r : Resolution} {moves : List Move}
    {events : List (DisputeId × Event)} {f : Footprint} (h : Resolves e d r moves events f)
    (hle : d.subsidy.toNat ≤ d.initiatorStake.toNat) :
    ∃ w, e.store.write w = .ok f.store ∧
      w.record.subsidy.toNat ≤ w.record.initiatorStake.toNat := by
  obtain ⟨waiting, hwritten⟩ := h.exists_written
  exact ⟨_, hwritten, hle⟩

/-- **Every successful operation** writes a record with a subsidy of at most the stake. Most carry
over both, and what a grant puts in is a share of the stake. -/
theorem Capped.exists_write {answer : Answer} {f : Footprint} (h : e.Capped)
    (hs : Succeeds e op answer f) :
    ∃ w, e.store.write w = .ok f.store ∧
      w.record.subsidy.toNat ≤ w.record.initiatorStake.toNat := by
  cases hs with
  | initiate admitted setAside counted frozen dated written => exact ⟨_, written, Nat.zero_le _⟩
  | @deposit caller id dep total store admitted added written =>
    obtain ⟨hget, -⟩ := admitDeposit_eq_ok_iff.1 admitted
    have hle := h.records id _ hget
    exact ⟨_, written, hle⟩
  | @grantSubsidy caller id d amount store admitted written =>
    obtain ⟨hget, -, -, -, -, -, hamount, -⟩ := admitSubsidy_eq_ok_iff.1 admitted
    exact ⟨_, written, Policy.subsidyAmount_le h.ceiling hamount⟩
  | @submit caller id p d store admitted written =>
    obtain ⟨-, hget, -⟩ := admitProposal_eq_ok_iff.1 admitted
    have hle := h.records id _ hget
    exact ⟨_, written, hle⟩
  | @accept caller id a store admitted one written =>
    obtain ⟨hget, -⟩ := admitAcceptance_eq_ok_iff.1 admitted
    obtain ⟨i, c, haccept⟩ := a.record.accept_eq a.party
    rw [haccept] at written
    have hle := h.records id _ hget
    exact ⟨_, written, hle⟩
  | @agree caller id a f admitted both resolves =>
    obtain ⟨hget, -⟩ := admitAcceptance_eq_ok_iff.1 admitted
    obtain ⟨i, c, haccept⟩ := a.record.accept_eq a.party
    rw [haccept] at resolves
    have hle := h.records id _ hget
    exact Capped.of_resolves resolves hle
  | @counter caller id r c routed next deadline store admitted routes opened dated written =>
    obtain ⟨hget, -⟩ := admitCounter_eq_ok_iff.1 admitted
    obtain ⟨startTime, -, -, -, rfl⟩ := Dispute.counterRound_eq_ok_iff.1 opened
    have hle := h.records id _ hget
    exact ⟨_, written, hle⟩
  | @lapse caller source id d draw skipped f admitted draws resolves =>
    obtain ⟨hget, -⟩ := admitEnforcement_eq_silent_iff.1 admitted
    have hle := h.records id _ hget
    exact Capped.of_resolves resolves hle
  | @deadlock caller id d settlement f admitted resolves =>
    obtain ⟨hget, -⟩ := admitEnforcement_eq_deadlocked_iff.1 admitted
    have hle := h.records id _ hget
    exact Capped.of_resolves resolves hle
  | @retry caller id d release registry store admitted freed written =>
    obtain ⟨hget, -⟩ := admitRetry_eq_ok_iff.1 admitted
    have hle := h.records id _ hget
    exact ⟨_, written, hle⟩

/-- **One step**, whatever is refused in it. -/
theorem Capped.step (h : e.Capped) (s : Turn) : (e.step s).Capped := by
  cases s with
  | clock now => exact { h with }
  | switch switches => exact { h with }
  | call op =>
    show (e.perform op).2.Capped
    rcases hdone : e.perform op with ⟨err | answer, e'⟩
    · have hstore := store_of_error h.keyed hdone
      have hconfig := (aligned_of_error h.keyed hdone).config
      exact ⟨hconfig ▸ h.ceiling, hstore ▸ h.keyed, hstore ▸ h.records⟩
    · obtain ⟨f, ledger, hsucceeds, -, rfl⟩ := perform_ok h.keyed hdone
      obtain ⟨w, hwritten, hle⟩ := h.exists_write hsucceeds
      exact ⟨h.ceiling, Store.keyed_of_write h.keyed hwritten,
        Store.forall_get?_of_write hwritten hle h.records⟩

/-- **Every run** keeps it. -/
theorem Capped.run (h : e.Capped) (turns : List Turn) : (e.run turns).Capped :=
  List.foldlRecOn (motive := Engine.Capped) turns Engine.step h fun _ hcapped s _ => hcapped.step s

/-- A valid configuration caps subsidies, and an empty store has none. -/
theorem capped_of_valid (hvalid : e.config.validate = .ok ()) (hstore : e.store = {}) :
    e.Capped := by
  obtain ⟨-, -, -, -, -, -, -, -, -, hmax, -⟩ := Config.validate_eq_ok_iff.1 hvalid
  refine ⟨hmax, fun id d hget => ?_, fun id d hget => ?_⟩ <;>
  · rw [hstore] at hget
    cases hget

/-- Where subsidies are capped, what is short in a deposit is never its own share. -/
theorem Capped.admitDeposit_ne (h : e.Capped) (caller : AccountId) (id : DisputeId) :
    e.admitDeposit caller id ≠ .error (.arithmetic .amountDifference) := by
  intro hfailed
  rcases fails_admitDeposit (h.records id) _ hfailed with hrejected | hexceeded
  · cases hrejected
  · cases hexceeded

end Engine

/-! ### Exactness -/

open Policy in
/-- **A subsidy is exactly its formula in whole numbers.** It is the share of the stake that the
formula gives, rounded down, and there is none if and only if this exceeds 64 bits; that rate and
score may exceed them earlier is not seen. It grows with the stake, the score, the rate and the
ceiling. With a ceiling of at most the whole there always is one, of at most the stake, and so the
deposit that uses it has an own share: in every run under a valid configuration, from the empty
store and whatever is refused on the way, subsidy and own share of each record come to the stake
together, and no deposit fails for a difference of amounts. -/
theorem subsidy_is_exact :
    (∀ (stake : Amount) (score : UInt32) (baseBps maxBps : UInt64),
      let exact := stake.toNat * min (baseBps.toNat * (score.toNat + 1)) maxBps.toNat / 10000
      (∀ amount, subsidyAmount stake score baseBps maxBps = .ok amount ↔ amount.toNat = exact) ∧
      (∀ err, subsidyAmount stake score baseBps maxBps = .error err ↔
        UInt64.size ≤ exact ∧ err = .rateScaling) ∧
      (∀ stake' score' baseBps' maxBps' more,
        stake ≤ stake' → score ≤ score' → baseBps ≤ baseBps' → maxBps ≤ maxBps' →
        subsidyAmount stake' score' baseBps' maxBps' = .ok more →
        ∃ amount, subsidyAmount stake score baseBps maxBps = .ok amount ∧ amount ≤ more) ∧
      (maxBps.toNat ≤ 10000 →
        ∃ amount own, subsidyAmount stake score baseBps maxBps = .ok amount ∧ amount ≤ stake ∧
          stake.sub amount = .ok own ∧ own.toNat + amount.toNat = stake.toNat)) ∧
    (∀ (start : Engine) (turns : List Turn),
      start.config.validate = .ok () → start.store = {} →
      (∀ id d, (start.run turns).store.get? id = some d →
        ∃ own, d.initiatorStake.sub d.subsidy = .ok own ∧
          own.toNat + d.subsidy.toNat = d.initiatorStake.toNat) ∧
      (∀ caller id,
        (start.run turns).admitDeposit caller id ≠ .error (.arithmetic .amountDifference))) := by
  refine ⟨fun stake score baseBps maxBps => ⟨fun amount => ?_, fun err => ?_, ?_, ?_⟩,
    fun start turns hvalid hstore => ?_⟩
  · rw [subsidyAmount_eq]
    exact Amount.checked_eq_ok_iff
  · rw [subsidyAmount_eq]
    exact Amount.checked_eq_error_iff.trans (and_congr_right fun _ => eq_comm)
  · intro stake' score' baseBps' maxBps' more hstake hscore hbase hmax hmore
    exact exists_subsidyAmount_le hstake hscore hbase hmax hmore
  · exact exists_ownShare stake score baseBps
  · have hcapped := (Engine.capped_of_valid hvalid hstore).run turns
    refine ⟨fun id d hget => ?_, hcapped.admitDeposit_ne⟩
    obtain ⟨own, hown⟩ := Amount.exists_sub (hcapped.records id d hget)
    exact ⟨own, hown, Amount.sub_eq_ok_iff.1 hown⟩

namespace Sample

/-- Bob, who has no score, is granted a subsidy for the stake that he has to match. -/
def granting : List Turn := [.call (.initiate alice filing), .call (.grantSubsidy bob .first)]

end Sample

open Policy in
/-- A rate beyond 64 bits is cut to the ceiling, one above the whole can exceed them, and of a stake
of one hundred the default rate leaves ninety-five to the counterparty. -/
theorem ceiling_replaces_large_rate :
    subsidyAmount ⟨100⟩ 4294967295 18446744073709551615 10000 = .ok ⟨100⟩ ∧
    subsidyAmount ⟨18446744073709551615⟩ 0 10001 10001 = .error .rateScaling ∧
    ∃ d own, (Sample.engine.run Sample.granting).store.get? .first = some d ∧
      d.initiatorStake.sub d.subsidy = .ok own ∧ own.toNat = 95 ∧ d.subsidy.toNat = 5 := by
  obtain ⟨hformula, hruns⟩ := subsidy_is_exact
  obtain ⟨hcut, -⟩ := hformula ⟨100⟩ 4294967295 18446744073709551615 10000
  obtain ⟨-, hlarge, -⟩ := hformula ⟨18446744073709551615⟩ 0 10001 10001
  obtain ⟨hshares, -⟩ := hruns Sample.engine Sample.granting rfl rfl
  have hgranted : ((Sample.engine.run Sample.granting).store.get? .first).any
      (fun d => d.initiatorStake = ⟨100⟩ ∧ d.subsidy = ⟨5⟩) = true := by
    decide +kernel
  obtain ⟨d, hget, hd⟩ := (Option.any_eq_true _ _).1 hgranted
  obtain ⟨hstake, hsubsidy⟩ := of_decide_eq_true hd
  obtain ⟨own, hown, hsum⟩ := hshares .first d hget
  rw [hstake, hsubsidy] at hsum
  have hfive : (Amount.toNat ⟨5⟩) = 5 := rfl
  have hhundred : (Amount.toNat ⟨100⟩) = 100 := rfl
  exact ⟨(hcut _).2 (by decide), (hlarge _).2 (by decide), d, own, hget, hown, by omega,
    by rw [hsubsidy]; rfl⟩

end Arbitration
