import Arbitration.Proofs.Custody
import Arbitration.Proofs.Failures

/-!
# Only callers pay

Value leaves the account of a party in three operations, and only if the party calls them itself:
it files, it matches a stake, or it opens another round. All other moves come out of accounts of
the protocol, and no party can be one of those. What the three cost is known from the records
(`Engine.Charges`), so **nobody can be made to pay** by what others do: filings against an account,
forced resolutions and operations that fail take nothing from it. An operation that fails may have
paid others before, and takes that back, but no more than that.
-/

namespace Arbitration

/-! ### What an operation costs -/

/-- What a successful operation costs the one who pays: the stake of the record that it opens, the
stake that it matches less the subsidy, or the fee of the round. Where the rest of the offer goes
to the pool, a round costs all that was offered. -/
inductive Engine.Charges (e e' : Engine) : Operation → Nat → Prop
  | filing {caller : AccountId} {r : InitiateRequest} {d : Dispute}
      (opened : e'.store.get? e.store.nextId = some d) :
      Charges e e' (.initiate caller r) d.initiatorStake.toNat
  | deposit {caller : AccountId} {id : DisputeId} {d : Dispute} {own : Nat}
      (found : e.store.get? id = some d) (share : own + d.subsidy.toNat = d.initiatorStake.toNat) :
      Charges e e' (.deposit caller id) own
  | round {caller : AccountId} {id : DisputeId} {r : CounterRequest} {d : Dispute} {fee : Amount}
      (found : e.store.get? id = some d)
      (asked : Policy.counterFee e.config.counterBaseFee d.counterCount e.config.maxCounters =
        .ok fee)
      (offered : fee ≤ r.maxFee) :
      Charges e e' (.counter caller id r)
        (if e.config.routeExcessFeeToPool then r.maxFee.toNat else fee.toNat)

/-- A round never costs more than what was offered. -/
theorem Engine.Charges.le_maxFee {e e' : Engine} {caller : AccountId} {id : DisputeId}
    {r : CounterRequest} {cost : Nat} (h : e.Charges e' (.counter caller id r) cost) :
    cost ≤ r.maxFee.toNat := by
  cases h with
  | round found asked offered =>
    split
    · exact Nat.le_refl _
    · exact offered

section Outsider

variable {e : Engine} {a : AccountId} (ha : a.isSystem = false)
include ha

/-! ### Others do not pay -/

/-- A resolution takes from the pots alone. -/
theorem Resolves.taken_eq {d : Dispute} {r : Resolution} {moves : List Move}
    {events : List (DisputeId × Event)} {f : Footprint} (h : Resolves e d r moves events f)
    (hs : e.Standard) : taken a f.moves = taken a moves := by
  obtain ⟨burned, -, hmoves⟩ := h.exists_moves
  obtain ⟨hescrow, -, hearmark, -⟩ := hs.protocol_ne ha
  rw [hmoves, taken_append]
  simp only [Resolution.moves, Resolution.payouts, List.cons_append, List.nil_append, taken_cons,
    taken_nil, if_neg hescrow, if_neg hearmark, Nat.add_zero]

/-- **One operation.** Nothing is taken from a party that does not pay for the operation. -/
theorem Succeeds.taken_eq_zero {op : Operation} {answer : Answer} {f : Footprint}
    (hs : Succeeds e op answer f) (h : e.Sound) (hpayer : op.payer ≠ some a) :
    taken a f.moves = 0 := by
  obtain ⟨-, hfund, hearmark, -, -, hreserve⟩ := h.standard.protocol_ne ha
  cases hs with
  | @initiate caller r stake earmarked escalated treasury registry store deadline admitted setAside
      counted frozen dated written =>
    have hcaller : caller ≠ a := fun hc => hpayer (congrArg some hc)
    simp only [taken_cons, taken_nil, if_neg hcaller, if_neg hreserve]
  | @deposit caller id dep total store admitted added written =>
    obtain ⟨-, -, hparty, -⟩ := Engine.admitDeposit_eq_ok_iff.1 admitted
    have hcaller : dep.record.counterparty ≠ a := fun hc => hpayer (congrArg some (hparty.trans hc))
    simp only [taken_cons, taken_nil, if_neg hcaller, if_neg hfund]
  | grantSubsidy admitted written => simp only [taken_cons, taken_nil, if_neg hreserve]
  | submit admitted written => rfl
  | accept admitted one written => rfl
  | agree admitted both resolves => exact resolves.taken_eq ha h.standard
  | @counter caller id r c routed next deadline store admitted routes opened dated written =>
    have hcaller : caller ≠ a := fun hc => hpayer (congrArg some hc)
    simp only [taken_cons, taken_nil, if_neg hcaller]
  | @lapse caller source id d draw skipped f admitted draws resolves =>
    -- the incentive comes from the reserve or from what was set aside
    have hsource : source ≠ a := by
      rcases draws.source with ⟨-, rfl⟩ | ⟨-, rfl, -⟩
      · exact hreserve
      · exact hearmark
    rw [resolves.taken_eq ha h.standard]
    simp only [Engine.subsidyReturn, taken_cons, taken_nil, if_neg hfund, if_neg hsource]
  | deadlock admitted resolves => exact resolves.taken_eq ha h.standard
  | retry admitted freed written => rfl

/-! ### What the caller pays -/

/-- **One operation.** Who pays for it is charged the cost, and is given nothing. -/
theorem Succeeds.exists_charges {op : Operation} {answer : Answer} {f : Footprint}
    (hs : Succeeds e op answer f) (h : e.Sound) (hpayer : op.payer = some a) (ledger : Ledger) :
    ∃ cost, e.Charges (e.having f ledger) op cost ∧ taken a f.moves = cost ∧
      given a f.moves = 0 := by
  obtain ⟨hescrow, hfund, hearmark, hsink, hpool, hreserve⟩ := h.standard.protocol_ne ha
  cases hs with
  | @initiate caller r stake earmarked escalated treasury registry store deadline admitted setAside
      counted frozen dated written =>
    obtain rfl := Option.some.inj hpayer
    have hopened : store.get? e.store.nextId =
        some (e.filed caller r stake escalated earmarked) :=
      (Store.get?_of_write written _).trans (if_pos rfl)
    refine ⟨_, .filing hopened, ?_, ?_⟩
    · simp only [taken_cons, taken_nil, if_true, if_neg hreserve]
      rfl
    · simp only [given_cons, given_nil, if_neg hescrow, if_neg hearmark]
  | @deposit caller id dep total store admitted added written =>
    obtain ⟨hget, -, hparty, -, -, -, -, hown⟩ := Engine.admitDeposit_eq_ok_iff.1 admitted
    obtain rfl := Option.some.inj hpayer
    refine ⟨dep.ownShare.toNat, .deposit hget (Amount.sub_eq_ok_iff.1 hown), ?_, ?_⟩
    · simp only [taken_cons, taken_nil, ← hparty, if_true, if_neg hfund, Nat.add_zero]
    · simp only [given_cons, given_nil, if_neg hescrow]
  | @counter caller id r c routed next deadline store admitted routes opened dated written =>
    obtain ⟨hget, -, -, -, -, hfee, hoffered⟩ := Engine.admitCounter_eq_ok_iff.1 admitted
    obtain rfl := Option.some.inj hpayer
    refine ⟨_, .round hget hfee hoffered, ?_, ?_⟩
    · simp only [taken_cons, taken_nil, if_true, Nat.add_zero]
      split at routes
      · rename_i hroutes
        have hsum := Amount.sub_eq_ok_iff.1 routes
        rw [if_pos hroutes]
        omega
      · rename_i hroutes
        rw [if_neg hroutes, routes, Amount.toNat_zero, Nat.add_zero]
    · simp only [given_cons, given_nil, if_neg hsink, if_neg hpool]
  | _ => cases hpayer

/-! ### Every run -/

/-- A party that pays for none of the operations that succeed in a clean run holds at the end what
it held at the start, or more. -/
theorem Engine.Sound.balance_le_run {turns : List Turn} (h : e.Sound)
    (hclean : e.runsCleanly turns = true) (hnever : ∀ op ∈ e.history turns, op.payer ≠ some a) :
    e.ledger.balance a ≤ (e.run turns).ledger.balance a := by
  refine h.history_induction (P := fun past e' => (∀ op ∈ past, op.payer ≠ some a) →
    e.ledger.balance a ≤ e'.ledger.balance a) ?_ ?_ hclean (fun _ => Nat.le_refl _) hnever
  · intro past e₁ e₂ hidle hle hpast
    rw [hidle.balance]
    exact hle hpast
  · intro past e₁ op answer f ledger hsound hsucceeds hmoves hle hpast
    obtain ⟨hbefore, hlast⟩ := List.forall_mem_append.1 hpast
    have htaken := hsucceeds.taken_eq_zero ha hsound (hlast op (List.mem_singleton_self op))
    have hbalance := hmoves.balance a
    have hold := Amount.le_iff.1 (hle hbefore)
    show (e.ledger.balance a).toNat ≤ (ledger.balance a).toNat
    omega

end Outsider

/-- **Only callers pay.** Take any state of a clean run and any account that is not one of the
protocol's. An operation that fails and is taken back leaves its balance. An operation that
succeeds can only raise it, unless the account itself files, matches a stake or opens a round: then
it is charged exactly the stake of the record, the stake less the subsidy, or the fee of the round,
and never more than it offered for a round. So an account for which none of these calls succeeds
ends the run with what it had at the start, or more. -/
theorem only_callers_pay {start : Engine} {turns : List Turn} (h : CleanRun start turns)
    {a : AccountId} (ha : a.isSystem = false) :
    (∀ op err e', (start.run turns).takesBack op = true →
        (start.run turns).perform op = (.error err, e') →
        e'.ledger.balance a = (start.run turns).ledger.balance a) ∧
      (∀ op answer e', op.payer ≠ some a → (start.run turns).perform op = (.ok answer, e') →
        (start.run turns).ledger.balance a ≤ e'.ledger.balance a) ∧
      (∀ op answer e', op.payer = some a → (start.run turns).perform op = (.ok answer, e') →
        ∃ cost, (start.run turns).Charges e' op cost ∧
          (e'.ledger.balance a).toNat + cost = ((start.run turns).ledger.balance a).toNat ∧
          ∀ id r, op = .counter a id r → cost ≤ r.maxFee.toNat) ∧
      ((∀ op ∈ start.history turns, op.payer ≠ some a) →
        start.ledger.balance a ≤ (start.run turns).ledger.balance a) := by
  have hsound := h.sound
  refine ⟨fun op err e' hclean hfailed => (hsound.idle_of_error hclean hfailed).balance a,
    fun op answer e' hpayer hdone => ?_, fun op answer e' hpayer hdone => ?_,
    h.fresh.sound.balance_le_run ha h.clean⟩
  · obtain ⟨f, ledger, hsucceeds, hmoves, rfl⟩ := Engine.perform_ok hsound.keyed hdone
    have htaken := hsucceeds.taken_eq_zero ha hsound hpayer
    have hbalance := hmoves.balance a
    show ((start.run turns).ledger.balance a).toNat ≤ (ledger.balance a).toNat
    omega
  · obtain ⟨f, ledger, hsucceeds, hmoves, rfl⟩ := Engine.perform_ok hsound.keyed hdone
    obtain ⟨cost, hcharges, htaken, hgiven⟩ := hsucceeds.exists_charges ha hsound hpayer ledger
    have hbalance := hmoves.balance a
    rw [htaken, hgiven] at hbalance
    refine ⟨cost, hcharges, hbalance, fun id r hop => ?_⟩
    subst hop
    exact hcharges.le_maxFee

namespace Sample

/-- Bob stays silent, and Alice has the dispute enforced. -/
def defaulted : List Turn := silence ++ [.call (.enforce alice .first)]

end Sample

/-- Bob's deposit costs him his stake of a hundred less the subsidy of five, and as long as he
stays silent nothing that Alice does costs him anything. -/
theorem bob_pays_for_his_deposit :
    CleanRun Sample.engine Sample.subsidised ∧ CleanRun Sample.engine Sample.defaulted ∧
      (((Sample.engine.run Sample.subsidised).perform
          (.deposit Sample.bob .first)).2.ledger.balance Sample.bob).toNat + 95 =
        ((Sample.engine.run Sample.subsidised).ledger.balance Sample.bob).toNat ∧
      Sample.engine.ledger.balance Sample.bob ≤
        (Sample.engine.run Sample.defaulted).ledger.balance Sample.bob := by
  have hsubsidised : CleanRun Sample.engine Sample.subsidised :=
    ⟨Sample.engine_fresh, by decide +kernel⟩
  have hdefaulted : CleanRun Sample.engine Sample.defaulted :=
    ⟨Sample.engine_fresh, by decide +kernel⟩
  have hbob : Sample.bob.isSystem = false := by decide
  have hdone : ((Sample.engine.run Sample.subsidised).perform
      (.deposit Sample.bob .first)).1 = .ok .done := by rfl
  obtain ⟨-, -, hcharged, -⟩ := only_callers_pay hsubsidised hbob
  obtain ⟨cost, hcharges, hbalance, -⟩ :=
    hcharged (.deposit Sample.bob .first) _ _ rfl (Prod.ext hdone rfl)
  obtain ⟨-, -, -, hnever⟩ := only_callers_pay hdefaulted hbob
  have hstakes : ((Sample.engine.run Sample.subsidised).store.get? .first).any
      (fun d => d.initiatorStake = ⟨100⟩ && d.subsidy = ⟨5⟩) = true := by decide +kernel
  have hcost : cost = 95 := by
    cases hcharges with
    | deposit found share =>
      rw [found, Option.any_some, Bool.and_eq_true, decide_eq_true_eq, decide_eq_true_eq] at hstakes
      rw [hstakes.1, hstakes.2] at share
      exact Nat.add_right_cancel (share.trans (rfl : (100 : Nat) = 95 + 5))
  rw [hcost] at hbalance
  exact ⟨hsubsidised, hdefaulted, hbalance, hnever (by decide +kernel)⟩

end Arbitration
