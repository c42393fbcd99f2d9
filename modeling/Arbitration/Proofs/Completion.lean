import Arbitration.Proofs.Preservation

/-!
# No stake is locked in

A dispute can always be brought to its end. Once its deadline has passed **anyone** can enforce it,
and until then a proposal that one party has accepted can be accepted by the other. In a sound
engine whose parts refuse nothing, none of the reasons for which these two operations fail applies:
the pots cover what is moved, a supply in range leaves room for every credit, the asset is frozen
and not yet licensed, the settlement was made from the stakes, and the deadlines are in the
calendar.
-/

namespace Arbitration

/-! ### Engines that refuse nothing -/

namespace Engine

/-- No part is made to refuse what these operations ask for, and the supply is in range. -/
structure Unimpeded (e : Engine) : Prop where
  refusedCredit : e.ledger.refusedCredit = none
  faults : e.registry.faults = {}
  refuseWrites : e.store.refuseWrites = false
  supply : e.ledger.totalSupply < UInt64.size

variable {e : Engine} {d : Dispute}

/-- No write of a known record is refused. -/
theorem Unimpeded.not_unwritten {w : StoreWrite} {err : StoreError} (h : e.Unimpeded)
    (hget : e.store.get? w.record.id = some d) : e.store.write w ≠ .error err := by
  rw [Store.write_eq_ok_iff.2 ⟨h.refuseWrites, .inl ⟨d, hget, rfl⟩⟩]
  exact nofun

/-- A pot covers the share of every dispute. -/
theorem Sound.share_le (h : e.Sound) {id : DisputeId} (hget : e.store.get? id = some d) (p : Pot) :
    p.share d ≤ (e.ledger.balance (p.account e.accounts)).toNat := by
  rw [h.custody p]
  exact Store.le_total (fun d => p.share d) hget

/-- What one account holds is in range if the supply is. -/
theorem Sound.stakes_lt (h : e.Sound) {id : DisputeId} (hget : e.store.get? id = some d)
    (hopen : d.resolved = false) :
    d.initiatorStake.toNat + d.counterpartyStake.toNat < UInt64.size := by
  have hshare := h.share_le hget .escrow
  have hlt := (e.ledger.balance e.accounts.escrow).toNat_lt
  simp only [Pot.share, hopen, Bool.false_eq_true, if_false] at hshare
  exact Nat.lt_of_le_of_lt hshare hlt

end Engine

/-! ### Resolutions do not get stuck -/

namespace Resolution

variable {e : Engine} {d : Dispute} {r : Resolution} {burned : Amount} {m : Move}

/-- A resolution moves value out of pots only. -/
theorem source_of_mem_moves (h : m ∈ r.moves e d burned) :
    ∃ p : Pot, m.source = p.account e.accounts := by
  simp only [moves, payouts, List.cons_append, List.nil_append, List.mem_cons, List.not_mem_nil,
    or_false] at h
  rcases h with rfl | rfl | rfl | rfl
  · exact ⟨.escrow, rfl⟩
  · exact ⟨.escrow, rfl⟩
  · exact ⟨.escrow, rfl⟩
  · exact ⟨.incentiveEarmark, rfl⟩

/-- A settlement that comes to the stakes is admitted. -/
theorem exists_toBurn
    (hleaving : r.settlement.leaving = d.initiatorStake.toNat + d.counterpartyStake.toNat)
    (hrange : d.initiatorStake.toNat + d.counterpartyStake.toNat < UInt64.size) :
    ∃ burned, r.toBurn d = .ok burned := by
  obtain ⟨total, htotal⟩ := Amount.exists_add hrange
  have hconserves : r.settlement.conserves total = true :=
    Settlement.conserves_iff.2 ((Amount.add_eq_ok_iff.1 htotal).trans hleaving.symm)
  obtain ⟨burned, hburned⟩ := Settlement.exists_totalBurned hconserves
  exact ⟨burned, toBurn_eq_ok_iff.2 ⟨total, htotal, hconserves, hburned⟩⟩

/-- The pots cover each move of a resolution, after the moves before it. -/
theorem Settles.covered {d₀ : Dispute} {done before after : List Move} {i c : Bool}
    (h : r.Settles e d₀ done) (hsound : e.Sound) {id : DisputeId}
    (hget : e.store.get? id = some d₀) (hadmitted : r.toBurn (d₀.accepting i c) = .ok burned)
    (hplan : before ++ m :: after = r.moves e (d₀.accepting i c) burned) :
    m.amount.toNat + taken m.source (done ++ before) ≤
      (e.ledger.balance m.source).toNat + given m.source (done ++ before) := by
  have hd := hsound.records id d₀ hget
  have hmem : m ∈ r.moves e (d₀.accepting i c) burned := by
    rw [← hplan]
    exact List.mem_append_right before List.mem_cons_self
  obtain ⟨p, hsource⟩ := source_of_mem_moves hmem
  have htaking := (pots (d := d₀.accepting i c) hsound.standard hd.initiator hd.counterparty
    hadmitted p).2
  have hsettles := h.takes p
  have hpot := hsound.share_le hget p
  rw [← hplan, taken_append, taken_cons, if_pos hsource] at htaking
  change _ = r.taking d₀ p at htaking
  rw [taken_append, hsource]
  omega

/-- **A resolution does not get stuck** in a sound engine that refuses nothing, if it settles the
dispute and comes to the two stakes. -/
theorem not_stuck {d₀ : Dispute} {done : List Move} {i c : Bool} {err : DisputeError}
    (hsound : e.Sound) (hfree : e.Unimpeded) (hget : e.store.get? d₀.id = some d₀)
    (hopen : d₀.resolved = false) (hsettles : r.Settles e d₀ done)
    (hleaving : r.settlement.leaving = d₀.initiatorStake.toNat + d₀.counterpartyStake.toNat) :
    ¬ r.Stuck e (d₀.accepting i c) done err := by
  intro hstuck
  cases hstuck with
  | unbalanced refused =>
    have hrange := hsound.stakes_lt hget hopen
    obtain ⟨burned, hadmitted⟩ := exists_toBurn (d := d₀.accepting i c) hleaving hrange
    rw [hadmitted] at refused
    cases refused
  | unpaid admitted plan refused =>
    -- the pots cover every prefix of the moves
    exact Ledger.not_refuses hfree.refusedCredit hfree.supply
      (hsettles.covered hsound hget admitted plan) refused
  | unreleased _ refused =>
    -- the asset of an open dispute is held
    have hheld := hsound.registered.held _ d₀ hget hopen
    have hdone : e.registry.unfreeze d₀.id r.release = .ok _ :=
      Registry.unfreeze_eq_ok_iff.2 ⟨by rw [hfree.faults], ⟨_, hheld⟩, rfl⟩
    change e.registry.unfreeze d₀.id r.release = _ at refused
    rw [hdone] at refused
    cases refused
  | unwritten same refused =>
    exact hfree.not_unwritten (same ▸ hget) refused
  | @unlicensed freed released pending err releases refused =>
    obtain ⟨hlicenses, hfaults, -⟩ := releases.frame
    -- a license comes with the resolution, and the dispute is open
    have hnone : freed.licenses.get? d₀.id = none := by
      rw [hlicenses]
      exact hsound.unlicensed hget hopen
    have hdone : freed.applyFallback d₀.id d₀.fallback.termsRef = .ok _ :=
      Registry.applyFallback_eq_ok_iff.2 ⟨by rw [hfaults, hfree.faults], hnone, rfl⟩
    change freed.applyFallback d₀.id d₀.fallback.termsRef = _ at refused
    rw [hdone] at refused
    cases refused

end Resolution

/-! ### Enforcement -/

/-- The outcome that an enforcement gives a dispute. -/
def Dispute.lateOutcome (d : Dispute) : Outcome :=
  if d.fullyStaked then .timeoutWithBurn else .defaultLicenseApplied

/-- The dispute is resolved with this outcome. -/
def Engine.Concluded (e : Engine) (id : DisputeId) (outcome : Outcome) : Prop :=
  ∃ d, e.store.get? id = some d ∧ d.resolved = true ∧ d.outcome = outcome

/-- What a resolution leaves is a resolved record. -/
theorem Resolves.concluded {e : Engine} {d : Dispute} {r : Resolution} {moves : List Move}
    {events : List (DisputeId × Event)} {f : Footprint} (h : Resolves e d r moves events f)
    (ledger : Ledger) : (e.having f ledger).Concluded d.id r.outcome := by
  obtain ⟨waiting, hwritten⟩ := h.exists_written
  exact ⟨_, (Store.get?_of_write hwritten d.id).trans (if_pos rfl), rfl, rfl⟩

namespace Engine

variable {e : Engine} {id : DisputeId} {d : Dispute} {t : Timestamp}

/-- What is drawn for an incentive is there, once the subsidy is back in the reserve. -/
theorem Draws.covered {source : AccountId} {draw : Amount} {skipped : List (DisputeId × Event)}
    (hdraws : e.Draws d source draw skipped) (hsound : e.Sound)
    (hget : e.store.get? id = some d) (hopen : d.resolved = false) :
    draw.toNat + taken source [e.subsidyReturn d] ≤
      (e.ledger.balance source).toNat + given source [e.subsidyReturn d] := by
  cases hdraws with
  | @intro owed draw available source ledger owes returned found =>
    unfold incentiveSource at found
    split at found
    · -- from the reserve no more is drawn than it holds once the subsidy is back
      cases found
      have hdraw := Policy.incentiveDraw_le owed (ledger.balance e.treasury.reserve)
      have hledger := returned.balance e.treasury.reserve
      show _ + taken e.treasury.reserve _ ≤ (e.ledger.balance e.treasury.reserve).toNat +
        given e.treasury.reserve _
      exact Nat.le_trans (Nat.add_le_add_right hdraw _) (Nat.le_of_eq hledger)
    · -- what was set aside is still there, and the returned subsidy does not touch it
      cases found
      have hshare := hsound.share_le hget .incentiveEarmark
      simp only [Pot.share, hopen, Bool.false_eq_true, if_false] at hshare
      have hfund : e.accounts.defenseFund ≠ e.accounts.incentiveEarmark := fun hc =>
        Pot.noConfusion ((hsound.standard.defenseFund_iff .incentiveEarmark).1 hc)
      simp only [subsidyReturn, taken_cons, taken_nil, if_neg hfund]
      exact Nat.le_trans hshare (Nat.le_add_right _ _)

/-- A dispute whose deadline has passed is overdue. -/
theorem Sound.exists_overdue (hsound : e.Sound) (hget : e.store.get? id = some d)
    (hopen : d.resolved = false) (hdated : d.deadline e.config = .ok t) (hlate : t < e.now) :
    ∃ overdue, e.admitEnforcement id = .ok overdue := by
  unfold Dispute.deadline at hdated
  -- the deadline that applies is the one that the enforcement looks at
  cases hstaked : d.fullyStaked with
  | false =>
    rw [hstaked, if_neg Bool.false_ne_true] at hdated
    exact ⟨_, admitEnforcement_eq_silent_iff.2 ⟨hget, hopen, hstaked, t, hdated, hlate⟩⟩
  | true =>
    rw [hstaked, if_pos rfl] at hdated
    obtain ⟨-, -, -, -, -, -, hburn, -⟩ := Config.validate_eq_ok_iff.1 hsound.valid
    obtain ⟨settlement, hsplit⟩ := Policy.exists_timeoutSplit hburn
      (hsound.stakes_lt hget hopen)
    exact ⟨_, admitEnforcement_eq_deadlocked_iff.2
      ⟨hget, hopen, hstaked, ⟨t, hdated, hlate⟩, hsplit⟩⟩

/-- Nothing stands in the way of enforcing an overdue dispute. -/
theorem not_unenforced {err : DisputeError} (hsound : e.Sound) (hfree : e.Unimpeded)
    (hget : e.store.get? id = some d) (hopen : d.resolved = false)
    (hdated : d.deadline e.config = .ok t) (hlate : t < e.now) : ¬ e.Unenforced id err := by
  have hid := hsound.keyed id d hget
  have hd := hsound.records id d hget
  have hknown : ∀ {d' : Dispute}, e.store.get? id = some d' → d' = d := fun hget' =>
    Option.some.inj (hget'.symm.trans hget)
  intro hblocked
  cases hblocked with
  | refused h =>
    obtain ⟨overdue, hadmitted⟩ := hsound.exists_overdue hget hopen hdated hlate
    rw [hadmitted] at h
    cases h
  | unreturned admitted h =>
    obtain ⟨hget', -, hstaked, -⟩ := admitEnforcement_eq_silent_iff.1 admitted
    obtain rfl := hknown hget'
    refine Ledger.not_refuses hfree.refusedCredit hfree.supply ?_ h
    have hshare := hsound.share_le hget .defenseFund
    simp only [Pot.share, hopen, hstaked, Bool.or_self, Bool.false_eq_true, if_false] at hshare
    exact hshare
  | unowed admitted h =>
    obtain ⟨-, -, -, -, -, -, -, hincentive, -⟩ := Config.validate_eq_ok_iff.1 hsound.valid
    obtain ⟨owed, howed⟩ := Amount.exists_mulBps hincentive
    rw [Policy.incentiveAmount, howed] at h
    cases h
  | unpaid admitted draws h =>
    obtain ⟨hget', -⟩ := admitEnforcement_eq_silent_iff.1 admitted
    obtain rfl := hknown hget'
    exact Ledger.not_refuses hfree.refusedCredit hfree.supply
      (draws.covered hsound hget hopen) h
  | lapse admitted draws h =>
    obtain ⟨hget', -, hstaked, -⟩ := admitEnforcement_eq_silent_iff.1 admitted
    obtain rfl := hknown hget'
    refine Resolution.not_stuck hsound hfree (hid ▸ hget) hopen
      (Resolution.settles_lapse hsound.standard hd hopen hstaked draws) ?_ h
    rw [Dispute.isZero_counterpartyStake hstaked]
    exact Policy.leaving_defaultLicenseSplit ..
  | deadlock admitted h =>
    obtain ⟨hget', -, hstaked, -, hsplit⟩ := admitEnforcement_eq_deadlocked_iff.1 admitted
    obtain rfl := hknown hget'
    exact Resolution.not_stuck hsound hfree (hid ▸ hget) hopen
      (Resolution.settles_deadlock hopen hstaked) (Policy.leaving_timeoutSplit hsplit) h

/-- So an enforcement that is admitted is not blocked. -/
theorem not_unenforced_of_admitted {overdue : Overdue} {err : DisputeError} (hsound : e.Sound)
    (hfree : e.Unimpeded) (hadmitted : e.admitEnforcement id = .ok overdue) :
    ¬ e.Unenforced id err := by
  cases overdue with
  | silent d =>
    obtain ⟨hget, hopen, hstaked, t, hdated, hlate⟩ := admitEnforcement_eq_silent_iff.1 hadmitted
    refine not_unenforced hsound hfree hget hopen (t := t) ?_ hlate
    rw [Dispute.deadline_of_unstaked hstaked]
    exact hdated
  | deadlocked d settlement =>
    obtain ⟨hget, hopen, hstaked, ⟨t, hdated, hlate⟩, -⟩ :=
      admitEnforcement_eq_deadlocked_iff.1 hadmitted
    refine not_unenforced hsound hfree hget hopen (t := t) ?_ hlate
    rw [Dispute.deadline_of_staked hstaked]
    exact hdated

/-- **Anyone can end a dispute that is overdue.** -/
theorem enforce_concludes (caller : AccountId) (hsound : e.Sound) (hfree : e.Unimpeded)
    (hget : e.store.get? id = some d) (hopen : d.resolved = false)
    (hdated : d.deadline e.config = .ok t) (hlate : t < e.now) :
    (e.perform (.enforce caller id)).1 = .ok (.ended d.lateOutcome) ∧
      (e.perform (.enforce caller id)).2.Concluded id d.lateOutcome := by
  obtain ⟨answer, f, ledger, hsucceeds, hdone⟩ :=
    perform_of_not_blocked (.enforce caller id) hsound.keyed fun err =>
      not_unenforced hsound hfree hget hopen hdated hlate
  have hid := hsound.keyed id d hget
  rw [hdone]
  cases hsucceeds with
  | lapse admitted draws resolves =>
    obtain ⟨hget', -, hstaked, -⟩ := admitEnforcement_eq_silent_iff.1 admitted
    obtain rfl := Option.some.inj (hget'.symm.trans hget)
    rw [Dispute.lateOutcome, hstaked]
    exact ⟨rfl, hid ▸ resolves.concluded ledger⟩
  | deadlock admitted resolves =>
    obtain ⟨hget', -, hstaked, -⟩ := admitEnforcement_eq_deadlocked_iff.1 admitted
    obtain rfl := Option.some.inj (hget'.symm.trans hget)
    rw [Dispute.lateOutcome, hstaked]
    exact ⟨rfl, hid ▸ resolves.concluded ledger⟩

end Engine

/-! ### Acceptance -/

/-- The other role. -/
def Party.other : Party → Party
  | initiator => counterparty
  | counterparty => initiator

namespace Dispute

/-- The account that plays a role. -/
def account (d : Dispute) : Party → AccountId
  | .initiator => d.initiator
  | .counterparty => d.counterparty

variable {config : Config} {d : Dispute}

theorem Sound.partyOf_account (h : d.Sound config) (p : Party) :
    d.partyOf (d.account p) = some p := by
  refine Engine.partyOf_eq_some_iff.2 ?_
  cases p with
  | initiator => rfl
  | counterparty => exact ⟨rfl, h.distinct⟩

/-- Of two parties that have not both accepted, one has not. -/
theorem hasAccepted_other (h : d.bothAccepted = false) {p : Party} (hp : d.hasAccepted p = true) :
    d.hasAccepted p.other = false ∧ (d.accept p.other).bothAccepted = true := by
  cases p <;> simp_all [bothAccepted, hasAccepted, accept, Party.other]

end Dispute

namespace Engine

variable {e : Engine} {id : DisputeId} {d : Dispute} {t : Timestamp}

/-- Nothing stands in the way of an acceptance that is admitted. -/
theorem not_unaccepted {caller : AccountId} {a : Acceptance} {err : DisputeError}
    (hsound : e.Sound) (hfree : e.Unimpeded) (hadmitted : e.admitAcceptance caller id = .ok a) :
    ¬ e.Unaccepted caller id err := by
  obtain ⟨hget, hopen, -, ⟨proposal, hproposal, -⟩, -⟩ := admitAcceptance_eq_ok_iff.1 hadmitted
  have hid := hsound.keyed id _ hget
  have hstaked := (hsound.records id _ hget).proposed (by rw [hproposal]; rfl)
  obtain ⟨i, c, haccept⟩ := a.record.accept_eq a.party
  intro hblocked
  cases hblocked with
  | refused h =>
    rw [hadmitted] at h
    cases h
  | unwritten admitted h =>
    rw [hadmitted] at admitted
    cases admitted
    rw [haccept] at h
    exact hfree.not_unwritten (hid.symm ▸ hget) h
  | stuck admitted h =>
    rw [hadmitted] at admitted
    cases admitted
    rw [haccept] at h
    exact Resolution.not_stuck hsound hfree (hid ▸ hget) hopen
      (Resolution.settles_agreement hopen hstaked) (Policy.leaving_acceptedSplit ..) h

/-- **The other party can end a dispute** by accepting what the first one has accepted. -/
theorem accept_concludes {p : Party} (hsound : e.Sound) (hfree : e.Unimpeded)
    (hget : e.store.get? id = some d) (hopen : d.resolved = false)
    (hproposal : d.proposal.isSome = true) (hfirst : d.hasAccepted p = true)
    (hdated : d.resolutionDeadline e.config = .ok t) (htime : e.now ≤ t) :
    (e.perform (.accept (d.account p.other) id)).1 = .ok .done ∧
      (e.perform (.accept (d.account p.other) id)).2.Concluded id .acceptedProposal := by
  have hid := hsound.keyed id d hget
  have hd := hsound.records id d hget
  obtain ⟨proposal, hsome⟩ := Option.isSome_iff_exists.1 hproposal
  obtain ⟨hnot, hboth⟩ := Dispute.hasAccepted_other (hd.undecided hopen) hfirst
  have hadmitted : e.admitAcceptance (d.account p.other) id = .ok ⟨d, p.other, proposal.text⟩ :=
    admitAcceptance_eq_ok_iff.2 ⟨hget, hopen, hd.partyOf_account _, ⟨proposal, hsome, rfl⟩,
      ⟨t, hdated, htime⟩, hnot⟩
  obtain ⟨answer, f, ledger, hsucceeds, hdone⟩ :=
    perform_of_not_blocked (.accept (d.account p.other) id) hsound.keyed fun err =>
      not_unaccepted hsound hfree hadmitted
  rw [hdone]
  cases hsucceeds with
  | accept admitted one written =>
    rw [hadmitted] at admitted
    cases admitted
    rw [hboth] at one
    cases one
  | agree admitted both resolves =>
    rw [hadmitted] at admitted
    cases admitted
    have hsame : (d.accept p.other).id = id := by
      rw [← hid]
      cases p <;> rfl
    exact ⟨rfl, hsame ▸ resolves.concluded ledger⟩

/-- The engine at another time with nothing made to fail any more. -/
def resumed (e : Engine) (now : Timestamp) : Engine := (e.setSwitches {}).setClock now

end Engine

/-- **Terminal operations can never be blocked.** Take any state of a clean run whose supply is in
range, and an unresolved dispute in it. It has a deadline in the calendar; at any time after it,
with no part made to fail, anyone can enforce the dispute to its end. And if a proposal stands that
one party has accepted, the other party can end it by accepting at any time up to the resolution
deadline. -/
theorem open_dispute_can_be_ended {start : Engine} {turns : List Turn} {id : DisputeId}
    {d : Dispute} (h : CleanRun start turns)
    (hsupply : (start.run turns).ledger.totalSupply < UInt64.size)
    (hget : (start.run turns).store.get? id = some d) (hopen : d.resolved = false) :
    (∃ deadline, d.deadline (start.run turns).config = .ok deadline ∧
      ∀ (caller : AccountId) (now : Timestamp), deadline < now →
        (((start.run turns).resumed now).perform (.enforce caller id)).1 =
            .ok (.ended d.lateOutcome) ∧
          (((start.run turns).resumed now).perform (.enforce caller id)).2.Concluded id
            d.lateOutcome) ∧
      ∀ p : Party, d.proposal.isSome = true → d.hasAccepted p = true →
        ∃ deadline, d.resolutionDeadline (start.run turns).config = .ok deadline ∧
          ∀ now : Timestamp, now ≤ deadline →
            (((start.run turns).resumed now).perform (.accept (d.account p.other) id)).1 =
                .ok .done ∧
              (((start.run turns).resumed now).perform
                (.accept (d.account p.other) id)).2.Concluded id .acceptedProposal := by
  have hsound : ∀ now, ((start.run turns).resumed now).Sound := fun now =>
    (h.sound.setSwitches {}).setClock now
  have hfree : ∀ now, ((start.run turns).resumed now).Unimpeded := fun _ =>
    ⟨rfl, rfl, rfl, hsupply⟩
  -- a proposal stands only if both have staked, so one deadline serves for both parts
  have hd := h.sound.records id d hget
  obtain ⟨deadline, hdated⟩ := hd.dated hopen
  refine ⟨⟨deadline, hdated, fun caller now hlate => ?_⟩, fun p hproposal hfirst =>
    ⟨deadline, ?_, fun now htime => ?_⟩⟩
  · exact Engine.enforce_concludes caller (hsound now) (hfree now) hget hopen hdated hlate
  · rwa [Dispute.deadline, if_pos (hd.proposed hproposal)] at hdated
  · rw [Dispute.deadline, if_pos (hd.proposed hproposal)] at hdated
    exact Engine.accept_concludes (hsound now) (hfree now) hget hopen hproposal hfirst hdated htime

/-! ### A negotiation -/

namespace Sample

/-- Terms under a signature that the key of the sample oracle verifies. -/
def proposal : SignedProposal := ⟨"terms", 1, ⟨1 :: List.replicate 63 0, by decide⟩⟩

/-- What is signed. -/
def signed : Canonical :=
  ⟨"\x7b\"dispute_id\":1,\"domain\":\"truce.proposal.v1\",\"nonce\":1,\"text\":\"terms\"\x7d"⟩

/-- A dispute in which both parties stake and Alice accepts what the oracle proposes. -/
def negotiation : List Turn :=
  staking ++ [.call (.submit oracle.account .first proposal), .call (.accept alice .first)]

/-- The record when both have staked. -/
def contested : Dispute where
  id := .first
  initiator := alice
  counterparty := bob
  baseStake := ⟨100⟩
  initiatorStake := ⟨100⟩
  counterpartyStake := ⟨100⟩
  escalated := false
  createdAt := newYear
  startTime := newYear
  cumulativeExtensionSecs := 0
  evidence := filing.evidence
  proposal := none
  initiatorAccepted := false
  counterpartyAccepted := false
  counterCount := 0
  fallback := filing.fallback
  earmarkedIncentive := .zero
  subsidy := .zero
  resolved := false
  outcome := .pending
  settlement := none
  resolvedAt := none
  pendingRelease := none

/-- The record when Alice has accepted the proposal. -/
def halfAgreed : Dispute :=
  { contested with
    proposal := some ⟨proposal.text, proposal.nonce, proposal.signature, newYear⟩
    initiatorAccepted := true }

/-- Two weeks after the filing, when the time to agree is over. -/
def twoWeeksLater : Timestamp := (Timestamp.ofEpoch? 1768435200).get (by decide)

theorem get?_contested : (engine.run staking).store.get? .first = some contested := by
  decide +kernel

/-- The members of what is signed, as they are written. -/
def members : List (String × List Char) :=
  Json.canonicalMembers [("dispute_id", .nat 1), ("domain", .str Binding.domain),
    ("nonce", .nat 1), ("text", .str "terms")]

-- Sorting is a recursion that does not reduce, but these members are in order already.
theorem canonical_binding : (Binding.mk .first 1 "terms").canonical = signed := by
  have hsorted : Json.sortByKey members = members :=
    List.mergeSort_of_pairwise (by decide +kernel)
  show (⟨String.ofList ('\x7b' :: (Json.joinMembers (Json.sortByKey members) ++ ['\x7d']))⟩ :
    Canonical) = signed
  rw [hsorted]
  decide +kernel

theorem verify_proposal : oracle.verify .first proposal = .ok () := by
  have hsigned : (oracle.publicKey.verify signed.bytes proposal.signature).isOk = true := by
    decide +kernel
  obtain ⟨⟨⟩, hverified⟩ := isOk_iff.1 hsigned
  rw [← canonical_binding] at hverified
  exact hverified

/-- The engine once the proposal is put down in a record. -/
def withProposal (e : Engine) (d : Dispute) : Engine :=
  { e with
    store := e.store.put {
      record := { d with
        proposal := some ⟨proposal.text, proposal.nonce, proposal.signature, e.now⟩ }
      nonce := some proposal.nonce } e.store.nextId
    log := e.log.extend e.now [(.first, .proposalSubmitted proposal.nonce
      (Binding.mk .first proposal.nonce proposal.text).digest)] }

/-- As the first proposal ever it is put down, if both parties have staked. -/
theorem perform_submit {e : Engine} {d : Dispute} {t : Timestamp} (horacle : e.oracle = oracle)
    (hget : e.store.get? .first = some d) (hid : d.id = .first) (hopen : d.resolved = false)
    (hstaked : d.fullyStaked = true) (hnone : d.proposal = none)
    (hdated : d.resolutionDeadline e.config = .ok t) (htime : e.now ≤ t)
    (hnonce : e.store.nonce = none) (hwrites : e.store.refuseWrites = false) :
    e.perform (.submit oracle.account .first proposal) = (.ok .done, withProposal e d) := by
  have hadmitted : e.admitProposal oracle.account .first proposal = .ok d := by
    refine Engine.admitProposal_eq_ok_iff.2 ⟨by rw [horacle], hget, hopen, hstaked, hnone,
      by decide +kernel, ⟨t, hdated, htime⟩, by rw [horacle]; exact verify_proposal, ?_⟩
    rw [hnonce]
    exact nofun
  exact Engine.perform_submit hadmitted
    (Store.write_eq_ok_iff.2 ⟨hwrites, .inl ⟨d, hid ▸ hget, rfl⟩⟩)

/-- The engine when the proposal stands. -/
def proposed : Engine := withProposal (engine.run staking) contested

theorem perform_submit_proposal :
    (engine.run staking).perform (.submit oracle.account .first proposal) =
      (.ok .done, proposed) :=
  perform_submit (t := twoWeeksLater) rfl get?_contested rfl rfl rfl rfl rfl (by decide +kernel)
    (by decide +kernel) rfl

theorem run_negotiation : engine.run negotiation = proposed.run [.call (.accept alice .first)] := by
  rw [negotiation, Engine.run_append, Engine.run_call perform_submit_proposal]

theorem get?_negotiation : (engine.run negotiation).store.get? .first = some halfAgreed := by
  rw [run_negotiation]
  decide +kernel

theorem negotiation_clean : CleanRun engine negotiation := by
  refine ⟨engine_fresh, ?_⟩
  rw [negotiation, Engine.runsCleanly_append, Engine.runsCleanly_call perform_submit_proposal]
  decide +kernel

end Sample

/-- Once Alice has accepted the proposal, Bob can accept it too for two weeks, and afterwards
anyone can enforce the dispute. -/
theorem negotiation_can_be_ended :
    CleanRun Sample.engine Sample.negotiation ∧
      (∀ (caller : AccountId) (now : Timestamp), Sample.twoWeeksLater < now →
        (((Sample.engine.run Sample.negotiation).resumed now).perform
          (.enforce caller .first)).1 = .ok (.ended .timeoutWithBurn)) ∧
      ∀ now : Timestamp, now ≤ Sample.twoWeeksLater →
        (((Sample.engine.run Sample.negotiation).resumed now).perform
          (.accept Sample.bob .first)).1 = .ok .done := by
  have hclean := Sample.negotiation_clean
  have hsupply : (Sample.engine.run Sample.negotiation).ledger.totalSupply < UInt64.size := by
    rw [Sample.run_negotiation]
    decide +kernel
  have hconfig : (Sample.engine.run Sample.negotiation).config = .default := by
    rw [Sample.run_negotiation]
    rfl
  obtain ⟨⟨deadline, hdated, henforce⟩, haccept⟩ :=
    open_dispute_can_be_ended hclean hsupply Sample.get?_negotiation rfl
  obtain ⟨deadline', hdated', haccept⟩ := haccept .initiator rfl rfl
  rw [hconfig] at hdated hdated'
  obtain rfl : Sample.twoWeeksLater = deadline := Except.ok.inj hdated
  obtain rfl : Sample.twoWeeksLater = deadline' := Except.ok.inj hdated'
  exact ⟨hclean, fun caller now hlate => (henforce caller now hlate).1,
    fun now htime => (haccept now htime).1⟩

end Arbitration
