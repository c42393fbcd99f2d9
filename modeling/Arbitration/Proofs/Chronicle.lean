import Arbitration.Proofs.Evolution
import Arbitration.Proofs.Finality
import Arbitration.Proofs.Protocol

/-!
# The log tells every dispute

In every state of a clean run the word of each dispute follows the protocol and fits the record
(`Engine.Chronicled`), and there is no word without a record. Every successful operation writes one
record and adds its events to the word of the same dispute; `Succeeds.exists_tells` says, for **each
way to succeed**, that the longer word fits the record as it is written.
-/

namespace Arbitration

/-! ### Acceptances -/

namespace Dispute

variable {d : Dispute} {p : Party}

theorem acceptances_eq (d : Dispute) : d.acceptances =
    (if d.initiatorAccepted then [.initiator] else []) ++
      if d.counterpartyAccepted then [.counterparty] else [] := by
  unfold acceptances Party.all
  rw [List.filter_cons, List.filter_cons, List.filter_nil]
  show (if d.initiatorAccepted = true then _ else _) = _
  cases d.initiatorAccepted <;> rfl

/-- Where nothing is proposed nothing is accepted. -/
theorem Sound.acceptances_eq_nil {config : Config} (h : d.Sound config)
    (hnone : d.proposal.isSome = false) : d.acceptances = [] := by
  refine List.filter_eq_nil_iff.2 fun p _ hp => ?_
  rw [h.accepted p hp] at hnone
  cases hnone

/-- No round is opened before both have staked, and nothing is proposed. -/
theorem Sound.counterCount_eq_zero {config : Config} (h : d.Sound config)
    (hstaked : d.fullyStaked = false) : d.counterCount = 0 := by
  refine Decidable.byContradiction fun hne => ?_
  rw [h.countered hne] at hstaked
  cases hstaked

theorem Sound.isSome_proposal_eq_false {config : Config} (h : d.Sound config)
    (hstaked : d.fullyStaked = false) : d.proposal.isSome = false := by
  rw [Bool.eq_false_iff]
  intro hproposed
  rw [h.proposed hproposed] at hstaked
  cases hstaked

/-- A party that is the only one to have accepted is the first one. -/
theorem acceptances_of_one (hfirst : d.hasAccepted p = false)
    (hone : (d.accept p).bothAccepted = false) :
    d.acceptances = [] ∧ (d.accept p).acceptances = [p] := by
  rw [acceptances_eq, acceptances_eq]
  cases p with
  | initiator =>
    have hi : d.initiatorAccepted = false := hfirst
    have hc : d.counterpartyAccepted = false := hone
    show _ ∧ ([Party.initiator] ++ if d.counterpartyAccepted then [.counterparty] else []) = _
    rw [hi, hc]
    exact ⟨rfl, rfl⟩
  | counterparty =>
    have hc : d.counterpartyAccepted = false := hfirst
    have hi : d.initiatorAccepted = false := (Bool.and_true _).symm.trans hone
    show _ ∧ (if d.initiatorAccepted then [.initiator] else []) ++ [Party.counterparty] = _
    rw [hi, hc]
    exact ⟨rfl, rfl⟩

/-- A party that accepts last comes after the other one. -/
theorem acceptances_of_both (hlast : d.hasAccepted p = false)
    (hboth : (d.accept p).bothAccepted = true) : d.acceptances = [p.other] := by
  have hother := hasAccepted_other_of_both hboth
  rw [acceptances_eq]
  cases p with
  | initiator =>
    have hi : d.initiatorAccepted = false := hlast
    have hc : d.counterpartyAccepted = true := hother
    rw [hi, hc]
    rfl
  | counterparty =>
    have hc : d.counterpartyAccepted = false := hlast
    have hi : d.initiatorAccepted = true := hother
    rw [hi, hc]
    rfl

end Dispute

/-! ### Parts of words -/

/-- Without a proposal the round is empty. -/
theorem Round.eq_nil {accepted : List Party} {events : List Event}
    (h : Round false accepted events) : events = [] := by
  cases h
  rfl

/-- With a proposal that nobody has accepted it is the proposal. -/
theorem Round.accept {events : List Event} (h : Round true [] events) (p : Party) :
    Round true [p] (events ++ [.proposalAccepted p]) := by
  cases h
  exact .accepted

/-- A subsidy is granted once. -/
theorem Opening.grant {start : Footing} {events : List Event} {amount : Amount}
    (h : Opening start events) (hnone : start.subsidy.isZero = true)
    (hsome : amount.isZero = false) :
    Opening { start with subsidy := amount }
      (events ++ [.subsidyGranted start.counterparty amount]) := by
  cases h with
  | alone => exact .subsidised hsome
  | subsidised granted =>
    rw [granted] at hnone
    cases hnone

namespace Dispute.Told

variable {limit : UInt32} {d : Dispute} {word : List Event} {config : Config}

/-- What the word of a dispute is while the counterparty has not staked. -/
theorem opening (h : d.Told limit word) (hopen : d.resolved = false)
    (hstaked : d.fullyStaked = false) : Opening d.footing word := by
  cases h with
  | waiting opened _ _ => exact opened
  | negotiating _ _ _ staked =>
    rw [hstaked] at staked
    cases staked
  | finished _ _ decided =>
    rw [hopen] at decided
    cases decided

/-- What it is once both have staked. -/
theorem exists_round (h : d.Told limit word) (hopen : d.resolved = false)
    (hstaked : d.fullyStaked = true) :
    ∃ before round, Rounds limit d.footing d.counterCount.toNat before ∧
      Round d.proposal.isSome d.acceptances round ∧ before ++ round = word := by
  cases h with
  | waiting _ _ unstaked =>
    rw [hstaked] at unstaked
    cases unstaked
  | negotiating rounds current _ _ => exact ⟨_, _, rounds, current, rfl⟩
  | finished _ _ decided =>
    rw [hopen] at decided
    cases decided

/-- A round that has just been opened is empty. -/
theorem of_rounds (h : Rounds limit d.footing d.counterCount.toNat word)
    (hnone : d.proposal.isSome = false) (hnobody : d.acceptances = [])
    (hopen : d.resolved = false) (hstaked : d.fullyStaked = true) : d.Told limit word := by
  have hround : Round d.proposal.isSome d.acceptances [] := by
    rw [hnone, hnobody]
    exact .silent
  have htold := negotiating h hround hopen hstaked
  rwa [List.append_nil] at htold

/-- At the resolution no release has been completed. -/
theorem of_ended {late : Bool}
    (h : Ended limit d.footing d.counterCount.toNat d.outcome late word)
    (hfreed : Freed late d.pendingRelease.isSome []) (hresolved : d.resolved = true) :
    d.Told limit word := by
  have htold := finished h hfreed hresolved
  rwa [List.append_nil] at htold

/-- A release that is pending and then completed is told at the end. -/
theorem complete (h : d.Told limit word) (hresolved : d.resolved = true)
    (hwaiting : d.pendingRelease.isSome = true) :
    ({ d with pendingRelease := none } : Dispute).Told limit (word ++ [.releaseCompleted]) := by
  cases h with
  | waiting _ undecided _ =>
    rw [undecided] at hresolved
    cases hresolved
  | negotiating _ _ undecided _ =>
    rw [undecided] at hresolved
    cases hresolved
  | finished ended freed _ =>
    rw [hwaiting] at freed
    cases freed
    rw [List.append_nil]
    exact finished ended .completed hresolved

end Dispute.Told

/-! ### What a resolution tells -/

namespace Resolution

variable {r : Resolution} {d : Dispute} {burned : Amount}

/-- The events once the record is marked, without the number of the dispute. -/
theorem map_report : (r.report d burned).map (·.2) =
    (if burned.isZero then [] else [.burned r.settlement.burned r.settlement.dust]) ++
      (if r.settlement.incentive.isZero then []
        else [.incentivePaid d.initiator r.settlement.incentive]) ++
      (if r.applyFallback then [.fallbackLicenseApplied d.fallback.termsRef] else []) ++
      [.resolved r.outcome r.settlement.toInitiator r.settlement.toCounterparty
        r.settlement.burned r.settlement.dust r.settlement.incentive] := by
  simp only [report, List.map_append, apply_ite (List.map _), List.map_nil, List.map_cons]

/-- An agreement burns nothing and rewards nobody. -/
theorem map_report_agreement {d' : Dispute} {text : String} (hzero : burned.isZero = true) :
    ((agreement d text).report d' burned).map (·.2) =
      [.resolved .acceptedProposal d.initiatorStake d.counterpartyStake .zero .zero .zero] := by
  rw [map_report, hzero]
  rfl

/-- A silent counterparty's dispute burns nothing. -/
theorem map_report_lapse {draw : Amount} (hzero : burned.isZero = true) :
    ((lapse d draw).report d burned).map (·.2) =
      (if draw.isZero then [] else [.incentivePaid d.initiator draw]) ++
        [.fallbackLicenseApplied d.fallback.termsRef,
          .resolved .defaultLicenseApplied d.initiatorStake .zero .zero .zero draw] := by
  rw [map_report, hzero, List.append_assoc]
  rfl

/-- A deadlock rewards nobody. -/
theorem map_report_deadlock {s : Settlement} (hzero : s.incentive = .zero) :
    ((deadlock d s).report d burned).map (·.2) =
      (if burned.isZero then [] else [.burned s.burned s.dust]) ++
        [.fallbackLicenseApplied d.fallback.termsRef,
          .resolved .timeoutWithBurn s.toInitiator s.toCounterparty s.burned s.dust .zero] := by
  have hnone : (deadlock d s).settlement.incentive = .zero := hzero
  rw [map_report, hnone, List.append_assoc, List.append_assoc]
  rfl

/-- Where the settlement burns nothing, nothing is sent to the sink. -/
theorem isZero_of_toBurn (h : r.toBurn d = .ok burned) (hburned : r.settlement.burned = .zero)
    (hdust : r.settlement.dust = .zero) : burned.isZero = true := by
  obtain ⟨total, -, -, hsum⟩ := toBurn_eq_ok_iff.1 h
  have hsum := Amount.add_eq_ok_iff.1 hsum
  rw [hburned, hdust] at hsum
  exact Amount.isZero_iff.2 (Amount.toNat_inj.1 hsum)

end Resolution

/-- What a resolution writes and tells: whether the release was put off, and the report. -/
theorem Resolves.exists_told {e : Engine} {d : Dispute} {r : Resolution} {moves : List Move}
    {events : List (DisputeId × Event)} {f : Footprint} (h : Resolves e d r moves events f)
    (hnone : d.pendingRelease = none) (habout : ∀ p ∈ events, p.1 = d.id) :
    ∃ burned waiting late pending, r.toBurn d = .ok burned ∧
      e.store.write { record := r.mark d waiting e.now } = .ok f.store ∧
      PutOff late pending ∧ Freed late waiting.isSome [] ∧ (∀ p ∈ f.events, p.1 = d.id) ∧
      f.events.map (·.2) = events.map (·.2) ++ pending ++ (r.report d burned).map (·.2) := by
  cases h with
  | @intro burned freed registry released pending store admitted releases written licensed =>
    have hpending : ∃ waiting late, released = { d with pendingRelease := waiting } ∧
        PutOff late (pending.map (·.2)) ∧ Freed late waiting.isSome [] ∧
          ∀ p ∈ pending, p.1 = d.id := by
      cases releases with
      | now done =>
        have hsame : d = { d with pendingRelease := none } := by rw [← hnone]
        exact ⟨none, false, hsame, .released, .atOnce, List.forall_mem_nil _⟩
      | later policy refused =>
        exact ⟨some r.release, true, rfl, .pending, .waiting, List.forall_mem_singleton.2 rfl⟩
    obtain ⟨waiting, late, rfl, hputOff, hfreed, hlate⟩ := hpending
    refine ⟨burned, waiting, late, _, admitted, written, hputOff, hfreed, ?_, ?_⟩
    · simp only [List.forall_mem_append]
      exact ⟨⟨habout, hlate⟩, Resolution.forall_mem_report rfl rfl rfl rfl⟩
    · rw [List.map_append, List.map_append]

/-- The incentive is paid or skipped or not owed. -/
theorem Engine.Draws.incentive {e : Engine} {d : Dispute} {source : AccountId} {draw : Amount}
    {skipped : List (DisputeId × Event)} (h : e.Draws d source draw skipped) :
    Incentive (skipped.map (·.2))
      (if draw.isZero then [] else [.incentivePaid d.initiator draw]) := by
  cases h with
  | @intro owed draw available source ledger owes returned found =>
    cases hdraw : draw.isZero with
    | false =>
      rw [Bool.false_and, if_neg Bool.false_ne_true, if_neg Bool.false_ne_true]
      exact .paid
    | true =>
      rw [Bool.true_and, if_pos rfl]
      split
      · exact .skipped
      · exact .none

/-! ### What an operation tells -/

/-- The word of every dispute follows the protocol and fits the record. -/
structure Engine.Chronicled (e : Engine) : Prop where
  unknown : ∀ id, e.store.get? id = none → e.log.word id = []
  told : ∀ id d, e.store.get? id = some d → d.Told e.config.maxCounters (e.log.word id)

/-- The events of an operation are about its dispute, and with them the word of the dispute fits
the record that is written. -/
structure Engine.Tells (e : Engine) (op : Operation) (f : Footprint) (w : StoreWrite) : Prop where
  written : e.store.write w = .ok f.store
  number : w.record.id = op.dispute e
  about : ∀ p ∈ f.events, p.1 = op.dispute e
  told : w.record.Told e.config.maxCounters (e.log.word (op.dispute e) ++ f.events.map (·.2))

section Tells

variable {e : Engine} {op : Operation} {f : Footprint} {id : DisputeId} {d : Dispute}

/-- What is told of a known dispute. -/
theorem Engine.Tells.of_known {w : StoreWrite} (h : e.Sound) (hget : e.store.get? id = some d)
    (hnamed : op.named = some id) (hwritten : e.store.write w = .ok f.store)
    (hid : w.record.id = d.id) (habout : ∀ p ∈ f.events, p.1 = d.id)
    (htold : w.record.Told e.config.maxCounters (e.log.word id ++ f.events.map (·.2))) :
    e.Tells op f w := by
  have hdispute : op.dispute e = id := Operation.dispute_of_named hnamed
  have hkeyed := h.keyed id d hget
  refine ⟨hwritten, ?_, fun p hp => ?_, ?_⟩
  · rw [hid, hkeyed, hdispute]
  · rw [habout p hp, hkeyed, hdispute]
  · rw [hdispute]
    exact htold

/-- An agreement ends the round in which the other party has accepted. -/
theorem Engine.Chronicled.agree {caller : AccountId} {a : Engine.Acceptance} (hc : e.Chronicled)
    (h : e.Sound) (admitted : e.admitAcceptance caller id = .ok a)
    (both : (a.record.accept a.party).bothAccepted = true)
    (resolves : Resolves e (a.record.accept a.party)
      (.agreement (a.record.accept a.party) a.text) [] [(id, .proposalAccepted a.party)] f) :
    ∃ w, e.Tells (.accept caller id) f w := by
  obtain ⟨hget, hopen, -, ⟨terms, hterms, -⟩, -, hlast⟩ :=
    Engine.admitAcceptance_eq_ok_iff.1 admitted
  have hproposed : a.record.proposal.isSome = true := by
    rw [hterms]
    rfl
  have hd := h.records id _ hget
  have hkeyed := h.keyed id _ hget
  obtain ⟨before, round, hrounds, hround, hword⟩ :=
    (hc.told id _ hget).exists_round hopen (hd.proposed hproposed)
  rw [hproposed, Dispute.acceptances_of_both hlast both] at hround
  obtain ⟨i, c, haccept⟩ := a.record.accept_eq a.party
  rw [haccept] at resolves
  obtain ⟨burned, waiting, late, pending, hburn, hwritten, hputOff, hfreed, habout, hevents⟩ :=
    resolves.exists_told (hd.begun hopen).2.2.2 (List.forall_mem_singleton.2 hkeyed.symm)
  refine ⟨_, .of_known h hget rfl hwritten rfl habout ?_⟩
  rw [hevents, Resolution.map_report_agreement (Resolution.isZero_of_toBurn hburn rfl rfl),
    ← hword, List.map_singleton]
  simp only [← List.append_assoc]
  exact .of_ended (.agreed hrounds hround hputOff) hfreed rfl

/-- A silent counterparty's dispute ends after its opening. -/
theorem Engine.Chronicled.lapse {caller source : AccountId} {draw : Amount}
    {skipped : List (DisputeId × Event)} (hc : e.Chronicled) (h : e.Sound)
    (admitted : e.admitEnforcement id = .ok (.silent d)) (draws : e.Draws d source draw skipped)
    (resolves : Resolves e d (.lapse d draw) [e.subsidyReturn d, ⟨source, d.initiator, draw⟩]
      ((if d.subsidy.isZero then [] else [(d.id, .subsidyReturned d.subsidy)]) ++ skipped) f) :
    ∃ w, e.Tells (.enforce caller id) f w := by
  obtain ⟨hget, hopen, hstaked, -⟩ := Engine.admitEnforcement_eq_silent_iff.1 admitted
  have hd := h.records id d hget
  obtain ⟨burned, waiting, late, pending, hburn, hwritten, hputOff, hfreed, habout, hevents⟩ :=
    resolves.exists_told (hd.begun hopen).2.2.2 (draws.forall_mem_events rfl fun _ _ => rfl)
  have hback : (if d.subsidy.isZero then [] else [(d.id, Event.subsidyReturned d.subsidy)]).map
      (·.2) = if d.footing.subsidy.isZero then [] else [.subsidyReturned d.footing.subsidy] := by
    rw [apply_ite (List.map _)]
    rfl
  refine ⟨_, .of_known h hget rfl hwritten rfl habout ?_⟩
  rw [hevents, Resolution.map_report_lapse (Resolution.isZero_of_toBurn hburn rfl rfl),
    List.map_append, hback]
  simp only [← List.append_assoc]
  have hopening := (hc.told id d hget).opening hopen hstaked
  refine .of_ended ?_ hfreed rfl
  show Ended _ d.footing d.counterCount.toNat _ late _
  rw [hd.counterCount_eq_zero hstaked]
  exact .lapsed hopening rfl draws.incentive hputOff

/-- A deadlock ends whatever round there is. -/
theorem Engine.Chronicled.deadlock {caller : AccountId} {settlement : Settlement}
    (hc : e.Chronicled) (h : e.Sound)
    (admitted : e.admitEnforcement id = .ok (.deadlocked d settlement))
    (resolves : Resolves e d (.deadlock d settlement) [] [] f) :
    ∃ w, e.Tells (.enforce caller id) f w := by
  obtain ⟨hget, hopen, hstaked, -, hsplit⟩ := Engine.admitEnforcement_eq_deadlocked_iff.1 admitted
  have hd := h.records id d hget
  obtain ⟨before, round, hrounds, hround, hword⟩ := (hc.told id d hget).exists_round hopen hstaked
  obtain ⟨burned, waiting, late, pending, -, hwritten, hputOff, hfreed, habout, hevents⟩ :=
    resolves.exists_told (hd.begun hopen).2.2.2 (List.forall_mem_nil _)
  have hloss : Burnt (if burned.isZero then []
      else [.burned settlement.burned settlement.dust]) := by
    split
    · exact .nothing
    · exact .some
  refine ⟨_, .of_known h hget rfl hwritten rfl habout ?_⟩
  rw [hevents, Resolution.map_report_deadlock (Policy.timeoutSplit_incentive hsplit), ← hword,
    List.map_nil, List.nil_append]
  simp only [← List.append_assoc]
  exact .of_ended (.deadlocked hrounds hround hputOff hloss) hfreed rfl

/-- The counterparty's stake opens the first round. -/
theorem Dispute.Told.deposit {limit : UInt32} {word : List Event} {config : Config}
    {total : Amount} {deadline : Timestamp} (htold : d.Told limit word) (hd : d.Sound config)
    (hopen : d.resolved = false) (hstaked : d.fullyStaked = false) :
    ({ d with counterpartyStake := d.initiatorStake } : Dispute).Told limit (word ++
      [.staked .counterparty d.counterparty d.initiatorStake, .fullyStaked total deadline]) := by
  have hmatched :
      ({ d with counterpartyStake := d.initiatorStake } : Dispute).fullyStaked = true := by
    show (!d.initiatorStake.isZero) = true
    rw [hd.staked]
    rfl
  have hnone := hd.isSome_proposal_eq_false hstaked
  refine .of_rounds ?_ hnone (hd.acceptances_eq_nil hnone) hopen hmatched
  show Rounds limit d.footing d.counterCount.toNat _
  rw [hd.counterCount_eq_zero hstaked]
  exact .first (htold.opening hopen hstaked)

/-- Another round closes the current one and is counted. -/
theorem Dispute.Told.counter {limit : UInt32} {word : List Event} {next : Dispute}
    {base fee routed : Amount} {evidence : ContentDigest} {extension : UInt64} {payer : AccountId}
    {p : Party} {deadline : Timestamp} (htold : d.Told limit word) (hopen : d.resolved = false)
    (hstaked : d.fullyStaked = true) (hfee : Policy.counterFee base d.counterCount limit = .ok fee)
    (opened : d.counterRound evidence extension = .ok next) :
    next.Told limit (word ++ [.feeBurned payer fee routed,
      .counterProposed p next.counterCount evidence extension deadline]) := by
  obtain ⟨before, round, hrounds, hround, rfl⟩ := htold.exists_round hopen hstaked
  obtain ⟨startTime, -, -, hcount, rfl⟩ := Dispute.counterRound_eq_ok_iff.1 opened
  have hnumber : (UInt32.ofNat (d.counterCount.toNat + 1)).toNat = d.counterCount.toNat + 1 :=
    UInt32.toNat_ofNat_of_lt' hcount
  have hallowed : UInt32.ofNat (d.counterCount.toNat + 1) ≤ limit := by
    rw [UInt32.le_iff_toNat_le, hnumber]
    exact UInt32.lt_iff_toNat_lt.1 (Policy.counterFee_ok hfee)
  refine .of_rounds ?_ rfl rfl hopen hstaked
  show Rounds limit d.footing (UInt32.ofNat (d.counterCount.toNat + 1)).toNat _
  rw [hnumber]
  exact .next hrounds hround hnumber hallowed

/-- **One operation.** Whatever succeeds, the longer word of its dispute fits the record that it
writes. -/
theorem Succeeds.exists_tells {answer : Answer} (hs : Succeeds e op answer f) (h : e.Sound)
    (hc : e.Chronicled) : ∃ w, e.Tells op f w := by
  cases hs with
  | @initiate caller r stake earmarked escalated treasury registry store deadline admitted setAside
      counted frozen dated written =>
    refine ⟨_, written, rfl, ?_, ?_⟩
    · exact List.forall_mem_cons.2 ⟨rfl, List.forall_mem_singleton.2 rfl⟩
    · show (e.filed caller r stake escalated earmarked).Told _ (e.log.word e.store.nextId ++ _)
      rw [hc.unknown _ h.get?_nextId]
      exact .waiting .alone rfl rfl
  | @deposit caller id dep total store admitted added written =>
    obtain ⟨hget, hopen, -, hstaked, -⟩ := Engine.admitDeposit_eq_ok_iff.1 admitted
    have hid := (h.keyed id _ hget).symm
    refine ⟨_, .of_known h hget rfl written rfl ?_
      ((hc.told id _ hget).deposit (h.records id _ hget) hopen hstaked)⟩
    exact List.forall_mem_cons.2 ⟨hid, List.forall_mem_singleton.2 hid⟩
  | @grantSubsidy caller id d amount store admitted written =>
    obtain ⟨hget, hopen, -, hstaked, hnone, -, -, hsome, -⟩ :=
      Engine.admitSubsidy_eq_ok_iff.1 admitted
    have hopening := ((hc.told id d hget).opening hopen hstaked).grant hnone hsome
    exact ⟨_, .of_known h hget rfl written rfl
      (List.forall_mem_singleton.2 (h.keyed id _ hget).symm) (.waiting hopening hopen hstaked)⟩
  | @submit caller id p d store admitted written =>
    obtain ⟨-, hget, hopen, hstaked, hnone, -⟩ := Engine.admitProposal_eq_ok_iff.1 admitted
    have hsilent : d.proposal.isSome = false := by
      rw [hnone]
      rfl
    obtain ⟨before, round, hrounds, hround, hword⟩ :=
      (hc.told id d hget).exists_round hopen hstaked
    rw [hsilent] at hround
    have hempty := hround.eq_nil
    have hnobody := (h.records id d hget).acceptances_eq_nil hsilent
    refine ⟨_, .of_known h hget rfl written rfl
      (List.forall_mem_singleton.2 (h.keyed id _ hget).symm) ?_⟩
    rw [← hword, hempty, List.append_nil]
    refine .negotiating hrounds ?_ hopen hstaked
    show Round true d.acceptances _
    rw [hnobody]
    exact .proposed
  | @accept caller id a store admitted one written =>
    obtain ⟨hget, hopen, -, ⟨terms, hterms, -⟩, -, hfirst⟩ :=
      Engine.admitAcceptance_eq_ok_iff.1 admitted
    have hproposed : a.record.proposal.isSome = true := by
      rw [hterms]
      rfl
    have hstaked := (h.records id _ hget).proposed hproposed
    obtain ⟨before, round, hrounds, hround, hword⟩ :=
      (hc.told id _ hget).exists_round hopen hstaked
    obtain ⟨hnobody, hone⟩ := Dispute.acceptances_of_one hfirst one
    rw [hproposed, hnobody] at hround
    have hnext := hround.accept a.party
    rw [← hone, ← hproposed] at hnext
    obtain ⟨i, c, haccept⟩ := a.record.accept_eq a.party
    rw [haccept] at written hnext
    refine ⟨_, .of_known h hget rfl written rfl
      (List.forall_mem_singleton.2 (h.keyed id _ hget).symm) ?_⟩
    rw [← hword, List.append_assoc]
    exact .negotiating hrounds hnext hopen hstaked
  | agree admitted both resolves => exact hc.agree h admitted both resolves
  | @counter caller id r c routed next deadline store admitted routes opened dated written =>
    obtain ⟨hget, hopen, -, hstaked, -, hfee, -⟩ := Engine.admitCounter_eq_ok_iff.1 admitted
    have hid := (h.keyed id _ hget).symm
    refine ⟨_, .of_known h hget rfl written (Dispute.evolves_counterRound opened).id ?_
      ((hc.told id _ hget).counter hopen hstaked hfee opened)⟩
    exact List.forall_mem_cons.2 ⟨hid, List.forall_mem_singleton.2 hid⟩
  | lapse admitted draws resolves => exact hc.lapse h admitted draws resolves
  | deadlock admitted resolves => exact hc.deadlock h admitted resolves
  | @retry caller id d release registry store admitted freed written =>
    obtain ⟨hget, hpending, hresolved⟩ := Engine.admitRetry_eq_ok_iff.1 admitted
    exact ⟨_, .of_known h hget rfl written rfl
      (List.forall_mem_singleton.2 (h.keyed id _ hget).symm)
      ((hc.told id d hget).complete hresolved (Option.isSome_of_eq_some hpending))⟩

end Tells

/-! ### Failed operations -/

/-- A failed operation leaves the log, whatever was refused on the way back. -/
theorem Engine.log_of_error {e e' : Engine} {op : Operation} {err : DisputeError}
    (hk : e.store.Keyed) (hdone : e.perform op = (.error err, e')) : e'.log = e.log :=
  (Engine.aligned_of_error hk hdone).log

/-! ### Every run -/

namespace Engine

variable {e e' : Engine}

theorem Fresh.chronicled (h : e.Fresh) : e.Chronicled := by
  obtain ⟨-, -, -, -, hstore, hlog⟩ := h.parts
  refine ⟨fun id _ => ?_, fun id d hget => ?_⟩
  · rw [hlog]
    rfl
  · have hnone : e.store.get? id = none := by
      rw [hstore]
      rfl
    rw [hnone] at hget
    cases hget

theorem Idle.chronicled (h : e.Idle e') (hc : e.Chronicled) : e'.Chronicled := by
  refine ⟨fun id hget => ?_, fun id d hget => ?_⟩
  · rw [h.get?] at hget
    rw [h.log]
    exact hc.unknown id hget
  · rw [h.get?] at hget
    rw [h.log, h.config]
    exact hc.told id d hget

/-- **One step.** One word grows with its record, and all others stay. -/
theorem Chronicled.having {op : Operation} {answer : Answer} {f : Footprint} (hc : e.Chronicled)
    (h : e.Sound) (hs : Succeeds e op answer f) (ledger : Ledger) :
    (e.having f ledger).Chronicled := by
  obtain ⟨w, hwritten, hnumber, habout, htold⟩ := hs.exists_tells h hc
  have hword : ∀ id, (e.having f ledger).log.word id =
      e.log.word id ++ if op.dispute e = id then f.events.map (·.2) else [] := fun id =>
    EventLog.word_extend habout e.log id
  have hget : ∀ id, (e.having f ledger).store.get? id =
      if op.dispute e = id then some w.record else e.store.get? id := fun id =>
    hnumber ▸ Store.get?_of_write hwritten id
  refine ⟨fun id hnone => ?_, fun id d hd => ?_⟩
  · rw [hget] at hnone
    split at hnone
    · cases hnone
    · rename_i hid
      rw [hword, if_neg hid, List.append_nil]
      exact hc.unknown id hnone
  · rw [hget] at hd
    rw [hword]
    split at hd
    · rename_i hid
      subst hid
      cases hd
      rw [if_pos rfl]
      exact htold
    · rename_i hid
      rw [if_neg hid, List.append_nil]
      exact hc.told id d hd

/-- What is in the log is never changed. -/
theorem Sound.log_prefix {turns : List Turn} (h : e.Sound) (hclean : e.runsCleanly turns = true) :
    e.log.records <+: (e.run turns).log.records := by
  refine h.run_induction (P := fun e' => e.log.records <+: e'.log.records) hclean
    (List.prefix_refl _) (fun hidle hprefix => hidle.log ▸ hprefix) ?_
  intro e₁ op answer f ledger _ _ _ hprefix
  exact hprefix.trans (e₁.log.prefix_extend e₁.now f.events)

end Engine

theorem CleanRun.chronicled {start : Engine} {turns : List Turn} (h : CleanRun start turns) :
    (start.run turns).Chronicled :=
  h.fresh.sound.run_induction h.clean h.fresh.chronicled (fun hidle hc => hidle.chronicled hc)
    fun hsound hsucceeds _ hc => hc.having hsound hsucceeds _

theorem CleanRun.log_numbered {start : Engine} {turns : List Turn} (h : CleanRun start turns) :
    (start.run turns).log.Numbered := by
  have hstart : start.log.Numbered := by
    obtain ⟨-, -, -, -, -, hlog⟩ := h.fresh.parts
    rw [hlog]
    rfl
  exact h.fresh.sound.run_induction (P := fun e => e.log.Numbered) h.clean hstart
    (fun hidle hnumbered => hidle.log ▸ hnumbered)
    fun _ _ _ hnumbered => hnumbered.extend _ _

/-- **The log is a chronicle.** In every state of every clean run the events are numbered from one
without a gap, so the events after a position are those with a greater number. The log of a later
state begins with that of an earlier one, and an operation that fails adds nothing. The events of
each dispute follow the protocol and tell what its record says, and a number without a record has
no events. -/
theorem log_follows_protocol {start : Engine} {first later : List Turn}
    (h : CleanRun start (first ++ later)) :
    (start.run first).log.records.map (·.sequence) =
        List.range' 1 (start.run first).log.records.length ∧
      (∀ k, (start.run first).log.since k =
        (start.run first).log.records.filter fun r => k < r.sequence) ∧
      (start.run first).log.records <+: (start.run (first ++ later)).log.records ∧
      (∀ op err e', (start.run first).perform op = (.error err, e') →
        e'.log = (start.run first).log) ∧
      ∀ id, ((start.run first).store.get? id = none → (start.run first).log.word id = []) ∧
        ∀ d, (start.run first).store.get? id = some d →
          d.Told start.config.maxCounters ((start.run first).log.word id) := by
  obtain ⟨hfirst, hlater⟩ := h.of_append
  have hchronicled := hfirst.chronicled
  refine ⟨hfirst.log_numbered, hfirst.log_numbered.since_eq, ?_, fun op err e' hdone => ?_,
    fun id => ⟨hchronicled.unknown id, fun d hget => ?_⟩⟩
  · rw [Engine.run_append]
    exact hfirst.sound.log_prefix hlater
  · exact Engine.log_of_error hfirst.sound.keyed hdone
  · rw [← hfirst.fresh.sound.config_run hfirst.clean]
    exact hchronicled.told id d hget

/-- So it is with a dispute that is resolved while the registry refuses the release of its asset,
which is completed later: its word then has one event more. -/
theorem late_release_is_told :
    CleanRun Sample.lenient (Sample.unreleased ++ Sample.released) ∧
      (∃ d, (Sample.lenient.run Sample.unreleased).store.get? .first = some d ∧
        d.Told 3 ((Sample.lenient.run Sample.unreleased).log.word .first)) ∧
      ((Sample.lenient.run Sample.unreleased).log.word .first).map Event.name =
        ["dispute_created", "staked", "release_pending", "incentive_paid",
          "fallback_license_applied", "resolved"] ∧
      (Sample.lenient.run Sample.unreleased).log.records <+:
        (Sample.lenient.run (Sample.unreleased ++ Sample.released)).log.records ∧
      ((Sample.lenient.run (Sample.unreleased ++ Sample.released)).log.word .first).map Event.name =
        ["dispute_created", "staked", "release_pending", "incentive_paid",
          "fallback_license_applied", "resolved", "release_completed"] := by
  have hclean : CleanRun Sample.lenient (Sample.unreleased ++ Sample.released) :=
    ⟨Sample.engineUnder_fresh rfl, by decide +kernel⟩
  obtain ⟨-, -, hprefix, -, htold⟩ := log_follows_protocol hclean
  have hfound : ((Sample.lenient.run Sample.unreleased).store.get? .first).isSome = true := by
    decide +kernel
  obtain ⟨d, hget⟩ := Option.isSome_iff_exists.1 hfound
  exact ⟨hclean, ⟨d, hget, (htold .first).2 d hget⟩, by decide +kernel, hprefix,
    by decide +kernel⟩

end Arbitration
