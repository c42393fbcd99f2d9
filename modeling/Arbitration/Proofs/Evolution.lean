import Arbitration.Proofs.Consent

/-!
# How records go on

An operation is about one dispute. To that one it does one of few things, and **to all others it
does nothing**: neither to the record nor to the asset in the registry, whether the operation
succeeds, fails, or fails in a way that cannot be taken back in full.

What it may do to its own dispute are two laws for two states. The record evolves
(`Dispute.Evolves`): what was agreed on at filing is fixed, the counterparty's stake and its
subsidy are set once, and rounds, extensions and the start only grow. And its stage proceeds along
few edges (`Dispute.Proceeds`), each of which belongs to one operation. The stage is read off four
fields of the record, so the edges are shown from the checks that were passed.
-/

namespace Arbitration

namespace Dispute

/-! ### Records -/

/-- A record and a later one of the same dispute. -/
structure Evolves (d next : Dispute) : Prop where
  id : next.id = d.id
  initiator : next.initiator = d.initiator
  counterparty : next.counterparty = d.counterparty
  baseStake : next.baseStake = d.baseStake
  initiatorStake : next.initiatorStake = d.initiatorStake
  escalated : next.escalated = d.escalated
  createdAt : next.createdAt = d.createdAt
  fallback : next.fallback = d.fallback
  earmarkedIncentive : next.earmarkedIncentive = d.earmarkedIncentive
  subsidy : d.subsidy = .zero ∨ next.subsidy = d.subsidy
  counterpartyStake : d.counterpartyStake = .zero ∨ next.counterpartyStake = d.counterpartyStake
  counterCount : d.counterCount ≤ next.counterCount
  cumulativeExtensionSecs : d.cumulativeExtensionSecs ≤ next.cumulativeExtensionSecs
  startTime : d.startTime ≤ next.startTime

theorem Evolves.refl (d : Dispute) : d.Evolves d :=
  ⟨rfl, rfl, rfl, rfl, rfl, rfl, rfl, rfl, rfl, .inr rfl, .inr rfl, UInt32.le_refl _,
    UInt64.le_refl _, Timestamp.le_refl _⟩

/-- What is set once stays set. -/
private theorem set_once {a b c : Amount} (hab : a = .zero ∨ b = a) (hbc : b = .zero ∨ c = b) :
    a = .zero ∨ c = a := by
  rcases hab with hzero | rfl
  · exact .inl hzero
  · exact hbc

theorem Evolves.trans {d next last : Dispute} (h : d.Evolves next) (h' : next.Evolves last) :
    d.Evolves last where
  id := h'.id.trans h.id
  initiator := h'.initiator.trans h.initiator
  counterparty := h'.counterparty.trans h.counterparty
  baseStake := h'.baseStake.trans h.baseStake
  initiatorStake := h'.initiatorStake.trans h.initiatorStake
  escalated := h'.escalated.trans h.escalated
  createdAt := h'.createdAt.trans h.createdAt
  fallback := h'.fallback.trans h.fallback
  earmarkedIncentive := h'.earmarkedIncentive.trans h.earmarkedIncentive
  subsidy := set_once h.subsidy h'.subsidy
  counterpartyStake := set_once h.counterpartyStake h'.counterpartyStake
  counterCount := UInt32.le_trans h.counterCount h'.counterCount
  cumulativeExtensionSecs := UInt64.le_trans h.cumulativeExtensionSecs h'.cumulativeExtensionSecs
  startTime := Timestamp.le_trans h.startTime h'.startTime

/-- Another round counts up and starts later. -/
theorem evolves_counterRound {d next : Dispute} {evidence : ContentDigest} {extension : UInt64}
    (h : d.counterRound evidence extension = .ok next) : d.Evolves next := by
  obtain ⟨startTime, hstart, hextension, hcount, rfl⟩ := counterRound_eq_ok_iff.1 h
  have hcounted : d.counterCount ≤ UInt32.ofNat (d.counterCount.toNat + 1) := by
    rw [UInt32.le_iff_toNat_le, UInt32.toNat_ofNat_of_lt' hcount]
    omega
  have hextended : d.cumulativeExtensionSecs ≤
      UInt64.ofNat (d.cumulativeExtensionSecs.toNat + extension.toNat) := by
    rw [UInt64.le_iff_toNat_le, UInt64.toNat_ofNat_of_lt' hextension]
    omega
  exact { Evolves.refl d with
    counterCount := hcounted
    cumulativeExtensionSecs := hextended
    startTime := Timestamp.le_addSeconds hstart }

/-! ### Stages -/

section Stage

variable {d : Dispute}

theorem stage_of_resolved (h : d.resolved = true) : d.stage = .resolved d.outcome := by
  rw [stage, if_pos h]

theorem stage_of_unstaked (hopen : d.resolved = false) (hstaked : d.fullyStaked = false) :
    d.stage = .staked := by
  rw [stage, if_neg (Bool.eq_false_iff.1 hopen), hstaked]
  rfl

theorem stage_of_staked (hopen : d.resolved = false) (hstaked : d.fullyStaked = true) :
    d.stage = if d.proposal.isSome then .proposalReady else .proposalPending := by
  rw [stage, if_neg (Bool.eq_false_iff.1 hopen), hstaked]
  rfl

/-- Where both have staked, the stage is one of two. -/
theorem stage_eq_or_eq (hopen : d.resolved = false) (hstaked : d.fullyStaked = true) :
    d.stage = .proposalPending ∨ d.stage = .proposalReady := by
  rw [stage_of_staked hopen hstaked]
  cases d.proposal.isSome with
  | false => exact .inl rfl
  | true => exact .inr rfl

/-- Nothing is proposed before both have staked. -/
theorem Sound.stage_matched {config : Config} (h : d.Sound config) (hopen : d.resolved = false)
    (hstaked : d.fullyStaked = false) :
    ({ d with counterpartyStake := d.initiatorStake } : Dispute).stage = .proposalPending := by
  have hmatched :
      ({ d with counterpartyStake := d.initiatorStake } : Dispute).fullyStaked = true := by
    show (!d.initiatorStake.isZero) = true
    rw [h.staked]
    rfl
  have hnone : d.proposal.isSome = false := by
    rw [Bool.eq_false_iff]
    intro hproposed
    rw [h.proposed hproposed] at hstaked
    cases hstaked
  rw [stage_of_staked (by exact hopen) hmatched]
  show (if d.proposal.isSome = true then Stage.proposalReady else .proposalPending) = _
  rw [hnone]
  rfl

end Stage

/-- How far an operation may bring its dispute. The stage stays, or goes on along the one edge that
belongs to the operation. -/
inductive Proceeds : Operation → Dispute → Dispute → Prop
  | stays {op : Operation} {d next : Dispute} (same : next.stage = d.stage) : Proceeds op d next
  | matched {caller : AccountId} {d next : Dispute} (before : d.stage = .staked)
      (after : next.stage = .proposalPending) : Proceeds (.deposit caller d.id) d next
  | proposed {caller : AccountId} {p : SignedProposal} {d next : Dispute}
      (before : d.stage = .proposalPending) (after : next.stage = .proposalReady) :
      Proceeds (.submit caller d.id p) d next
  | countered {caller : AccountId} {r : CounterRequest} {d next : Dispute}
      (before : d.stage = .proposalPending ∨ d.stage = .proposalReady)
      (after : next.stage = .proposalPending) : Proceeds (.counter caller d.id r) d next
  | agreed {p : Party} {d next : Dispute} (before : d.stage = .proposalReady)
      (first : d.hasAccepted p.other = true) (after : next.stage = .resolved .acceptedProposal) :
      Proceeds (.accept (d.account p) d.id) d next
  | lapsed {caller : AccountId} {d next : Dispute} (before : d.stage = .staked)
      (after : next.stage = .resolved .defaultLicenseApplied) :
      Proceeds (.enforce caller d.id) d next
  | deadlocked {caller : AccountId} {d next : Dispute}
      (before : d.stage = .proposalPending ∨ d.stage = .proposalReady)
      (after : next.stage = .resolved .timeoutWithBurn) : Proceeds (.enforce caller d.id) d next

/-- Who completes an agreement comes second. -/
theorem hasAccepted_other_of_both {d : Dispute} {p : Party}
    (h : (d.accept p).bothAccepted = true) : d.hasAccepted p.other = true := by
  obtain ⟨hinitiator, hcounterparty⟩ := Bool.and_eq_true_iff.1 h
  cases p with
  | initiator => exact hcounterparty
  | counterparty => exact hinitiator

/-- Marking a record as resolved changes nothing that is fixed. -/
theorem evolves_mark (d : Dispute) (r : Resolution) (i c : Bool) (waiting : Option Release)
    (now : Timestamp) : d.Evolves (r.mark (d.accepting i c) waiting now) :=
  { Evolves.refl d with }

end Dispute

/-! ### A successful operation -/

/-- What an operation leaves in the records: one record of its dispute, which goes on from the one
that was there, and all others as they were. -/
structure Engine.Continues (e : Engine) (op : Operation) (f : Footprint) (next : Dispute) :
    Prop where
  number : next.id = op.dispute e
  stored : ∀ id, f.store.get? id = if op.dispute e = id then some next else e.store.get? id
  known : ∀ id, op.named = some id → (e.store.get? id).isSome = true
  evolves : ∀ d, e.store.get? (op.dispute e) = some d → d.Evolves next
  proceeds : ∀ d, e.store.get? (op.dispute e) = some d → d.Proceeds op next

section Written

variable {e : Engine} {op : Operation} {f : Footprint} {id : DisputeId} {d : Dispute}

/-- What is written over a known record. -/
theorem Engine.Sound.continues {w : StoreWrite} (h : e.Sound) (hget : e.store.get? id = some d)
    (hnamed : op.named = some id) (hwritten : e.store.write w = .ok f.store)
    (hevolves : d.Evolves w.record) (hproceeds : d.Proceeds op w.record) :
    e.Continues op f w.record := by
  have hdispute : op.dispute e = id := Operation.dispute_of_named hnamed
  have hid : w.record.id = id := hevolves.id.trans (h.keyed id d hget)
  have hknown : ∀ d', e.store.get? (op.dispute e) = some d' → d' = d := by
    intro d' hget'
    rw [hdispute, hget] at hget'
    exact (Option.some.inj hget').symm
  refine ⟨hid.trans hdispute.symm, fun id' => ?_, fun id' hnamed' => ?_, fun d' hget' => ?_,
    fun d' hget' => ?_⟩
  · rw [Store.get?_of_write hwritten, hid, hdispute]
  · rw [hnamed] at hnamed'
    rw [← Option.some.inj hnamed', hget]
    rfl
  · rw [hknown d' hget']
    exact hevolves
  · rw [hknown d' hget']
    exact hproceeds

/-- What a resolution writes over a known record. -/
theorem Engine.Sound.continues_resolution {r : Resolution} {moves : List Move}
    {events : List (DisputeId × Event)} {i c : Bool} (h : e.Sound)
    (hget : e.store.get? id = some d) (hnamed : op.named = some id)
    (hresolves : Resolves e (d.accepting i c) r moves events f)
    (hproceeds : ∀ next : Dispute, next.stage = .resolved r.outcome → d.Proceeds op next) :
    ∃ next, e.Continues op f next := by
  obtain ⟨waiting, hwritten⟩ := hresolves.exists_written
  have hstage : (r.mark (d.accepting i c) waiting e.now).stage = .resolved r.outcome :=
    Dispute.stage_of_resolved rfl
  exact ⟨_, h.continues hget hnamed hwritten (d.evolves_mark r i c waiting e.now)
    (hproceeds _ hstage)⟩

end Written

/-- **One operation.** The record that it is about evolves and proceeds, and no other is touched. -/
theorem Succeeds.continues {e : Engine} {op : Operation} {answer : Answer} {f : Footprint}
    (hs : Succeeds e op answer f) (h : e.Sound) : ∃ next, e.Continues op f next := by
  cases hs with
  | @initiate caller r stake earmarked escalated treasury registry store deadline admitted setAside
      counted frozen dated written =>
    -- under the next number there is nothing to go on from
    have hnone : e.store.get? (Operation.dispute e (.initiate caller r)) = none := h.get?_nextId
    refine ⟨e.filed caller r stake escalated earmarked, rfl,
      fun id => Store.get?_of_write written id, fun id hnamed => ?_, fun d hget => ?_,
      fun d hget => ?_⟩
    · cases hnamed
    · rw [hnone] at hget
      cases hget
    · rw [hnone] at hget
      cases hget
  | @deposit caller id dep total store admitted added written =>
    obtain ⟨hget, hopen, -, hstaked, -⟩ := Engine.admitDeposit_eq_ok_iff.1 admitted
    have hd := h.records id _ hget
    have hevolves : dep.record.Evolves
        { dep.record with counterpartyStake := dep.record.initiatorStake } :=
      { Dispute.Evolves.refl dep.record with
        counterpartyStake := .inl (Dispute.isZero_counterpartyStake hstaked) }
    obtain rfl := h.keyed id _ hget
    exact ⟨_, h.continues hget rfl written hevolves
      (.matched (Dispute.stage_of_unstaked hopen hstaked) (hd.stage_matched hopen hstaked))⟩
  | @grantSubsidy caller id d amount store admitted written =>
    obtain ⟨hget, -, -, -, hnone, -⟩ := Engine.admitSubsidy_eq_ok_iff.1 admitted
    have hevolves : d.Evolves { d with subsidy := amount } :=
      { Dispute.Evolves.refl d with subsidy := .inl (Amount.isZero_iff.1 hnone) }
    exact ⟨_, h.continues hget rfl written hevolves (.stays rfl)⟩
  | @submit caller id p d store admitted written =>
    obtain ⟨-, hget, hopen, hstaked, hnone, -⟩ := Engine.admitProposal_eq_ok_iff.1 admitted
    have hbefore : d.stage = .proposalPending := by
      rw [Dispute.stage_of_staked hopen hstaked, hnone]
      rfl
    obtain rfl := h.keyed id _ hget
    exact ⟨_, h.continues hget rfl written { Dispute.Evolves.refl d with }
      (.proposed hbefore (Dispute.stage_of_staked hopen hstaked))⟩
  | @accept caller id a store admitted one written =>
    obtain ⟨hget, -⟩ := Engine.admitAcceptance_eq_ok_iff.1 admitted
    obtain ⟨i, c, haccept⟩ := a.record.accept_eq a.party
    rw [haccept] at written
    exact ⟨_, h.continues hget rfl written { Dispute.Evolves.refl a.record with } (.stays rfl)⟩
  | @agree caller id a f admitted both resolves =>
    obtain ⟨hget, hopen, hparty, ⟨terms, hterms, -⟩, -⟩ :=
      Engine.admitAcceptance_eq_ok_iff.1 admitted
    have hproposed : a.record.proposal.isSome = true := by
      rw [hterms]
      rfl
    have hready : a.record.stage = .proposalReady := by
      rw [Dispute.stage_of_staked hopen ((h.records id _ hget).proposed hproposed), hproposed]
      rfl
    have hfirst := Dispute.hasAccepted_other_of_both both
    obtain ⟨i, c, haccept⟩ := a.record.accept_eq a.party
    rw [haccept] at resolves
    obtain rfl := h.keyed id _ hget
    obtain rfl := Dispute.account_of_partyOf hparty
    exact h.continues_resolution hget rfl resolves fun next => .agreed hready hfirst
  | @counter caller id r c routed next deadline store admitted routes opened dated written =>
    obtain ⟨hget, hopen, -, hstaked, -⟩ := Engine.admitCounter_eq_ok_iff.1 admitted
    have hevolves : c.record.Evolves next := Dispute.evolves_counterRound opened
    obtain ⟨startTime, -, -, -, rfl⟩ := Dispute.counterRound_eq_ok_iff.1 opened
    obtain rfl := h.keyed id _ hget
    exact ⟨_, h.continues hget rfl written hevolves
      (.countered (Dispute.stage_eq_or_eq hopen hstaked) (Dispute.stage_of_staked hopen hstaked))⟩
  | @lapse caller source id d draw skipped f admitted draws resolves =>
    obtain ⟨hget, hopen, hstaked, -⟩ := Engine.admitEnforcement_eq_silent_iff.1 admitted
    obtain rfl := h.keyed id _ hget
    exact h.continues_resolution hget rfl resolves fun next =>
      .lapsed (Dispute.stage_of_unstaked hopen hstaked)
  | @deadlock caller id d settlement f admitted resolves =>
    obtain ⟨hget, hopen, hstaked, -⟩ := Engine.admitEnforcement_eq_deadlocked_iff.1 admitted
    obtain rfl := h.keyed id _ hget
    exact h.continues_resolution hget rfl resolves fun next =>
      .deadlocked (Dispute.stage_eq_or_eq hopen hstaked)
  | @retry caller id d release registry store admitted freed written =>
    obtain ⟨hget, -⟩ := Engine.admitRetry_eq_ok_iff.1 admitted
    exact ⟨_, h.continues hget rfl written { Dispute.Evolves.refl d with } (.stays rfl)⟩

/-! ### The registry elsewhere -/

/-- A resolution deals with the asset of its own dispute only. -/
theorem Resolves.sameAt {e : Engine} {d : Dispute} {r : Resolution} {moves : List Move}
    {events : List (DisputeId × Event)} {f : Footprint} {id : DisputeId}
    (h : Resolves e d r moves events f) (hne : d.id ≠ id) : e.registry.SameAt f.registry id := by
  cases h with
  | @intro burned freed registry released pending store admitted releases written licensed =>
    have hfreed : e.registry.SameAt freed id := by
      cases releases with
      | now done => exact Registry.sameAt_unfreeze hne done
      | later policy refused => exact .refl _ _
    refine hfreed.trans ?_
    show freed.SameAt registry id
    split at licensed
    · exact Registry.sameAt_applyFallback hne licensed
    · rw [licensed]
      exact .refl _ _

theorem Succeeds.sameAt {e : Engine} {op : Operation} {answer : Answer} {f : Footprint}
    {id : DisputeId} (hs : Succeeds e op answer f) (h : e.Sound) (hne : op.dispute e ≠ id) :
    e.registry.SameAt f.registry id := by
  cases hs with
  | initiate admitted setAside counted frozen dated written =>
    exact Registry.sameAt_freeze hne frozen
  | agree admitted both resolves =>
    obtain ⟨hget, -⟩ := Engine.admitAcceptance_eq_ok_iff.1 admitted
    refine resolves.sameAt ?_
    rw [Dispute.accept_id, h.keyed _ _ hget]
    exact hne
  | lapse admitted draws resolves =>
    obtain ⟨hget, -⟩ := Engine.admitEnforcement_eq_silent_iff.1 admitted
    refine resolves.sameAt ?_
    rw [h.keyed _ _ hget]
    exact hne
  | deadlock admitted resolves =>
    obtain ⟨hget, -⟩ := Engine.admitEnforcement_eq_deadlocked_iff.1 admitted
    refine resolves.sameAt ?_
    rw [h.keyed _ _ hget]
    exact hne
  | retry admitted freed written => exact Registry.sameAt_unfreeze hne freed
  | _ => exact .refl _ _

/-- What a failed operation has to freeze or to release again is the asset of its own dispute. -/
theorem Trail.asset_eq {e e' : Engine} {op : Operation} {journal : List Undo} {u : Undo}
    {id : DisputeId} (h : Trail e op.issues journal e') (hu : u ∈ journal)
    (hasset : u.asset = some id) : op.dispute e = id := by
  have hissued := h.mem_issued u hu
  cases u with
  | freeze other =>
    obtain rfl := h.eq_nextId_of_freeze hu
    obtain rfl := Option.some.inj hasset
    cases op with
    | initiate caller r => rfl
    | _ => cases hissued
  | unfreeze other holder =>
    obtain rfl := Option.some.inj hasset
    cases op with
    | accept caller id => exact Eq.symm hissued
    | enforce caller id => exact Eq.symm hissued
    | retryRelease caller id => exact Eq.symm hissued
    | _ => cases hissued
  | _ => cases hasset

/-! ### Events -/

/-- What a resolution tells is about its own dispute. -/
theorem Resolves.about {e : Engine} {d : Dispute} {r : Resolution} {moves : List Move}
    {events : List (DisputeId × Event)} {f : Footprint} (h : Resolves e d r moves events f)
    (habout : ∀ p ∈ events, p.1 = d.id) : ∀ p ∈ f.events, p.1 = d.id := by
  cases h with
  | intro admitted releases written licensed =>
    simp only [List.forall_mem_append]
    exact ⟨⟨habout, releases.forall_mem_pending fun _ => rfl⟩,
      Resolution.forall_mem_report rfl rfl rfl rfl⟩

/-- So is what any operation tells. -/
theorem Succeeds.about {e : Engine} {op : Operation} {answer : Answer} {f : Footprint}
    (hs : Succeeds e op answer f) (h : e.Sound) : ∀ p ∈ f.events, p.1 = op.dispute e := by
  cases hs with
  | @agree caller id a f admitted both resolves =>
    obtain ⟨hget, -⟩ := Engine.admitAcceptance_eq_ok_iff.1 admitted
    have hid : (a.record.accept a.party).id = id :=
      (a.record.accept_id a.party).trans (h.keyed _ _ hget)
    have habout := resolves.about (List.forall_mem_singleton.2 hid.symm)
    rw [hid] at habout
    exact habout
  | @lapse caller source id d draw skipped f admitted draws resolves =>
    obtain ⟨hget, -⟩ := Engine.admitEnforcement_eq_silent_iff.1 admitted
    have habout := resolves.about (draws.forall_mem_events rfl fun _ _ => rfl)
    rw [h.keyed _ _ hget] at habout
    exact habout
  | @deadlock caller id d settlement f admitted resolves =>
    obtain ⟨hget, -⟩ := Engine.admitEnforcement_eq_deadlocked_iff.1 admitted
    have habout := resolves.about (List.forall_mem_nil _)
    rw [h.keyed _ _ hget] at habout
    exact habout
  | accept admitted one written => exact List.forall_mem_singleton.2 rfl
  | submit admitted written => exact List.forall_mem_singleton.2 rfl
  | grantSubsidy admitted written => exact List.forall_mem_singleton.2 rfl
  | retry admitted freed written => exact List.forall_mem_singleton.2 rfl
  | initiate admitted setAside counted frozen dated written =>
    exact List.forall_mem_cons.2 ⟨rfl, List.forall_mem_singleton.2 rfl⟩
  | deposit admitted added written =>
    exact List.forall_mem_cons.2 ⟨rfl, List.forall_mem_singleton.2 rfl⟩
  | counter admitted routes opened dated written =>
    exact List.forall_mem_cons.2 ⟨rfl, List.forall_mem_singleton.2 rfl⟩

/-! ### Every operation -/

/-- How an engine develops in an operation, whether it succeeds or not. -/
structure Engine.Develops (e : Engine) (op : Operation) (e' : Engine) : Prop where
  elsewhere : ∀ id, op.dispute e ≠ id →
    e'.store.get? id = e.store.get? id ∧ e.registry.SameAt e'.registry id
  records : ∀ id d, e.store.get? id = some d →
    ∃ next, e'.store.get? id = some next ∧ d.Evolves next ∧ d.Proceeds op next
  opened : ∀ id next, e.store.get? id = none → e'.store.get? id = some next →
    id = e.store.nextId ∧ next.id = id ∧ ∃ caller r, op = .initiate caller r

namespace Engine

variable {e e' : Engine} {op : Operation}

/-- A failed operation develops nothing. -/
theorem Sound.develops_of_error {err : DisputeError} (h : e.Sound)
    (hfailed : e.perform op = (.error err, e')) : e.Develops op e' := by
  have hstore : e'.store = e.store := store_of_error h.keyed hfailed
  refine ⟨fun id hne => ⟨by rw [hstore], ?_⟩, fun id d hget => ?_, fun id next hnone hsome => ?_⟩
  · obtain ⟨session, -, ⟨htrail, -⟩, rfl⟩ := Engine.perform_error h.keyed hfailed
    exact htrail.sameAt_rollback fun u hu hasset => hne (htrail.asset_eq hu hasset)
  · rw [hstore]
    exact ⟨d, hget, .refl d, .stays rfl⟩
  · rw [hstore, hnone] at hsome
    cases hsome

/-- A successful operation develops its dispute. -/
theorem Sound.develops_of_succeeds {answer : Answer} {f : Footprint} (h : e.Sound)
    (hs : Succeeds e op answer f) (ledger : Ledger) : e.Develops op (e.having f ledger) := by
  obtain ⟨next, hcontinues⟩ := hs.continues h
  have hstored : ∀ id, (e.having f ledger).store.get? id =
      if op.dispute e = id then some next else e.store.get? id := hcontinues.stored
  refine ⟨fun id hne => ⟨?_, hs.sameAt h hne⟩, fun id d hget => ?_, fun id d hnone hsome => ?_⟩
  · rw [hstored, if_neg hne]
  · by_cases hid : op.dispute e = id
    · subst hid
      refine ⟨next, ?_, hcontinues.evolves d hget, hcontinues.proceeds d hget⟩
      rw [hstored, if_pos rfl]
    · refine ⟨d, ?_, .refl d, .stays rfl⟩
      rw [hstored, if_neg hid, hget]
  · -- a record that is new is the one that was written, and no operation on a known dispute adds it
    have hid : op.dispute e = id := by
      refine Decidable.byContradiction fun hne => ?_
      rw [hstored, if_neg hne, hnone] at hsome
      cases hsome
    rw [hstored, if_pos hid] at hsome
    obtain rfl := Option.some.inj hsome
    cases hnamed : op.named with
    | some id' =>
      have hknown := hcontinues.known id' hnamed
      rw [← Operation.dispute_of_named (e := e) hnamed, hid, hnone] at hknown
      cases hknown
    | none =>
      cases op with
      | initiate caller r => exact ⟨hid.symm, hcontinues.number.trans hid, caller, r, rfl⟩
      | _ => cases hnamed

theorem Sound.develops (h : e.Sound) (op : Operation) : e.Develops op (e.perform op).2 := by
  rcases hdone : e.perform op with ⟨err | answer, e'⟩
  · exact h.develops_of_error hdone
  · obtain ⟨f, ledger, hsucceeds, -, rfl⟩ := perform_ok h.keyed hdone
    exact h.develops_of_succeeds hsucceeds ledger

/-- A filing that succeeds adds the record with the next number. -/
theorem Sound.exists_opened {caller : AccountId} {r : InitiateRequest} {answer : Answer}
    (h : e.Sound) (hdone : e.perform (.initiate caller r) = (.ok answer, e')) :
    ∃ d, e'.store.get? e.store.nextId = some d ∧ d.id = e.store.nextId := by
  obtain ⟨f, ledger, hsucceeds, -, rfl⟩ := perform_ok h.keyed hdone
  obtain ⟨next, hcontinues⟩ := hsucceeds.continues h
  exact ⟨next, (hcontinues.stored _).trans (if_pos rfl), hcontinues.number⟩

/-- However a clean run goes on, a record evolves. -/
theorem Sound.evolves_run {turns : List Turn} {id : DisputeId} {d : Dispute} (h : e.Sound)
    (hclean : e.runsCleanly turns = true) (hget : e.store.get? id = some d) :
    ∃ next, (e.run turns).store.get? id = some next ∧ d.Evolves next := by
  refine h.run_induction (P := fun e' => ∃ next, e'.store.get? id = some next ∧ d.Evolves next)
    hclean ⟨d, hget, .refl d⟩ ?_ ?_
  · rintro e₁ e₂ hidle ⟨next, hnext, hevolves⟩
    exact ⟨next, (hidle.get? id).trans hnext, hevolves⟩
  · rintro e₁ op answer f ledger hsound hsucceeds - ⟨next, hnext, hevolves⟩
    have hdevelops := hsound.develops_of_succeeds hsucceeds ledger
    obtain ⟨last, hlast, hgoes, -⟩ := hdevelops.records id next hnext
    exact ⟨last, hlast, hevolves.trans hgoes⟩

end Engine

/-- **Records evolve, and only the one that is dealt with.** Stop a clean run anywhere and let any
operation be called, whether it succeeds or not. The records and assets of all disputes but the one
that it names or opens are as before. The stage of its dispute stays or goes on along the edge that
belongs to the operation; what was fixed at filing stays, what is set once stays set, and what
counts does not fall. Only a filing adds a record, one under the next number if it succeeds. And
however the run goes on, every record evolves. -/
theorem records_evolve {start : Engine} {first later : List Turn}
    (h : CleanRun start (first ++ later)) :
    (∀ op, (start.run first).Develops op ((start.run first).perform op).2) ∧
      (∀ caller r answer e', (start.run first).perform (.initiate caller r) = (.ok answer, e') →
        ∃ d, e'.store.get? (start.run first).store.nextId = some d ∧
          d.id = (start.run first).store.nextId) ∧
      ∀ id d, (start.run first).store.get? id = some d →
        ∃ next, (start.run (first ++ later)).store.get? id = some next ∧ d.Evolves next := by
  obtain ⟨hfirst, hlater⟩ := h.of_append
  have hsound := hfirst.sound
  refine ⟨hsound.develops, fun caller r answer e' hdone => hsound.exists_opened hdone,
    fun id d hget => ?_⟩
  rw [Engine.run_append]
  exact hsound.evolves_run hlater hget

namespace Sample

/-- A filing the other way round. -/
def returnFiling : InitiateRequest := { filing with counterparty := alice }

end Sample

/-- When both have staked in the sample dispute, Bob may file against Alice too: that adds the
second record and leaves the first. The first one evolves up to Alice's acceptance. -/
theorem second_filing_leaves_the_first :
    CleanRun Sample.engine Sample.negotiation ∧
      ((Sample.engine.run Sample.staking).perform
        (.initiate Sample.bob Sample.returnFiling)).2.store.get? .first =
          some Sample.contested ∧
      (∃ d, ((Sample.engine.run Sample.staking).perform
        (.initiate Sample.bob Sample.returnFiling)).2.store.get? ⟨2⟩ = some d ∧ d.id = ⟨2⟩) ∧
      Sample.contested.Evolves Sample.halfAgreed := by
  have hclean := Sample.negotiation_clean
  have hnext : (Sample.engine.run Sample.staking).store.nextId = ⟨2⟩ := by decide +kernel
  have hfiled : ((Sample.engine.run Sample.staking).perform
      (.initiate Sample.bob Sample.returnFiling)).1 = .ok (.opened ⟨2⟩) := by rfl
  obtain ⟨hdevelops, hopened, hevolves⟩ := records_evolve hclean
  obtain ⟨helsewhere, -, -⟩ := hdevelops (.initiate Sample.bob Sample.returnFiling)
  obtain ⟨hsame, -⟩ := helsewhere .first (by decide +kernel)
  obtain ⟨next, hnow, hgoes⟩ := hevolves .first Sample.contested Sample.get?_contested
  have hhalf := Sample.get?_negotiation
  rw [Sample.negotiation, hnow] at hhalf
  rw [hnext] at hopened
  refine ⟨hclean, hsame.trans Sample.get?_contested,
    hopened Sample.bob Sample.returnFiling _ _ (Prod.ext hfiled rfl), ?_⟩
  rw [← Option.some.inj hhalf]
  exact hgoes

end Arbitration
