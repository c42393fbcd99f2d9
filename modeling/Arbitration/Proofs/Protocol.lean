import Arbitration.Proofs.Completion

/-!
# The protocol of a dispute

The log interleaves the events of all disputes. Those of one dispute are its **word**
(`EventLog.word`), and not every list of events can be one: the words follow a grammar, which is
given here from the smallest parts to whole disputes.

* `Opening`: the filing, and the subsidy if one is granted.
* `Round`: at most one proposal, and at most one acceptance of it.
* `Rounds`: the opening, both stakes, and all rounds before the current one.
* `Ended`: a dispute up to its resolution, which comes in one of three ways.
* `Dispute.Told`: a record and its word, whether it waits for a stake, is in a round or has ended.

The grammar is indexed by what records say, so a word that fits its record tells how the record
came to be: how many rounds there were, who accepted, whether a subsidy was granted and whether a
release is still pending.
-/

namespace Arbitration

/-! ### Words -/

namespace EventLog

/-- The events of one dispute, oldest first. -/
def word (l : EventLog) (id : DisputeId) : List Event := (l.ofDispute id).map (·.event)

/-- The events of an operation come behind all others. -/
theorem exists_extend (l : EventLog) (time : Timestamp) (events : List (DisputeId × Event)) :
    ∃ new, (l.extend time events).records = l.records ++ new ∧
      new.map (fun r => (r.dispute, r.event)) = events := by
  induction events generalizing l with
  | nil => exact ⟨[], (List.append_nil _).symm, rfl⟩
  | cons p rest ih =>
    obtain ⟨new, hnew, hrest⟩ := ih (l.append p.1 time p.2)
    refine ⟨⟨l.size + 1, p.1, time, p.2⟩ :: new, ?_, ?_⟩
    · exact hnew.trans (List.append_assoc ..)
    · rw [List.map_cons, hrest]

/-- They are added to the word of the dispute that they are about, and to no other. -/
theorem word_extend {time : Timestamp} {about : DisputeId} {events : List (DisputeId × Event)}
    (habout : ∀ p ∈ events, p.1 = about) (l : EventLog) (id : DisputeId) :
    (l.extend time events).word id =
      l.word id ++ if about = id then events.map (·.2) else [] := by
  obtain ⟨new, hrecords, hnew⟩ := l.exists_extend time events
  have hdispute : ∀ r ∈ new, r.dispute = about := by
    intro r hr
    refine habout (r.dispute, r.event) ?_
    rw [← hnew]
    exact List.mem_map_of_mem hr
  rw [word, ofDispute, hrecords, List.filter_append, List.map_append, ← hnew, List.map_map]
  refine congrArg (l.word id ++ ·) ?_
  split
  · rename_i hid
    rw [List.filter_eq_self.2 fun r hr => decide_eq_true ((hdispute r hr).trans hid)]
    rfl
  · rename_i hid
    rw [List.filter_eq_nil_iff.2 fun r hr h =>
      hid ((hdispute r hr).symm.trans (of_decide_eq_true h))]
    rfl

/-! ### The order of the log -/

/-- The events are numbered from one, without a gap. -/
def Numbered (l : EventLog) : Prop := l.records.map (·.sequence) = List.range' 1 l.size

theorem Numbered.append {l : EventLog} (h : l.Numbered) (id : DisputeId) (time : Timestamp)
    (event : Event) : (l.append id time event).Numbered := by
  have hsize : (l.append id time event).size = l.size + 1 := List.length_append
  rw [Numbered, hsize, List.range'_1_concat, ← h, Nat.add_comm 1]
  exact List.map_append

theorem Numbered.extend {l : EventLog} (h : l.Numbered) (time : Timestamp)
    (events : List (DisputeId × Event)) : (l.extend time events).Numbered :=
  List.foldlRecOn (motive := Numbered) events _ h fun _ hl p _ => hl.append p.1 time p.2

/-- What is in the log stays there, in its place. -/
theorem prefix_extend (l : EventLog) (time : Timestamp) (events : List (DisputeId × Event)) :
    l.records <+: (l.extend time events).records := by
  obtain ⟨new, hrecords, -⟩ := l.exists_extend time events
  exact ⟨new, hrecords.symm⟩

/-- Of entries that are numbered in order, those from a number on are those behind the ones
before it. -/
private theorem filter_eq_drop {α : Type} (number : α → Nat) (entries : List α) (start bound : Nat)
    (h : entries.map number = List.range' start entries.length) :
    entries.filter (fun a => bound ≤ number a) = entries.drop (bound - start) := by
  induction entries generalizing start with
  | nil => simp
  | cons a rest ih =>
    rw [List.map_cons, List.length_cons, List.range'_succ, List.cons.injEq] at h
    have hrest := ih (start + 1) h.2
    rw [List.filter_cons, hrest, h.1]
    by_cases hle : bound ≤ start
    · have hnone : bound - start = 0 := by omega
      have hnone' : bound - (start + 1) = 0 := by omega
      rw [hnone, hnone', decide_eq_true hle, if_pos rfl, List.drop_zero, List.drop_zero]
    · have hmore : bound - start = bound - (start + 1) + 1 := by omega
      rw [hmore, decide_eq_false hle, if_neg Bool.false_ne_true, List.drop_succ_cons]

/-- In a numbered log the events after a position are those with a greater number. -/
theorem Numbered.since_eq {l : EventLog} (h : l.Numbered) (position : Nat) :
    l.since position = l.records.filter fun r => position < r.sequence :=
  (filter_eq_drop EventRecord.sequence l.records 1 (position + 1) h).symm

end EventLog

/-! ### The start of a dispute -/

/-- What the first events of a dispute tell: who plays which role, the stake, and the subsidy,
which is zero until one is granted. -/
structure Footing where
  initiator : AccountId
  counterparty : AccountId
  stake : Amount
  subsidy : Amount

/-- The filing, and the subsidy if one was granted. -/
inductive Opening : Footing → List Event → Prop
  | alone {initiator counterparty : AccountId} {base stake : Amount} {escalated : Bool}
      {evidence : ContentDigest} {deadline : Timestamp} :
      Opening ⟨initiator, counterparty, stake, .zero⟩ [
        .disputeCreated initiator counterparty base stake escalated evidence deadline,
        .staked .initiator initiator stake]
  | subsidised {initiator counterparty : AccountId} {base stake subsidy : Amount}
      {escalated : Bool} {evidence : ContentDigest} {deadline : Timestamp}
      (granted : subsidy.isZero = false) :
      Opening ⟨initiator, counterparty, stake, subsidy⟩ [
        .disputeCreated initiator counterparty base stake escalated evidence deadline,
        .staked .initiator initiator stake,
        .subsidyGranted counterparty subsidy]

/-! ### Rounds -/

/-- A round: whether there is a proposal, and who accepted it. -/
inductive Round : Bool → List Party → List Event → Prop
  | silent : Round false [] []
  | proposed {nonce : UInt64} {binding : ContentDigest} :
      Round true [] [.proposalSubmitted nonce binding]
  | accepted {nonce : UInt64} {binding : ContentDigest} {p : Party} :
      Round true [p] [.proposalSubmitted nonce binding, .proposalAccepted p]

/-- Everything before the current round. The rounds before it are counted from one, and there are
never more than the limit. -/
inductive Rounds (limit : UInt32) (start : Footing) : Nat → List Event → Prop
  | first {opening : List Event} {total : Amount} {deadline : Timestamp}
      (opened : Opening start opening) :
      Rounds limit start 0 (opening ++
        [.staked .counterparty start.counterparty start.stake, .fullyStaked total deadline])
  | next {count : Nat} {before round : List Event} {proposed : Bool} {accepted : List Party}
      {payer : AccountId} {fee routed : Amount} {p : Party} {number : UInt32}
      {evidence : ContentDigest} {extension : UInt64} {deadline : Timestamp}
      (rounds : Rounds limit start count before) (closed : Round proposed accepted round)
      (numbered : number.toNat = count + 1) (allowed : number ≤ limit) :
      Rounds limit start (count + 1) (before ++ round ++
        [.feeBurned payer fee routed, .counterProposed p number evidence extension deadline])

/-! ### The end of a dispute -/

/-- Whether the release of the asset was put off. -/
inductive PutOff : Bool → List Event → Prop
  | released : PutOff false []
  | pending {reason : String} : PutOff true [.releasePending reason]

/-- What became of the incentive: it was paid, it was skipped, or there was none. -/
inductive Incentive : List Event → List Event → Prop
  | none : Incentive [] []
  | skipped {owed available : Amount} : Incentive [.incentiveSkipped owed available] []
  | paid {account : AccountId} {amount : Amount} : Incentive [] [.incentivePaid account amount]

/-- What was burned of the stakes, if anything. -/
inductive Burnt : List Event → Prop
  | nothing : Burnt []
  | some {amount dust : Amount} : Burnt [.burned amount dust]

/-- A dispute up to its resolution: how many rounds were closed, how it ended, and whether the
release was put off. -/
inductive Ended (limit : UInt32) (start : Footing) : Nat → Outcome → Bool → List Event → Prop
  | lapsed {opening returned skipped pending paid : List Event} {late : Bool} {terms : String}
      {toInitiator toCounterparty burned dust incentive : Amount}
      (opened : Opening start opening)
      (back : returned = if start.subsidy.isZero then [] else [.subsidyReturned start.subsidy])
      (reward : Incentive skipped paid) (release : PutOff late pending) :
      Ended limit start 0 .defaultLicenseApplied late
        (opening ++ returned ++ skipped ++ pending ++ paid ++ [.fallbackLicenseApplied terms,
          .resolved .defaultLicenseApplied toInitiator toCounterparty burned dust incentive])
  | agreed {count : Nat} {before round pending : List Event} {p : Party} {late : Bool}
      {toInitiator toCounterparty burned dust incentive : Amount}
      (rounds : Rounds limit start count before) (one : Round true [p.other] round)
      (release : PutOff late pending) :
      Ended limit start count .acceptedProposal late
        (before ++ round ++ [.proposalAccepted p] ++ pending ++
          [.resolved .acceptedProposal toInitiator toCounterparty burned dust incentive])
  | deadlocked {count : Nat} {before round pending sunk : List Event} {proposed : Bool}
      {accepted : List Party} {late : Bool} {terms : String}
      {toInitiator toCounterparty burned dust incentive : Amount}
      (rounds : Rounds limit start count before) (last : Round proposed accepted round)
      (release : PutOff late pending) (loss : Burnt sunk) :
      Ended limit start count .timeoutWithBurn late
        (before ++ round ++ pending ++ sunk ++ [.fallbackLicenseApplied terms,
          .resolved .timeoutWithBurn toInitiator toCounterparty burned dust incentive])

/-- What came of a release that was put off or was not: whether it is still pending. -/
inductive Freed : Bool → Bool → List Event → Prop
  | atOnce : Freed false false []
  | waiting : Freed true true []
  | completed : Freed true false [.releaseCompleted]

/-! ### Records and words -/

namespace Dispute

/-- On what footing the dispute stands. -/
def footing (d : Dispute) : Footing :=
  ⟨d.initiator, d.counterparty, d.initiatorStake, d.subsidy⟩

/-- Who accepted the proposal that stands. -/
def acceptances (d : Dispute) : List Party := Party.all.filter d.hasAccepted

/-- **The word of a dispute fits its record.** It is filed and waits for the counterparty; both
have staked, and it is in some round; or it is over. -/
inductive Told (limit : UInt32) (d : Dispute) : List Event → Prop
  | waiting {opening : List Event} (opened : Opening d.footing opening)
      (undecided : d.resolved = false) (unstaked : d.fullyStaked = false) : Told limit d opening
  | negotiating {before round : List Event}
      (rounds : Rounds limit d.footing d.counterCount.toNat before)
      (current : Round d.proposal.isSome d.acceptances round)
      (undecided : d.resolved = false) (staked : d.fullyStaked = true) :
      Told limit d (before ++ round)
  | finished {events completed : List Event} {late : Bool}
      (ended : Ended limit d.footing d.counterCount.toNat d.outcome late events)
      (freed : Freed late d.pendingRelease.isSome completed) (decided : d.resolved = true) :
      Told limit d (events ++ completed)

end Dispute

end Arbitration
