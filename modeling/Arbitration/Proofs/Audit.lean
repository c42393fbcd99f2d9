import Arbitration.Proofs.Burning
import Arbitration.Proofs.Chronicle

/-!
# The log accounts for all money

Value is moved by other steps of an operation than those that tell of it. A stake is told in full
where a subsidy pays for a part, an incentive is moved before the resolution and told with it, a
move of nothing is not made, and an operation that fails moves value back and forth and tells
nothing. Still the log alone says what every party holds.

What an event says that an account paid or got (`Event.debit`, `Event.credit`) depends on the
opening of its dispute: on who plays which role and on what was granted. An event is read in the
word of its dispute, which grows, and the grammar of words says that **no event is read otherwise
later** (`Begins.read_eq`). So what an operation adds to the two sums is what
its own events say, which is what its moves take from the account and give to it.
-/

namespace Arbitration

/-! ### The beginning of a word -/

/-- The account that plays a role. -/
def Footing.account (start : Footing) : Party → AccountId
  | .initiator => start.initiator
  | .counterparty => start.counterparty

/-- Whether an event can come after the opening. Nothing is filed or granted any more, and only the
counterparty stakes, as much as the initiator. -/
def Event.Follows (start : Footing) : Event → Prop
  | disputeCreated .. | subsidyGranted .. | staked .initiator _ _ => False
  | staked .counterparty _ amount => amount = start.stake
  | _ => True

/-- A word that begins with an opening. -/
inductive Begins (start : Footing) : List Event → Prop
  | intro {opening rest : List Event} (opened : Opening start opening)
      (follows : ∀ event ∈ rest, event.Follows start) : Begins start (opening ++ rest)

section Beginning

variable {start : Footing} {limit : UInt32} {word events : List Event}

theorem Begins.append (h : Begins start word) (hmore : ∀ event ∈ events, event.Follows start) :
    Begins start (word ++ events) := by
  cases h with
  | intro opened follows =>
    rw [List.append_assoc]
    exact .intro opened (List.forall_mem_append.2 ⟨follows, hmore⟩)

theorem Opening.begins (h : Opening start word) : Begins start word := by
  have hbegins := Begins.intro h (List.forall_mem_nil _)
  rwa [List.append_nil] at hbegins

theorem Round.follows {proposed : Bool} {accepted : List Party}
    (h : Round proposed accepted events) : ∀ event ∈ events, event.Follows start := by
  cases h with
  | silent => exact List.forall_mem_nil _
  | proposed => exact List.forall_mem_singleton.2 trivial
  | accepted => exact List.forall_mem_cons.2 ⟨trivial, List.forall_mem_singleton.2 trivial⟩

theorem PutOff.follows {late : Bool} (h : PutOff late events) :
    ∀ event ∈ events, event.Follows start := by
  cases h with
  | released => exact List.forall_mem_nil _
  | pending => exact List.forall_mem_singleton.2 trivial

theorem Incentive.follows {skipped paid : List Event} (h : Incentive skipped paid) :
    (∀ event ∈ skipped, event.Follows start) ∧ ∀ event ∈ paid, event.Follows start := by
  cases h with
  | none => exact ⟨List.forall_mem_nil _, List.forall_mem_nil _⟩
  | skipped => exact ⟨List.forall_mem_singleton.2 trivial, List.forall_mem_nil _⟩
  | paid => exact ⟨List.forall_mem_nil _, List.forall_mem_singleton.2 trivial⟩

theorem Burnt.follows (h : Burnt events) : ∀ event ∈ events, event.Follows start := by
  cases h with
  | nothing => exact List.forall_mem_nil _
  | some => exact List.forall_mem_singleton.2 trivial

theorem Freed.follows {late waiting : Bool} (h : Freed late waiting events) :
    ∀ event ∈ events, event.Follows start := by
  cases h with
  | atOnce => exact List.forall_mem_nil _
  | waiting => exact List.forall_mem_nil _
  | completed => exact List.forall_mem_singleton.2 trivial

theorem Rounds.begins {count : Nat} (h : Rounds limit start count word) : Begins start word := by
  induction h with
  | first opened =>
    exact .intro opened (List.forall_mem_cons.2 ⟨rfl, List.forall_mem_singleton.2 trivial⟩)
  | next rounds closed numbered allowed ih =>
    exact (ih.append closed.follows).append
      (List.forall_mem_cons.2 ⟨trivial, List.forall_mem_singleton.2 trivial⟩)

theorem Ended.begins {count : Nat} {outcome : Outcome} {late : Bool}
    (h : Ended limit start count outcome late word) : Begins start word := by
  cases h with
  | lapsed opened back reward release =>
    have hreturned : ∀ event ∈ (if start.subsidy.isZero then []
        else [Event.subsidyReturned start.subsidy]), event.Follows start := by
      split
      · exact List.forall_mem_nil _
      · exact List.forall_mem_singleton.2 trivial
    subst back
    exact ((((opened.begins.append hreturned).append reward.follows.1).append
      release.follows).append reward.follows.2).append
        (List.forall_mem_cons.2 ⟨trivial, List.forall_mem_singleton.2 trivial⟩)
  | agreed rounds one release =>
    refine (((rounds.begins.append one.follows).append ?_).append release.follows).append
      (List.forall_mem_singleton.2 trivial)
    exact List.forall_mem_singleton.2 trivial
  | deadlocked rounds last release loss =>
    exact (((rounds.begins.append last.follows).append release.follows).append
      loss.follows).append (List.forall_mem_cons.2 ⟨trivial, List.forall_mem_singleton.2 trivial⟩)

/-- The word of every dispute begins with an opening. -/
theorem Dispute.Told.begins {d : Dispute} (h : d.Told limit word) : Begins d.footing word := by
  cases h with
  | waiting opened _ _ => exact opened.begins
  | negotiating rounds current _ _ => exact rounds.begins.append current.follows
  | finished ended freed _ => exact ended.begins.append freed.follows

/-- What comes before in such a word is part of the opening, or begins with it. -/
theorem Begins.of_prefix (h : Begins start word) (hbefore : events <+: word) :
    (∃ opening, Opening start opening ∧ events <+: opening) ∨ Begins start events := by
  cases h with
  | @intro opening rest opened follows =>
    rcases List.prefix_or_prefix_of_prefix hbefore (List.prefix_append opening rest) with
      hshort | ⟨middle, rfl⟩
    · exact .inl ⟨opening, opened, hshort⟩
    · have hmiddle : middle <+: rest := (List.prefix_append_right_inj opening).1 hbefore
      exact .inr (.intro opened fun event hevent => follows event (hmiddle.subset hevent))

end Beginning

/-! ### Reading events -/

namespace Event

/-- The account that a filing names for a role. -/
def player (p : Party) : Event → Option AccountId
  | disputeCreated initiator counterparty .. =>
    match p with
    | .initiator => some initiator
    | .counterparty => some counterparty
  | _ => none

/-- The subsidy that is granted. -/
def granted : Event → Nat
  | subsidyGranted _ amount => amount.toNat
  | _ => 0

variable (x : AccountId) (word : List Event)

/-- What an event in the word of a dispute says that an account paid: its stake, which for the
counterparty is less by what was granted, or the fee of a round and what it offered beyond. -/
def debit : Event → Nat
  | staked .initiator account amount => if account = x then amount.toNat else 0
  | staked .counterparty account amount =>
    if account = x then amount.toNat - sumOf granted word else 0
  | feeBurned account amount routed => if account = x then amount.toNat + routed.toNat else 0
  | _ => 0

/-- What it says that the account got: its share of the stakes in the role that the filing names it
for, and the incentive if that is the initiator's. -/
def credit : Event → Nat
  | resolved _ toInitiator toCounterparty _ _ incentive =>
    (if word.findSome? (player .initiator) = some x
      then toInitiator.toNat + incentive.toNat else 0) +
      if word.findSome? (player .counterparty) = some x then toCounterparty.toNat else 0
  | _ => 0

end Event

theorem Opening.read_eq {start : Footing} {opening : List Event} {event : Event} {x : AccountId}
    (h : Opening start opening) (hevent : event ∈ opening) (word word' : List Event) :
    event.debit x word = event.debit x word' ∧ event.credit x word = event.credit x word' := by
  cases h with
  | alone =>
    simp only [List.mem_cons, List.not_mem_nil, or_false] at hevent
    rcases hevent with rfl | rfl <;> exact ⟨rfl, rfl⟩
  | subsidised granted =>
    simp only [List.mem_cons, List.not_mem_nil, or_false] at hevent
    rcases hevent with rfl | rfl | rfl <;> exact ⟨rfl, rfl⟩

namespace Begins

variable {start : Footing} {word before : List Event} {event : Event} {x : AccountId}

theorem findSome?_player (h : Begins start word) (p : Party) :
    word.findSome? (Event.player p) = some (start.account p) := by
  cases h with
  | intro opened follows =>
    cases opened with
    | alone => cases p <;> rfl
    | subsidised granted => cases p <;> rfl

theorem sumOf_granted (h : Begins start word) : sumOf Event.granted word = start.subsidy.toNat := by
  cases h with
  | intro opened follows =>
    have hrest : ∀ event : Event, event.Follows start → event.granted = 0 := by
      intro event hfollows
      cases event with
      | subsidyGranted account amount => exact hfollows.elim
      | _ => rfl
    rw [sumOf_append, sumOf_eq_zero fun event hevent => hrest event (follows event hevent)]
    cases opened with
    | alone => rfl
    | subsidised granted => exact (Nat.zero_add _).trans (Nat.zero_add _)

/-- A stake of the counterparty is as high as the initiator's. -/
theorem stake_eq {account : AccountId} {amount : Amount} (h : Begins start word)
    (hstaked : .staked .counterparty account amount ∈ word) : amount = start.stake := by
  cases h with
  | intro opened follows =>
    rcases List.mem_append.1 hstaked with hopening | hrest
    · cases opened <;> simp at hopening
    · exact follows _ hrest

/-- **No event is read otherwise when the word has grown.** Within the opening there is none that is
read by the word at all, and after it the word says the same as the opening does. -/
theorem read_eq (h : Begins start word) (hbefore : before <+: word) (hevent : event ∈ before) :
    event.debit x word = event.debit x before ∧ event.credit x word = event.credit x before := by
  rcases h.of_prefix hbefore with ⟨opening, opened, hshort⟩ | hbegins
  · exact opened.read_eq (hshort.subset hevent) word before
  · refine ⟨?_, ?_⟩
    · cases event with
      | staked p account amount =>
        cases p with
        | initiator => rfl
        | counterparty => rw [Event.debit, Event.debit, h.sumOf_granted, hbegins.sumOf_granted]
      | _ => rfl
    · cases event with
      | resolved outcome toInitiator toCounterparty burned dust incentive =>
        simp only [Event.credit, h.findSome?_player, hbegins.findSome?_player]
      | _ => rfl

end Begins

/-! ### Reading the log -/

namespace EventLog

/-- A quantity of all events together, each read in the word of its dispute. -/
def totalIn (g : List Event → Event → Nat) (l : EventLog) : Nat :=
  sumOf (fun r => g (l.word r.dispute) r.event) l.records

/-- All that the log says an account paid. -/
def debits (l : EventLog) (x : AccountId) : Nat := l.totalIn (Event.debit x)

/-- All that it says the account got. -/
def credits (l : EventLog) (x : AccountId) : Nat := l.totalIn (Event.credit x)

theorem mem_word {l : EventLog} {r : EventRecord} (h : r ∈ l.records) :
    r.event ∈ l.word r.dispute :=
  List.mem_map_of_mem (List.mem_filter.2 ⟨h, decide_eq_true rfl⟩)

/-- Where no event is read otherwise in the longer word, the new events add what they are read to
say. -/
theorem totalIn_extend {g : List Event → Event → Nat} {about : DisputeId}
    {events : List (DisputeId × Event)} {l : EventLog} (time : Timestamp)
    (habout : ∀ p ∈ events, p.1 = about)
    (hsteady : ∀ event ∈ l.word about,
      g (l.word about ++ events.map (·.2)) event = g (l.word about) event) :
    (l.extend time events).totalIn g =
      l.totalIn g + sumOf (g (l.word about ++ events.map (·.2))) (events.map (·.2)) := by
  obtain ⟨new, hrecords, hnew⟩ := l.exists_extend time events
  have hold : ∀ r ∈ l.records, g ((l.extend time events).word r.dispute) r.event =
      g (l.word r.dispute) r.event := by
    intro r hr
    rw [word_extend habout]
    by_cases hid : about = r.dispute
    · rw [if_pos hid]
      subst hid
      exact hsteady r.event (mem_word hr)
    · rw [if_neg hid, List.append_nil]
  have hadded : ∀ r ∈ new, g ((l.extend time events).word r.dispute) r.event =
      g (l.word about ++ events.map (·.2)) r.event := by
    intro r hr
    have hmem : (r.dispute, r.event) ∈ events := hnew ▸ List.mem_map_of_mem hr
    have hid : r.dispute = about := habout _ hmem
    rw [word_extend habout, hid, if_pos rfl]
  have hevents : events.map (·.2) = new.map (·.event) := by
    rw [← hnew, List.map_map]
    rfl
  rw [totalIn, hrecords, sumOf_append, sumOf_congr hold, sumOf_congr hadded]
  refine congrArg (l.totalIn g + ·) ?_
  rw [hevents, sumOf_map]

end EventLog

/-! ### What an operation tells of an account -/

/-- What is taken from an account and given to it is what the events say, read in the word. -/
structure Footprint.AccountsFor (f : Footprint) (x : AccountId) (word : List Event) : Prop where
  taken : taken x f.moves = sumOf (fun p => p.2.debit x word) f.events
  given : given x f.moves = sumOf (fun p => p.2.credit x word) f.events

section Operations

variable {e : Engine} {op : Operation} {f : Footprint} {x : AccountId} {word : List Event}

/-- Where the account neither pays nor gets anything, the events say neither. -/
theorem Footprint.AccountsFor.of_nothing (htaken : Arbitration.taken x f.moves = 0)
    (hgiven : Arbitration.given x f.moves = 0)
    (hread : ∀ p ∈ f.events, p.2.debit x word = 0 ∧ p.2.credit x word = 0) :
    f.AccountsFor x word where
  taken := by rw [htaken, sumOf_eq_zero fun p hp => (hread p hp).1]
  given := by rw [hgiven, sumOf_eq_zero fun p hp => (hread p hp).2]

/-- What a resolution reports is read as the shares of the two parties and the incentive. -/
theorem Resolution.sumOf_credit_report {r : Resolution} {d : Dispute} {burned : Amount}
    (hword : Begins d.footing word) :
    sumOf (fun p => p.2.credit x word) (r.report d burned) =
      (if d.initiator = x then r.settlement.toInitiator.toNat + r.settlement.incentive.toNat
        else 0) +
      if d.counterparty = x then r.settlement.toCounterparty.toNat else 0 := by
  have hinitiator : word.findSome? (Event.player .initiator) = some d.initiator :=
    hword.findSome?_player .initiator
  have hcounterparty : word.findSome? (Event.player .counterparty) = some d.counterparty :=
    hword.findSome?_player .counterparty
  simp only [report, sumOf_append, apply_ite (sumOf _), sumOf_nil, sumOf_cons, Event.credit,
    ite_self, hinitiator, hcounterparty, Option.some.injEq, Nat.zero_add, Nat.add_zero]

/-- What it pays them is their shares. -/
theorem Resolution.given_moves_of_party {r : Resolution} {d : Dispute} {burned : Amount}
    (hs : e.Standard) (hx : x.isSystem = false) :
    given x (r.moves e d burned) =
      (if d.initiator = x then r.settlement.toInitiator.toNat else 0) +
        if d.counterparty = x then r.settlement.toCounterparty.toNat else 0 := by
  obtain ⟨-, -, -, hsink, -, hreserve⟩ := hs.protocol_ne hx
  simp only [moves, payouts, List.cons_append, List.nil_append, given_cons, given_nil,
    if_neg hsink, if_neg hreserve, Nat.add_zero]

/-- A resolution gives what its events say, if the incentive has been paid before. -/
theorem Resolves.accountsFor {d : Dispute} {i c : Bool} {r : Resolution} {moves : List Move}
    {events : List (DisputeId × Event)}
    (hresolves : Resolves e (d.accepting i c) r moves events f) (hs : e.Standard)
    (hx : x.isSystem = false)
    (hword : ∀ next, f.store.get? d.id = some next → Begins next.footing word)
    (htaken : taken x moves = 0)
    (hgiven : given x moves = if d.initiator = x then r.settlement.incentive.toNat else 0)
    (hread : ∀ p ∈ events, p.2.debit x word = 0 ∧ p.2.credit x word = 0) :
    f.AccountsFor x word := by
  have hnone := hresolves.taken_eq hx hs
  have hbegins : Begins (d.accepting i c).footing word := by
    obtain ⟨waiting, hwritten⟩ := hresolves.exists_written
    exact hword (r.mark (d.accepting i c) waiting e.now)
      ((Store.get?_of_write hwritten d.id).trans (if_pos rfl))
  cases hresolves with
  | @intro burned freed registry released pending store admitted releases written licensed =>
    have hpending : ∀ p ∈ pending, p.2.debit x word = 0 ∧ p.2.credit x word = 0 :=
      releases.forall_mem_pending fun _ => ⟨rfl, rfl⟩
    refine ⟨?_, ?_⟩
    · have hreport : ∀ p ∈ r.report (d.accepting i c) burned, p.2.debit x word = 0 :=
        Resolution.forall_mem_report rfl rfl rfl rfl
      rw [hnone, htaken, sumOf_append, sumOf_append, sumOf_eq_zero fun p hp => (hread p hp).1,
        sumOf_eq_zero fun p hp => (hpending p hp).1, sumOf_eq_zero hreport]
    · have hpaid : given x (r.moves e (d.accepting i c) burned) = _ :=
        Resolution.given_moves_of_party hs hx
      have hreport : sumOf (fun p => p.2.credit x word) (r.report (d.accepting i c) burned) = _ :=
        Resolution.sumOf_credit_report hbegins
      rw [given_append, hgiven, hpaid, sumOf_append, sumOf_append,
        sumOf_eq_zero fun p hp => (hread p hp).2, sumOf_eq_zero fun p hp => (hpending p hp).2,
        hreport]
      show _ + ((if d.initiator = x then _ else 0) + if d.counterparty = x then _ else 0) =
        0 + 0 + ((if d.initiator = x then _ else 0) + if d.counterparty = x then _ else 0)
      split <;> omega

/-- **One operation.** What a party pays and gets is what the events say. -/
theorem Succeeds.accountsFor {answer : Answer} (hs : Succeeds e op answer f) (h : e.Sound)
    (hx : x.isSystem = false)
    (hword : ∀ d, f.store.get? (op.dispute e) = some d → Begins d.footing word) :
    f.AccountsFor x word := by
  obtain ⟨hescrow, hfund, hearmark, hsink, hpool, hreserve⟩ := h.standard.protocol_ne hx
  cases hs with
  | @initiate caller r stake earmarked escalated treasury registry store deadline admitted setAside
      counted frozen dated written =>
    refine ⟨?_, ?_⟩
    · simp only [taken_cons, taken_nil, if_neg hreserve, sumOf_cons, sumOf_nil, Event.debit,
        Nat.zero_add, Nat.add_zero]
    · simp only [given_cons, given_nil, if_neg hescrow, if_neg hearmark]
      rfl
  | @deposit caller id dep total store admitted added written =>
    obtain ⟨hget, -, -, -, -, -, -, hown⟩ := Engine.admitDeposit_eq_ok_iff.1 admitted
    have hshare := Amount.sub_eq_ok_iff.1 hown
    have hstored := (Store.get?_of_write written id).trans (if_pos (h.keyed id _ hget))
    have hbegins := hword _ hstored
    have hgranted : sumOf Event.granted word = dep.record.subsidy.toNat := hbegins.sumOf_granted
    refine ⟨?_, ?_⟩
    · simp only [taken_cons, taken_nil, if_neg hfund, sumOf_cons, sumOf_nil, Event.debit, hgranted]
      split <;> omega
    · simp only [given_cons, given_nil, if_neg hescrow]
      rfl
  | grantSubsidy admitted written =>
    refine .of_nothing ?_ ?_ (List.forall_mem_singleton.2 ⟨rfl, rfl⟩)
    · simp only [taken_cons, taken_nil, if_neg hreserve]
    · simp only [given_cons, given_nil, if_neg hfund]
  | submit admitted written => exact .of_nothing rfl rfl (List.forall_mem_singleton.2 ⟨rfl, rfl⟩)
  | accept admitted one written =>
    exact .of_nothing rfl rfl (List.forall_mem_singleton.2 ⟨rfl, rfl⟩)
  | @agree caller id a f admitted both resolves =>
    obtain ⟨hget, -⟩ := Engine.admitAcceptance_eq_ok_iff.1 admitted
    obtain ⟨i, c, haccept⟩ := a.record.accept_eq a.party
    rw [haccept] at resolves
    refine resolves.accountsFor h.standard hx (h.keyed id _ hget ▸ hword) rfl ?_
      (List.forall_mem_singleton.2 ⟨rfl, rfl⟩)
    exact (ite_self 0).symm
  | @counter caller id r c routed next deadline store admitted routes opened dated written =>
    refine ⟨?_, ?_⟩
    · simp only [taken_cons, taken_nil, sumOf_cons, sumOf_nil, Event.debit]
      split <;> omega
    · simp only [given_cons, given_nil, if_neg hsink, if_neg hpool]
      rfl
  | @lapse caller source id d draw skipped f admitted draws resolves =>
    obtain ⟨hget, -⟩ := Engine.admitEnforcement_eq_silent_iff.1 admitted
    refine Resolves.accountsFor (i := d.initiatorAccepted) (c := d.counterpartyAccepted) resolves
      h.standard hx (h.keyed id d hget ▸ hword) ?_ ?_
      (draws.forall_mem_events ⟨rfl, rfl⟩ fun _ _ => ⟨rfl, rfl⟩)
    · have hsource : source ≠ x := by
        rcases draws.source with ⟨-, rfl⟩ | ⟨-, rfl, -⟩
        · exact hreserve
        · exact hearmark
      simp only [Engine.subsidyReturn, taken_cons, taken_nil, if_neg hfund, if_neg hsource]
    · simp only [Engine.subsidyReturn, given_cons, given_nil, if_neg hreserve, Nat.zero_add,
        Nat.add_zero]
      rfl
  | @deadlock caller id d settlement f admitted resolves =>
    obtain ⟨hget, -, -, -, hsplit⟩ := Engine.admitEnforcement_eq_deadlocked_iff.1 admitted
    have hincentive : (Resolution.deadlock d settlement).settlement.incentive = .zero :=
      Policy.timeoutSplit_incentive hsplit
    refine Resolves.accountsFor (i := d.initiatorAccepted) (c := d.counterpartyAccepted) resolves
      h.standard hx (h.keyed id d hget ▸ hword) rfl ?_ (List.forall_mem_nil _)
    rw [hincentive]
    exact (ite_self 0).symm
  | @retry caller id d release registry store admitted freed written =>
    exact .of_nothing rfl rfl (List.forall_mem_singleton.2 ⟨rfl, rfl⟩)

end Operations

/-! ### Every run -/

/-- An account has what it had at the start and what the log says it got, less what it paid. -/
def Engine.Audited (start e : Engine) (x : AccountId) : Prop :=
  (e.ledger.balance x).toNat + e.log.debits x = (start.ledger.balance x).toNat + e.log.credits x

namespace Engine

variable {start e e' : Engine} {x : AccountId}

theorem Fresh.audited (h : start.Fresh) : start.Audited start x := by
  obtain ⟨-, -, -, -, -, hlog⟩ := h.parts
  rw [Audited, hlog]
  rfl

theorem Idle.audited (h : e.Idle e') (haudited : start.Audited e x) : start.Audited e' x := by
  rw [Audited, h.balance, h.log]
  exact haudited

/-- **One step.** What the log says grows by what is taken and given. -/
theorem Audited.having {op : Operation} {answer : Answer} {f : Footprint} {ledger : Ledger}
    (h : start.Audited e x) (hsound : e.Sound) (hc : e.Chronicled) (hx : x.isSystem = false)
    (hs : Succeeds e op answer f) (hmoves : e.ledger.Moves f.moves ledger) :
    start.Audited (e.having f ledger) x := by
  obtain ⟨w, hwritten, hnumber, habout, htold⟩ := hs.exists_tells hsound hc
  have hbegins := htold.begins
  have hsteady : ∀ event ∈ e.log.word (op.dispute e), _ := fun event hevent =>
    hbegins.read_eq (x := x) (List.prefix_append _ _) hevent
  have hdebits := EventLog.totalIn_extend e.now habout fun event hevent =>
    (hsteady event hevent).1
  have hcredits := EventLog.totalIn_extend e.now habout fun event hevent =>
    (hsteady event hevent).2
  obtain ⟨htaken, hgiven⟩ := hs.accountsFor (x := x) hsound hx fun d hget => by
    rw [Store.get?_of_write hwritten, if_pos hnumber] at hget
    cases hget
    exact hbegins
  have hbalance := hmoves.balance x
  rw [sumOf_map] at hdebits hcredits
  unfold Audited EventLog.debits EventLog.credits at h ⊢
  show (ledger.balance x).toNat + (e.log.extend e.now f.events).totalIn _ =
    _ + (e.log.extend e.now f.events).totalIn _
  omega

end Engine

/-- **The log accounts for all money of the parties.** In every state of every clean run, an account
that is not one of the protocol's has what it had at the start, less what the log says it paid, and
with what the log says it got: it paid its own stake as an initiator, the stake less the subsidy of
the dispute as a counterparty, and the fees of its rounds with what it offered beyond them, and it
got its share of the stakes and, as an initiator, the incentive of each dispute whose filing names
it. A subsidy is never more than the stake of which it pays a part. -/
theorem log_accounts_for_balances {start : Engine} {turns : List Turn} (h : CleanRun start turns)
    {x : AccountId} (hx : x.isSystem = false) :
    ((start.run turns).ledger.balance x).toNat + (start.run turns).log.debits x =
        (start.ledger.balance x).toNat + (start.run turns).log.credits x ∧
      ∀ r ∈ (start.run turns).log.records, ∀ account amount,
        r.event = .staked .counterparty account amount →
          sumOf Event.granted ((start.run turns).log.word r.dispute) ≤ amount.toNat := by
  have hchronicled := h.chronicled
  refine ⟨?_, fun r hr account amount hstaked => ?_⟩
  · refine (h.fresh.sound.run_induction (P := fun e => e.Chronicled ∧ start.Audited e x) h.clean
      ⟨h.fresh.chronicled, h.fresh.audited⟩ ?_ ?_).2
    · exact fun hidle ⟨hc, haudited⟩ => ⟨hidle.chronicled hc, hidle.audited haudited⟩
    · exact fun hsound hsucceeds hmoves ⟨hc, haudited⟩ =>
        ⟨hc.having hsound hsucceeds _, haudited.having hsound hc hx hsucceeds hmoves⟩
  · have hevent : .staked .counterparty account amount ∈ (start.run turns).log.word r.dispute :=
      hstaked ▸ EventLog.mem_word hr
    cases hget : (start.run turns).store.get? r.dispute with
    | none =>
      rw [hchronicled.unknown _ hget] at hevent
      cases hevent
    | some d =>
      have hbegins := (hchronicled.told _ d hget).begins
      rw [hbegins.sumOf_granted, hbegins.stake_eq hevent]
      exact (h.sound.records _ d hget).subsidised

namespace Sample

/-- Bob stakes with a subsidy and offers fifteen for another round. No proposal is ever made. -/
def helped : List Turn := subsidised ++
  [.call (.deposit bob .first), .call (.counter bob .first ⟨filing.evidence, ⟨15⟩⟩),
    .clock endOfMonth, .call (.enforce alice .first)]

end Sample

/-- Of his stake of a hundred Bob pays ninety-five, and all of the fifteen that he offers; when half
of the stakes are burned he gets fifty back, as Alice does. -/
theorem helped_accounts :
    CleanRun Sample.routing Sample.helped ∧ Sample.bob.isSystem = false ∧
      Sample.alice.isSystem = false ∧
      ((Sample.routing.run Sample.helped).ledger.balance Sample.bob).toNat + (95 + 15) =
        (Sample.routing.ledger.balance Sample.bob).toNat + 50 ∧
      ((Sample.routing.run Sample.helped).ledger.balance Sample.alice).toNat + 100 =
        (Sample.routing.ledger.balance Sample.alice).toNat + 50 := by
  have hclean : CleanRun Sample.routing Sample.helped :=
    ⟨Sample.engineUnder_fresh rfl, by decide +kernel⟩
  have hparties : Sample.bob.isSystem = false ∧ Sample.alice.isSystem = false := by decide
  obtain ⟨hbob, -⟩ := log_accounts_for_balances hclean hparties.1
  obtain ⟨halice, -⟩ := log_accounts_for_balances hclean hparties.2
  have hbobs : (Sample.routing.run Sample.helped).log.debits Sample.bob = 95 + 15 ∧
      (Sample.routing.run Sample.helped).log.credits Sample.bob = 50 := by decide +kernel
  have halices : (Sample.routing.run Sample.helped).log.debits Sample.alice = 100 ∧
      (Sample.routing.run Sample.helped).log.credits Sample.alice = 50 := by decide +kernel
  rw [hbobs.1, hbobs.2] at hbob
  rw [halices.1, halices.2] at halice
  exact ⟨hclean, hparties.1, hparties.2, hbob, halice⟩

end Arbitration
