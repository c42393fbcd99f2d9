import Arbitration.Proofs.Evolution
import Arbitration.Proofs.Payments
import Arbitration.Proofs.Protocol

/-!
# Accounts that only fill

Nothing ever leaves the burn sink or the fee pool: neither pays for anything (`Engine.Drain`). So
what they hold can be **read off** the records and the log. The sink holds the fees of all rounds,
which double from one round of a dispute to the next and add up to a geometric series, and what the
settlements burn. The pool holds what was offered for rounds beyond their fees.
-/

namespace Arbitration

/-! ### What a dispute has burned -/

namespace Dispute

/-- The fees of all rounds so far. -/
def fees (base : Amount) (d : Dispute) : Nat := base.toNat * (Nat.pow 2 d.counterCount.toNat - 1)

/-- What the settlement burns: the burned share and the rest of the division. -/
def burnt (d : Dispute) : Nat := (d.settlement.map fun s => s.burned.toNat + s.dust.toNat).getD 0

/-- All that a dispute has sent to the sink. -/
def sunk (base : Amount) (d : Dispute) : Nat := d.fees base + if d.resolved then d.burnt else 0

variable {base : Amount} {d : Dispute}

theorem sunk_of_open (h : d.resolved = false) : d.sunk base = d.fees base := by
  rw [sunk, h, if_neg Bool.false_ne_true, Nat.add_zero]

theorem sunk_mark (r : Resolution) (waiting : Option Release) (now : Timestamp) :
    (r.mark d waiting now).sunk base =
      d.fees base + (r.settlement.burned.toNat + r.settlement.dust.toNat) := rfl

end Dispute

/-- The fee of a round is the base fee, doubled once for each round before. -/
theorem Policy.toNat_counterFee {base fee : Amount} {round limit : UInt32}
    (h : counterFee base round limit = .ok fee) :
    fee.toNat = base.toNat * Nat.pow 2 round.toNat := by
  unfold counterFee at h
  split at h
  · cases h
  · split at h
    · cases h
    · rename_i hround
      have hsmall : round < 64 := UInt32.not_le.1 hround
      have hpow : Nat.pow 2 round.toNat < UInt64.size :=
        Nat.pow_lt_pow_right (by decide) (UInt32.lt_iff_toNat_lt.1 hsmall)
      split at h
      · rename_i fee' hfee
        cases h
        rw [Amount.checked_eq_ok_iff.1 hfee, UInt64.toNat_ofNat_of_lt' hpow]
      · cases h

/-- Another round adds its fee to the series. -/
theorem Dispute.fees_counterRound {base fee : Amount} {d next : Dispute} {limit : UInt32}
    {evidence : ContentDigest} {extension : UInt64}
    (hfee : Policy.counterFee base d.counterCount limit = .ok fee)
    (h : d.counterRound evidence extension = .ok next) :
    next.fees base = d.fees base + fee.toNat := by
  obtain ⟨startTime, -, -, hcount, rfl⟩ := counterRound_eq_ok_iff.1 h
  have hpos : 1 ≤ Nat.pow 2 d.counterCount.toNat := Nat.one_le_two_pow
  have hdouble : Nat.pow 2 (d.counterCount.toNat + 1) = Nat.pow 2 d.counterCount.toNat * 2 :=
    Nat.pow_succ ..
  show base.toNat * (Nat.pow 2 (UInt32.ofNat (d.counterCount.toNat + 1)).toNat - 1) = _
  rw [UInt32.toNat_ofNat_of_lt' hcount, Policy.toNat_counterFee hfee, fees, ← Nat.mul_add, hdouble]
  exact congrArg _ (by omega)

/-! ### What the log says of the pool -/

/-- What went to the fee pool. -/
def Event.routed : Event → Nat
  | feeBurned _ _ routed => routed.toNat
  | _ => 0

namespace EventLog

/-- A quantity of all events together. -/
def total (g : Event → Nat) (l : EventLog) : Nat := sumOf (fun r => g r.event) l.records

theorem total_extend (g : Event → Nat) (time : Timestamp) (l : EventLog)
    (events : List (DisputeId × Event)) :
    (l.extend time events).total g = l.total g + sumOf (fun p => g p.2) events := by
  obtain ⟨new, hrecords, hnew⟩ := l.exists_extend time events
  rw [total, hrecords, sumOf_append, ← hnew, sumOf_map]
  rfl

end EventLog

/-! ### No money leaves -/

/-- One of the protocol's accounts out of which nothing is paid. -/
structure Engine.Drain (e : Engine) (a : AccountId) : Prop where
  system : a.isSystem = true
  pots : ∀ p : Pot, p.account e.accounts ≠ a
  reserve : e.treasury.reserve ≠ a

namespace Engine

variable {e : Engine} {a : AccountId}

theorem Standard.drain_burnSink (h : e.Standard) : e.Drain e.accounts.burnSink where
  system := by
    rw [h.accounts]
    exact AccountId.isSystem_system _
  pots p := (h.burnSink_ne p).symm
  reserve := by
    rw [h.accounts, h.reserve]
    simp [SystemAccounts.default, AccountId.system]

theorem Standard.drain_feePool (h : e.Standard) : e.Drain e.accounts.feePool where
  system := by
    rw [h.accounts]
    exact AccountId.isSystem_system _
  pots p := (h.feePool_ne p).symm
  reserve := by
    rw [h.accounts, h.reserve]
    simp [SystemAccounts.default, AccountId.system]

theorem Standard.burnSink_ne_feePool (h : e.Standard) :
    e.accounts.burnSink ≠ e.accounts.feePool := by
  rw [h.accounts]
  simp [SystemAccounts.default, AccountId.system]

/-- A drain is the account of no party. -/
theorem Drain.party_ne (h : e.Drain a) {b : AccountId} (hb : b.isSystem = false) : b ≠ a := by
  rintro rfl
  rw [h.system] at hb
  cases hb

end Engine

section Drains

variable {e : Engine} {a : AccountId} {f : Footprint}

/-- Where no move has the account as its source, nothing is taken from it. -/
theorem taken_eq_zero {ms : List Move} (h : ∀ m ∈ ms, m.source ≠ a) : taken a ms = 0 :=
  sumOf_eq_zero fun m hm => if_neg (h m hm)

theorem Resolves.source_ne {d : Dispute} {r : Resolution} {moves : List Move}
    {events : List (DisputeId × Event)} (h : Resolves e d r moves events f) (ha : e.Drain a)
    (hbefore : ∀ m ∈ moves, m.source ≠ a) : ∀ m ∈ f.moves, m.source ≠ a := by
  obtain ⟨burned, -, hmoves⟩ := h.exists_moves
  rw [hmoves, List.forall_mem_append]
  refine ⟨hbefore, fun m hm => ?_⟩
  obtain ⟨p, hp⟩ := Resolution.source_of_mem_moves hm
  exact hp ▸ ha.pots p

/-- **One operation.** No move goes out of a drain. -/
theorem Succeeds.source_ne {op : Operation} {answer : Answer} (hs : Succeeds e op answer f)
    (h : e.Sound) (ha : e.Drain a) : ∀ m ∈ f.moves, m.source ≠ a := by
  have hfund : e.accounts.defenseFund ≠ a := ha.pots .defenseFund
  cases hs with
  | initiate admitted setAside counted frozen dated written =>
    obtain ⟨-, hcaller, -⟩ := Engine.admitFiling_eq_ok_iff.1 admitted
    exact List.forall_mem_cons.2 ⟨ha.party_ne hcaller, List.forall_mem_singleton.2 ha.reserve⟩
  | deposit admitted added written =>
    obtain ⟨hget, -⟩ := Engine.admitDeposit_eq_ok_iff.1 admitted
    have hparty := ha.party_ne (h.records _ _ hget).counterparty
    exact List.forall_mem_cons.2 ⟨hparty, List.forall_mem_singleton.2 hfund⟩
  | grantSubsidy admitted written => exact List.forall_mem_singleton.2 ha.reserve
  | submit admitted written => exact List.forall_mem_nil _
  | accept admitted one written => exact List.forall_mem_nil _
  | agree admitted both resolves => exact resolves.source_ne ha (List.forall_mem_nil _)
  | counter admitted routes opened dated written =>
    obtain ⟨hget, -, hparty, -⟩ := Engine.admitCounter_eq_ok_iff.1 admitted
    have hcaller := ha.party_ne ((h.records _ _ hget).isSystem_of_partyOf hparty)
    exact List.forall_mem_cons.2 ⟨hcaller, List.forall_mem_singleton.2 hcaller⟩
  | lapse admitted draws resolves =>
    refine resolves.source_ne ha (List.forall_mem_cons.2 ⟨hfund, List.forall_mem_singleton.2 ?_⟩)
    rcases draws.source with ⟨-, rfl⟩ | ⟨-, rfl, -⟩
    · exact ha.reserve
    · exact ha.pots .incentiveEarmark
  | deadlock admitted resolves => exact resolves.source_ne ha (List.forall_mem_nil _)
  | retry admitted freed written => exact List.forall_mem_nil _

end Drains

/-! ### What comes in -/

/-- What a successful operation gives to the two accounts: the sink gets what the record that it
writes has sent there beyond the one before, and the pool gets what the events say. -/
structure Engine.Fills (e : Engine) (f : Footprint) : Prop where
  sink : ∃ w, e.store.write w = .ok f.store ∧
    given e.accounts.burnSink f.moves +
      ((e.store.get? w.record.id).map (Dispute.sunk e.config.counterBaseFee)).getD 0 =
        w.record.sunk e.config.counterBaseFee
  pool : given e.accounts.feePool f.moves = sumOf (fun p => p.2.routed) f.events

section Inflow

variable {e : Engine} {f : Footprint} {a : AccountId}

/-- Where no move has the account as its target, nothing is given to it. -/
theorem given_eq_zero {ms : List Move} (h : ∀ m ∈ ms, m.target ≠ a) : given a ms = 0 :=
  sumOf_eq_zero fun m hm => if_neg (h m hm)

/-- Operations that move value into pots only, and tell of no fee. -/
theorem Engine.Fills.of_pots {w : StoreWrite} (hs : e.Standard)
    (hwritten : e.store.write w = .ok f.store)
    (hsunk : ((e.store.get? w.record.id).map (Dispute.sunk e.config.counterBaseFee)).getD 0 =
      w.record.sunk e.config.counterBaseFee)
    (hpots : ∀ m ∈ f.moves, ∃ p : Pot, m.target = p.account e.accounts)
    (hevents : ∀ p ∈ f.events, p.2.routed = 0) : e.Fills f := by
  have hgiven : ∀ a, e.Drain a → given a f.moves = 0 := fun a ha =>
    given_eq_zero fun m hm => by
      obtain ⟨p, hp⟩ := hpots m hm
      exact hp ▸ ha.pots p
  refine ⟨⟨w, hwritten, ?_⟩, ?_⟩
  · rw [hgiven _ hs.drain_burnSink, Nat.zero_add, hsunk]
  · rw [hgiven _ hs.drain_feePool, sumOf_eq_zero hevents]

/-- The same, over a known record. -/
theorem Engine.Sound.fills {w : StoreWrite} {d : Dispute} (h : e.Sound) {id : DisputeId}
    (hget : e.store.get? id = some d) (hid : w.record.id = d.id)
    (hwritten : e.store.write w = .ok f.store)
    (hsunk : w.record.sunk e.config.counterBaseFee = d.sunk e.config.counterBaseFee)
    (hpots : ∀ m ∈ f.moves, ∃ p : Pot, m.target = p.account e.accounts)
    (hevents : ∀ p ∈ f.events, p.2.routed = 0) : e.Fills f := by
  refine .of_pots h.standard hwritten ?_ hpots hevents
  rw [hid, h.keyed id d hget, hget, hsunk]
  rfl

/-- A resolution gives the sink what it burns, and no other drain anything. -/
theorem Resolution.given_moves {d : Dispute} {r : Resolution} {burned : Amount}
    (ha : e.Drain a) (hi : d.initiator.isSystem = false) (hc : d.counterparty.isSystem = false) :
    given a (r.moves e d burned) = if e.accounts.burnSink = a then burned.toNat else 0 := by
  simp only [moves, payouts, List.cons_append, List.nil_append, given_cons, given_nil,
    if_neg (ha.party_ne hi), if_neg (ha.party_ne hc), if_neg ha.reserve, Nat.zero_add, Nat.add_zero]

theorem Resolves.fills {id : DisputeId} {d : Dispute} {i c : Bool} {r : Resolution}
    {moves : List Move} {events : List (DisputeId × Event)}
    (hresolves : Resolves e (d.accepting i c) r moves events f) (h : e.Sound)
    (hget : e.store.get? id = some d) (hopen : d.resolved = false)
    (hmoves : ∀ a, e.Drain a → given a moves = 0) (hevents : ∀ p ∈ events, p.2.routed = 0) :
    e.Fills f := by
  have hsink := h.standard.drain_burnSink
  have hpool := h.standard.drain_feePool
  have hd := h.records id d hget
  cases hresolves with
  | @intro burned freed registry released pending store admitted releases written licensed =>
    obtain ⟨total, -, -, hburned⟩ := Resolution.toBurn_eq_ok_iff.1 admitted
    have hburned := Amount.add_eq_ok_iff.1 hburned
    have hgiven : ∀ a, e.Drain a → given a (r.moves e (d.accepting i c) burned) =
        if e.accounts.burnSink = a then burned.toNat else 0 := fun a ha =>
      Resolution.given_moves ha hd.initiator hd.counterparty
    refine ⟨⟨_, written, ?_⟩, ?_⟩
    · obtain ⟨-, -, waiting, rfl⟩ := releases.frame
      show given _ (moves ++ r.moves e (d.accepting i c) burned) +
        ((e.store.get? d.id).map (Dispute.sunk e.config.counterBaseFee)).getD 0 =
          (r.mark (d.accepting i c) waiting e.now).sunk e.config.counterBaseFee
      rw [given_append, hmoves _ hsink, hgiven _ hsink, if_pos rfl, h.keyed id d hget, hget,
        Option.map_some, Option.getD_some, Dispute.sunk_of_open hopen, Dispute.sunk_mark]
      show 0 + burned.toNat + d.fees e.config.counterBaseFee =
        d.fees e.config.counterBaseFee + (r.settlement.burned.toNat + r.settlement.dust.toNat)
      omega
    · have hpending : ∀ p ∈ pending, p.2.routed = 0 := releases.forall_mem_pending fun _ => rfl
      have hreport : ∀ p ∈ r.report (d.accepting i c) burned, p.2.routed = 0 :=
        Resolution.forall_mem_report rfl rfl rfl rfl
      show given _ (moves ++ r.moves e (d.accepting i c) burned) = _
      rw [given_append, hmoves _ hpool, hgiven _ hpool, if_neg h.standard.burnSink_ne_feePool,
        sumOf_append, sumOf_append, sumOf_eq_zero hevents, sumOf_eq_zero hpending,
        sumOf_eq_zero hreport]

/-- **One operation.** The sink is given the fee of a round or what a settlement burns, and the
pool the rest of an offer. -/
theorem Succeeds.fills {op : Operation} {answer : Answer} (hs : Succeeds e op answer f)
    (h : e.Sound) : e.Fills f := by
  cases hs with
  | @initiate caller r stake earmarked escalated treasury registry store deadline admitted setAside
      counted frozen dated written =>
    have hnone : e.store.get? (e.filed caller r stake escalated earmarked).id = none :=
      h.get?_nextId
    refine .of_pots h.standard written ?_ ?_ ?_
    · rw [hnone]
      show 0 = e.config.counterBaseFee.toNat * (1 - 1) + 0
      rw [Nat.sub_self, Nat.mul_zero]
    · exact List.forall_mem_cons.2 ⟨⟨.escrow, rfl⟩,
        List.forall_mem_singleton.2 ⟨.incentiveEarmark, rfl⟩⟩
    · exact List.forall_mem_cons.2 ⟨rfl, List.forall_mem_singleton.2 rfl⟩
  | @deposit caller id dep total store admitted added written =>
    obtain ⟨hget, -⟩ := Engine.admitDeposit_eq_ok_iff.1 admitted
    refine h.fills hget rfl written rfl ?_ ?_
    · exact List.forall_mem_cons.2 ⟨⟨.escrow, rfl⟩, List.forall_mem_singleton.2 ⟨.escrow, rfl⟩⟩
    · exact List.forall_mem_cons.2 ⟨rfl, List.forall_mem_singleton.2 rfl⟩
  | @grantSubsidy caller id d amount store admitted written =>
    obtain ⟨hget, -⟩ := Engine.admitSubsidy_eq_ok_iff.1 admitted
    exact h.fills hget rfl written rfl (List.forall_mem_singleton.2 ⟨.defenseFund, rfl⟩)
      (List.forall_mem_singleton.2 rfl)
  | @submit caller id p d store admitted written =>
    obtain ⟨-, hget, -⟩ := Engine.admitProposal_eq_ok_iff.1 admitted
    exact h.fills hget rfl written rfl (List.forall_mem_nil _) (List.forall_mem_singleton.2 rfl)
  | @accept caller id a store admitted one written =>
    obtain ⟨hget, -⟩ := Engine.admitAcceptance_eq_ok_iff.1 admitted
    obtain ⟨i, c, haccept⟩ := a.record.accept_eq a.party
    rw [haccept] at written
    exact h.fills hget rfl written rfl (List.forall_mem_nil _) (List.forall_mem_singleton.2 rfl)
  | @agree caller id a f admitted both resolves =>
    obtain ⟨hget, hopen, -⟩ := Engine.admitAcceptance_eq_ok_iff.1 admitted
    obtain ⟨i, c, haccept⟩ := a.record.accept_eq a.party
    rw [haccept] at resolves
    exact resolves.fills h hget hopen (fun _ _ => rfl) (List.forall_mem_singleton.2 rfl)
  | @counter caller id r c routed next deadline store admitted routes opened dated written =>
    obtain ⟨hget, hopen, hparty, -, -, hfee, -⟩ := Engine.admitCounter_eq_ok_iff.1 admitted
    have hfees := Dispute.fees_counterRound hfee opened
    have hevolves := Dispute.evolves_counterRound opened
    have hopen' : next.resolved = false := by
      obtain ⟨startTime, -, -, -, rfl⟩ := Dispute.counterRound_eq_ok_iff.1 opened
      exact hopen
    refine ⟨⟨_, written, ?_⟩, ?_⟩
    · show given _ _ + ((e.store.get? next.id).map _).getD 0 = next.sunk _
      rw [hevolves.id, h.keyed id _ hget, hget, Option.map_some, Option.getD_some,
        Dispute.sunk_of_open hopen, Dispute.sunk_of_open hopen', hfees, given_cons, given_cons,
        given_nil, if_pos rfl, if_neg h.standard.burnSink_ne_feePool.symm]
      exact Nat.add_comm _ _
    · rw [given_cons, given_cons, given_nil, if_neg h.standard.burnSink_ne_feePool, if_pos rfl]
      exact Nat.zero_add _
  | @lapse caller source id d draw skipped f admitted draws resolves =>
    obtain ⟨hget, hopen, -⟩ := Engine.admitEnforcement_eq_silent_iff.1 admitted
    refine Resolves.fills (i := d.initiatorAccepted) (c := d.counterpartyAccepted) resolves h hget
      hopen (fun a ha => ?_) (draws.forall_mem_events rfl fun _ _ => rfl)
    -- the subsidy goes back to the reserve, and the incentive to the initiator
    have hparty := ha.party_ne (h.records id d hget).initiator
    exact given_eq_zero (List.forall_mem_cons.2 ⟨ha.reserve, List.forall_mem_singleton.2 hparty⟩)
  | @deadlock caller id d settlement f admitted resolves =>
    obtain ⟨hget, hopen, -⟩ := Engine.admitEnforcement_eq_deadlocked_iff.1 admitted
    exact Resolves.fills (i := d.initiatorAccepted) (c := d.counterpartyAccepted) resolves h hget
      hopen (fun _ _ => rfl) (List.forall_mem_nil _)
  | @retry caller id d release registry store admitted freed written =>
    obtain ⟨hget, -⟩ := Engine.admitRetry_eq_ok_iff.1 admitted
    exact h.fills hget rfl written rfl (List.forall_mem_nil _) (List.forall_mem_singleton.2 rfl)

end Inflow

/-! ### Every run -/

/-- The sink and the pool hold what they held at the start, and what came in since. -/
structure Engine.Filled (start e : Engine) : Prop where
  config : e.config = start.config
  accounts : e.accounts = start.accounts
  sink : (e.ledger.balance start.accounts.burnSink).toNat =
    (start.ledger.balance start.accounts.burnSink).toNat +
      e.store.total (Dispute.sunk start.config.counterBaseFee)
  pool : (e.ledger.balance start.accounts.feePool).toNat =
    (start.ledger.balance start.accounts.feePool).toNat + e.log.total Event.routed

namespace Engine

variable {start e e' : Engine}

theorem Fresh.filled (h : start.Fresh) : start.Filled start := by
  obtain ⟨-, -, -, -, hstore, hlog⟩ := h.parts
  refine ⟨rfl, rfl, ?_, ?_⟩
  · rw [hstore]
    rfl
  · rw [hlog]
    rfl

theorem Idle.filled (h : e.Idle e') (hfilled : start.Filled e) : start.Filled e' := by
  refine ⟨h.config.trans hfilled.config, h.accounts.trans hfilled.accounts, ?_, ?_⟩
  · rw [h.balance, Store.total, Store.toList, h.records]
    exact hfilled.sink
  · rw [h.balance, h.log]
    exact hfilled.pool

/-- **One step.** What the records and the log say grows by what the two accounts are given. -/
theorem Filled.having {op : Operation} {answer : Answer} {f : Footprint} {ledger : Ledger}
    (h : start.Filled e) (hsound : e.Sound) (hs : Succeeds e op answer f)
    (hmoves : e.ledger.Moves f.moves ledger) : start.Filled (e.having f ledger) := by
  obtain ⟨⟨w, hwritten, hsunk⟩, hrouted⟩ := hs.fills hsound
  have hsink := taken_eq_zero (hs.source_ne hsound hsound.standard.drain_burnSink)
  have hpool := taken_eq_zero (hs.source_ne hsound hsound.standard.drain_feePool)
  rw [h.accounts] at hsink hpool hrouted
  rw [h.accounts, h.config] at hsunk
  refine ⟨h.config, h.accounts, ?_, ?_⟩
  · have hledger := hmoves.balance start.accounts.burnSink
    have hstore := Store.total_of_write (Dispute.sunk start.config.counterBaseFee) hwritten
    have hbefore := h.sink
    show (ledger.balance _).toNat = _ + f.store.total _
    omega
  · have hledger := hmoves.balance start.accounts.feePool
    have hbefore := h.pool
    show (ledger.balance _).toNat = _ + (e.log.extend e.now f.events).total _
    rw [EventLog.total_extend]
    omega

end Engine

theorem CleanRun.filled {start : Engine} {turns : List Turn} (h : CleanRun start turns) :
    start.Filled (start.run turns) :=
  h.fresh.sound.run_induction h.clean h.fresh.filled (fun hidle hfilled => hidle.filled hfilled)
    fun hsound hsucceeds hmoves hfilled => hfilled.having hsound hsucceeds hmoves

/-- What all disputes have sent to the sink: the fees of all, and what the resolved ones burned. -/
theorem Store.total_sunk (s : Store) (base : Amount) :
    s.total (Dispute.sunk base) =
      s.total (Dispute.fees base) + sumOf Dispute.burnt (s.toList.filter (·.resolved)) := by
  rw [sumOf_filter, total, total]
  induction s.toList with
  | nil => rfl
  | cons d l ih =>
    simp only [sumOf_cons, ih, Dispute.sunk]
    omega

/-- **Burn accounting.** In every state of every clean run the burn sink holds what it held at the
start, the fees of all rounds of all disputes, and what the settlements of the resolved ones burned,
rests of divisions included. The fee pool holds what it held at the start and what the log says was
routed to it. An operation that succeeds moves nothing out of the sink, so it never holds less than
before. -/
theorem burn_accounting {start : Engine} {turns : List Turn} (h : CleanRun start turns) :
    ((start.run turns).ledger.balance start.accounts.burnSink).toNat =
        (start.ledger.balance start.accounts.burnSink).toNat +
          sumOf (fun d => start.config.counterBaseFee.toNat * (Nat.pow 2 d.counterCount.toNat - 1))
            (start.run turns).store.toList +
          sumOf Dispute.burnt ((start.run turns).store.toList.filter (·.resolved)) ∧
      ((start.run turns).ledger.balance start.accounts.feePool).toNat =
        (start.ledger.balance start.accounts.feePool).toNat +
          sumOf (fun r => r.event.routed) (start.run turns).log.records ∧
      ∀ op answer e', (start.run turns).perform op = (.ok answer, e') →
        (start.run turns).ledger.balance start.accounts.burnSink ≤
            e'.ledger.balance start.accounts.burnSink ∧
          ∃ f, Succeeds (start.run turns) op answer f ∧
            (start.run turns).ledger.Moves f.moves e'.ledger ∧
            ∀ m ∈ f.moves, m.source ≠ start.accounts.burnSink := by
  have hsound := h.sound
  have hfilled := h.filled
  refine ⟨?_, hfilled.pool, fun op answer e' hdone => ?_⟩
  · rw [hfilled.sink, Store.total_sunk, ← Nat.add_assoc]
    rfl
  · obtain ⟨f, ledger, hsucceeds, hmoves, rfl⟩ := Engine.perform_ok hsound.keyed hdone
    have hsource := hsucceeds.source_ne hsound hsound.standard.drain_burnSink
    rw [hfilled.accounts] at hsource
    refine ⟨?_, f, hsucceeds, hmoves, hsource⟩
    have hbalance := hmoves.balance start.accounts.burnSink
    rw [taken_eq_zero hsource] at hbalance
    show ((start.run turns).ledger.balance _).toNat ≤ (ledger.balance _).toNat
    omega

namespace Sample

/-- An engine that routes what is offered beyond a fee to the pool. -/
def routing : Engine := engineUnder { Config.default with routeExcessFeeToPool := true }

/-- Thirty days into the year. -/
def endOfMonth : Timestamp := (Timestamp.ofEpoch? 1769817600).get (by decide)

/-- Bob opens a round for fifteen and Alice another one for twenty. No proposal is ever made, and
the month goes by. -/
def disputed : List Turn := staking ++
  [.call (.counter bob .first ⟨filing.evidence, ⟨15⟩⟩),
    .call (.counter alice .first ⟨filing.evidence, ⟨20⟩⟩), .clock endOfMonth,
    .call (.enforce alice .first)]

end Sample

/-- The fees of ten and twenty are in the sink and half of the stakes of two hundred, and the five
that Bob offered too much are in the pool. -/
theorem deadlock_after_two_rounds :
    CleanRun Sample.routing Sample.disputed ∧
      ((Sample.routing.run Sample.disputed).ledger.balance
        Sample.routing.accounts.burnSink).toNat = 30 + 100 ∧
      ((Sample.routing.run Sample.disputed).ledger.balance
        Sample.routing.accounts.feePool).toNat = 5 := by
  have hclean : CleanRun Sample.routing Sample.disputed :=
    ⟨Sample.engineUnder_fresh rfl, by decide +kernel⟩
  obtain ⟨hsink, hpool, -⟩ := burn_accounting hclean
  have hfees : sumOf (fun d => Sample.routing.config.counterBaseFee.toNat *
      (Nat.pow 2 d.counterCount.toNat - 1))
        (Sample.routing.run Sample.disputed).store.toList = 30 := by decide +kernel
  have hburnt : sumOf Dispute.burnt
      ((Sample.routing.run Sample.disputed).store.toList.filter (·.resolved)) = 100 := by
    decide +kernel
  have hrouted : sumOf (fun r => r.event.routed) (Sample.routing.run Sample.disputed).log.records =
      5 := by decide +kernel
  rw [hfees, hburnt] at hsink
  rw [hrouted] at hpool
  exact ⟨hclean, hsink, hpool⟩

end Arbitration
