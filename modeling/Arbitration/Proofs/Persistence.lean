import Arbitration.Proofs.Consent
import Arbitration.Proofs.Recording

/-!
# Whatever is recorded can be read back

In every state of every run each record in the store and each event in the log is read back from
what is written for it (`records_read_back`). The run may be any: parts may fail at any time, and
compensations may be refused. What matters is what comes in from outside, which is a name with a
filing and a time with a clock reading (`Turn.Legible`): no operation makes up a name, and a
deadline is an instant some seconds after another one.

That a record is legible is kept by each step (`Engine.Legible.step`): a successful operation writes
one legible record and tells legible events (`Succeeds.legible`), and a failed one leaves the store
and the log as they were.
-/

namespace Arbitration

/-! ### Parts -/

/-- What holds of the records in a log and of those that are added holds of all. -/
theorem EventLog.forall_mem_extend {P : EventRecord → Prop} {l : EventLog} {time : Timestamp}
    {events : List (DisputeId × Event)} (hold : ∀ r ∈ l.records, P r)
    (hnew : ∀ p ∈ events, ∀ sequence, P ⟨sequence, p.1, time, p.2⟩) :
    ∀ r ∈ (l.extend time events).records, P r := by
  induction events generalizing l with
  | nil => exact hold
  | cons p rest ih =>
    obtain ⟨hfirst, hrest⟩ := List.forall_mem_cons.1 hnew
    refine ih (l := l.append p.1 time p.2) ?_ hrest
    exact List.forall_mem_append.2 ⟨hold, List.forall_mem_singleton.2 (hfirst _)⟩

namespace Dispute.Legible

variable {d : Dispute} {config : Config} {t : Timestamp}

theorem stakeDeadline (h : d.Legible) (hdated : d.stakeDeadline config = .ok t) : t.Regular :=
  h.startTime.addSeconds hdated

theorem resolutionDeadline (h : d.Legible) (hdated : d.resolutionDeadline config = .ok t) :
    t.Regular :=
  h.startTime.addSeconds hdated

/-- A party has a name that can be referred to. -/
theorem of_partyOf {caller : AccountId} {p : Party} (h : d.Legible)
    (hparty : d.partyOf caller = some p) : caller.Admitted := by
  rw [account_of_partyOf hparty]
  cases p with
  | initiator => exact h.initiator
  | counterparty => exact h.counterparty

end Dispute.Legible

/-! ### What comes in -/

/-- An account that can be named: one of the protocol, or one whose name a record may refer to. -/
def AccountId.Known (a : AccountId) : Prop := a.isSystem = true ∨ a.Admitted

/-- The clock shows an instant of the calendar, and filings are between accounts that can be
named. -/
def Turn.Legible : Turn → Prop
  | .call (.initiate caller r) => caller.Known ∧ r.counterparty.Known
  | .call _ | .switch _ => True
  | .clock now => now.Regular

namespace Engine

/-- All that is recorded can be read back, and so can the time of day. -/
structure Legible (e : Engine) : Prop where
  keyed : e.store.Keyed
  now : e.now.Regular
  records : ∀ id d, e.store.get? id = some d → d.Legible
  log : ∀ r ∈ e.log.records, r.Legible

/-- A successful operation writes a legible record and tells legible events. -/
structure Records (e : Engine) (f : Footprint) : Prop where
  written : ∃ w, e.store.write w = .ok f.store ∧ w.record.Legible
  events : ∀ p ∈ f.events, p.2.Legible

end Engine

/-! ### Every operation -/

/-- A resolution tells of nobody but the initiator, and dates the record. -/
theorem Resolves.legible {e : Engine} {d : Dispute} {r : Resolution} {moves : List Move}
    {events : List (DisputeId × Event)} {f : Footprint} (h : Resolves e d r moves events f)
    (hd : d.Legible) (hnow : e.now.Regular) (hbefore : ∀ p ∈ events, p.2.Legible) :
    e.Records f := by
  obtain ⟨waiting, hwritten⟩ := h.exists_written
  refine ⟨⟨_, hwritten, { hd with resolvedAt := fun t ht => ?_ }⟩, ?_⟩
  · cases ht
    exact hnow
  · cases h with
    | intro admitted releases written licensed =>
      simp only [List.forall_mem_append]
      exact ⟨⟨hbefore, releases.forall_mem_pending fun _ => trivial⟩,
        Resolution.forall_mem_report trivial hd.initiator trivial trivial⟩

/-- **Every successful operation** writes a legible record and tells legible events. -/
theorem Succeeds.legible {e : Engine} {op : Operation} {answer : Answer} {f : Footprint}
    (hs : Succeeds e op answer f) (h : e.Legible) (hturn : (Turn.call op).Legible) :
    e.Records f := by
  cases hs with
  | @initiate caller r stake earmarked escalated treasury registry store deadline admitted
      setAside counted frozen dated written =>
    obtain ⟨-, hcaller, hother, -⟩ := Engine.admitFiling_eq_ok_iff.1 admitted
    obtain ⟨hcallerKnown, hotherKnown⟩ := hturn
    have hadmitted : caller.Admitted := hcallerKnown.resolve_left (Bool.eq_false_iff.1 hcaller)
    have hd : (e.filed caller r stake escalated earmarked).Legible := {
      initiator := hadmitted
      counterparty := hotherKnown.resolve_left (Bool.eq_false_iff.1 hother)
      createdAt := h.now
      startTime := h.now
      submittedAt := fun p hp => absurd hp (Option.not_mem_none p)
      resolvedAt := fun t ht => absurd ht (Option.not_mem_none t) }
    exact ⟨⟨_, written, hd⟩, List.forall_mem_cons.2
      ⟨⟨hd.initiator, hd.counterparty, hd.stakeDeadline dated⟩,
        List.forall_mem_singleton.2 hadmitted⟩⟩
  | @deposit caller id dep total store admitted added written =>
    obtain ⟨hget, -, -, -, -, hdated, -⟩ := Engine.admitDeposit_eq_ok_iff.1 admitted
    have hd := h.records id _ hget
    refine ⟨⟨_, written, { hd with }⟩, List.forall_mem_cons.2 ⟨hd.counterparty,
      List.forall_mem_singleton.2 (hd.resolutionDeadline hdated)⟩⟩
  | @grantSubsidy caller id d amount store admitted written =>
    obtain ⟨hget, -⟩ := Engine.admitSubsidy_eq_ok_iff.1 admitted
    have hd := h.records id _ hget
    exact ⟨⟨_, written, { hd with }⟩, List.forall_mem_singleton.2 hd.counterparty⟩
  | @submit caller id p d store admitted written =>
    obtain ⟨-, hget, -⟩ := Engine.admitProposal_eq_ok_iff.1 admitted
    have hd := h.records id _ hget
    refine ⟨⟨_, written, { hd with submittedAt := fun q hq => ?_ }⟩,
      List.forall_mem_singleton.2 trivial⟩
    cases hq
    exact h.now
  | @accept caller id a store admitted one written =>
    obtain ⟨hget, -⟩ := Engine.admitAcceptance_eq_ok_iff.1 admitted
    obtain ⟨i, c, haccept⟩ := a.record.accept_eq a.party
    rw [haccept] at written
    have hd := h.records id _ hget
    exact ⟨⟨_, written, { hd with }⟩, List.forall_mem_singleton.2 trivial⟩
  | @agree caller id a f admitted both resolves =>
    obtain ⟨hget, -⟩ := Engine.admitAcceptance_eq_ok_iff.1 admitted
    obtain ⟨i, c, haccept⟩ := a.record.accept_eq a.party
    rw [haccept] at resolves
    have hd := h.records id _ hget
    exact resolves.legible { hd with } h.now (List.forall_mem_singleton.2 trivial)
  | @counter caller id r c routed next deadline store admitted routes opened dated written =>
    obtain ⟨hget, -, hparty, -⟩ := Engine.admitCounter_eq_ok_iff.1 admitted
    obtain ⟨startTime, hstart, -, -, rfl⟩ := Dispute.counterRound_eq_ok_iff.1 opened
    have hd := h.records id _ hget
    have hstart := hd.startTime.addSeconds hstart
    refine ⟨⟨_, written, { hd with startTime := hstart, submittedAt := fun p hp => ?_ }⟩,
      List.forall_mem_cons.2 ⟨hd.of_partyOf hparty,
        List.forall_mem_singleton.2 (hstart.addSeconds dated)⟩⟩
    cases hp
  | @lapse caller source id d draw skipped f admitted draws resolves =>
    obtain ⟨hget, -⟩ := Engine.admitEnforcement_eq_silent_iff.1 admitted
    exact resolves.legible (h.records id _ hget) h.now
      (draws.forall_mem_events trivial fun _ _ => trivial)
  | @deadlock caller id d settlement f admitted resolves =>
    obtain ⟨hget, -⟩ := Engine.admitEnforcement_eq_deadlocked_iff.1 admitted
    exact resolves.legible (h.records id _ hget) h.now (List.forall_mem_nil _)
  | @retry caller id d release registry store admitted freed written =>
    obtain ⟨hget, -⟩ := Engine.admitRetry_eq_ok_iff.1 admitted
    have hd := h.records id _ hget
    exact ⟨⟨_, written, { hd with }⟩, List.forall_mem_singleton.2 trivial⟩

/-! ### Every turn -/

namespace Engine

variable {e e' : Engine} {op : Operation}

theorem Legible.having {f : Footprint} (h : e.Legible) (hrecords : e.Records f)
    (ledger : Ledger) : (e.having f ledger).Legible := by
  obtain ⟨w, hwritten, hlegible⟩ := hrecords.written
  exact ⟨Store.keyed_of_write h.keyed hwritten, h.now,
    Store.forall_get?_of_write hwritten hlegible h.records,
    EventLog.forall_mem_extend h.log fun p hp _ => ⟨h.now, hrecords.events p hp⟩⟩

/-- A failed operation records nothing, whatever was refused on the way back. -/
theorem Legible.of_error {err : DisputeError} (h : e.Legible)
    (hfailed : e.perform op = (.error err, e')) : e'.Legible := by
  have hstore := store_of_error h.keyed hfailed
  have haligned := aligned_of_error h.keyed hfailed
  exact ⟨hstore ▸ h.keyed, haligned.now ▸ h.now, hstore ▸ h.records, haligned.log ▸ h.log⟩

/-- **One step**, whatever is refused in it. -/
theorem Legible.step (h : e.Legible) {s : Turn} (hs : s.Legible) : (e.step s).Legible := by
  cases s with
  | clock now => exact { h with now := hs }
  | switch switches => exact { h with }
  | call op =>
    show (e.perform op).2.Legible
    rcases hdone : e.perform op with ⟨err | answer, e'⟩
    · exact h.of_error hdone
    · obtain ⟨f, ledger, hsucceeds, -, rfl⟩ := perform_ok h.keyed hdone
      exact h.having (hsucceeds.legible h hs) ledger

/-- **Every run** keeps it. -/
theorem Legible.run {turns : List Turn} (h : e.Legible) (hturns : ∀ s ∈ turns, s.Legible) :
    (e.run turns).Legible :=
  List.foldlRecOn (motive := Engine.Legible) turns Engine.step h
    fun _ hlegible s hs => hlegible.step (hturns s hs)

/-- Where nothing is recorded yet there is only the clock to be read back. -/
theorem legible_of_empty (hstore : e.store = {}) (hlog : e.log = {}) (hnow : e.now.Regular) :
    e.Legible := by
  refine ⟨fun id d hget => ?_, hnow, fun id d hget => ?_, fun r hr => ?_⟩
  · rw [hstore] at hget
    cases hget
  · rw [hstore] at hget
    cases hget
  · rw [hlog] at hr
    cases hr

end Engine

/-- **Records read back.** Let an engine with an empty store and an empty log run in any way, with
parts that fail and compensations that are refused, as long as clocks show instants of the calendar
and filings are between accounts that can be named. Then the text that is written for a dispute in
its store is read back as that dispute, and the text that is written for an event in its log, whose
place fits the field for it, is read back as that event in that place. -/
theorem records_read_back {start : Engine} {turns : List Turn} (hstore : start.store = {})
    (hlog : start.log = {}) (hnow : start.now.Regular) (hturns : ∀ s ∈ turns, s.Legible) :
    (∀ id d, (start.run turns).store.get? id = some d →
      (Json.parse (toJson d).text).bind ofJson? = some d) ∧
    ∀ r ∈ (start.run turns).log.records, r.sequence < UInt64.size →
      (Json.parse (toJson r).text).bind ofJson? = some r := by
  have hlegible := (Engine.legible_of_empty hstore hlog hnow).run hturns
  exact ⟨fun id d hget => (hlegible.records id d hget).kept.parse_text,
    fun r hr hsequence => ((hlegible.log r hr).kept hsequence).parse_text⟩

namespace Sample

/-- Half a second into a leap second, at the end of a day in March of the year -44. -/
def longAgo : Timestamp := (Timestamp.ofParts? (-63549360001) 1500000000).get (by decide)

/-- A filing whose terms are a text with quotes, a backslash and a line break. -/
def quotedFiling : InitiateRequest :=
  { filing with fallback := .nonExclusive "\"terms\" \\ 1\n" 3600 300 }

/-- Alice files it at that time. -/
def quoting : List Turn := [.clock longAgo, .call (.initiate alice quotedFiling)]

end Sample

/-- What is recorded of a filing with such terms at such a time is read back: the dispute, and both
events in the log. -/
theorem quoted_filing_reads_back :
    Sample.engine.store = {} ∧ Sample.engine.log = {} ∧ Sample.engine.now.Regular ∧
      (∀ s ∈ Sample.quoting, s.Legible) ∧
      (∃ d, (Sample.engine.run Sample.quoting).store.get? .first = some d ∧
        d.createdAt = Sample.longAgo ∧ (Json.parse (toJson d).text).bind ofJson? = some d) ∧
      (Sample.engine.run Sample.quoting).log.size = 2 ∧
      ∀ r ∈ (Sample.engine.run Sample.quoting).log.records,
        (Json.parse (toJson r).text).bind ofJson? = some r := by
  have hnow : Sample.engine.now.Regular := by decide
  have hturns : ∀ s ∈ Sample.quoting, s.Legible := by
    refine List.forall_mem_cons.2 ⟨?_, List.forall_mem_singleton.2 ⟨.inr ?_, .inr ?_⟩⟩
    · show Sample.longAgo.Regular
      decide +kernel
    · decide +kernel
    · decide +kernel
  obtain ⟨hrecords, hlog⟩ := records_read_back rfl rfl hnow hturns
  have hfiled : ((Sample.engine.run Sample.quoting).store.get? .first).any
      (·.createdAt = Sample.longAgo) = true := by
    decide +kernel
  have hplaces : ∀ r ∈ (Sample.engine.run Sample.quoting).log.records,
      r.sequence < UInt64.size := by
    decide +kernel
  obtain ⟨d, hget, hd⟩ := (Option.any_eq_true _ _).1 hfiled
  exact ⟨rfl, rfl, hnow, hturns, ⟨d, hget, of_decide_eq_true hd, hrecords _ d hget⟩,
    by decide +kernel, fun r hr => hlog r hr (hplaces r hr)⟩

end Arbitration
