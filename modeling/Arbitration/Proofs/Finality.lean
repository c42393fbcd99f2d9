import Arbitration.Proofs.Turns

/-!
# Resolution is final

A dispute is resolved **once**: one event in the log says so, and it is there exactly if the record
is marked. From then on the record is fixed, but for a release that the registry still owes: asking
for it again can clear that one field, once, and moves no value.

What an operation may do to a record is a latch (`Latches`): an open record stays open or is
marked, and a marked one only ever loses its pending release. The log goes along with it, so the
two never disagree (`Tallies`).
-/

namespace Arbitration

/-! ### What the log says of one dispute -/

namespace EventLog

/-- How many events of a kind the log has for a dispute. -/
def tally (l : EventLog) (kind : Event → Bool) (id : DisputeId) : Nat :=
  (l.ofDispute id).countP fun r => kind r.event

/-- How often the log says that a dispute was resolved. -/
def resolutions (l : EventLog) (id : DisputeId) : Nat := l.tally Event.isResolved id

/-- How often the log says that a pending release was completed. -/
def completions (l : EventLog) (id : DisputeId) : Nat := l.tally Event.isReleaseCompleted id

theorem tally_append (l : EventLog) (kind : Event → Bool) (id other : DisputeId)
    (time : Timestamp) (event : Event) :
    (l.append other time event).tally kind id =
      l.tally kind id + if other = id ∧ kind event = true then 1 else 0 := by
  simp only [tally, ofDispute, append, List.filter_append, List.countP_append]
  congr 1
  by_cases hid : other = id
  · simp [hid, List.countP_cons]
  · simp [hid]

/-- The events of an operation count for the dispute that they are about. -/
theorem tally_extend (kind : Event → Bool) (id : DisputeId) (time : Timestamp)
    {about : DisputeId} {events : List (DisputeId × Event)} (habout : ∀ p ∈ events, p.1 = about)
    (l : EventLog) :
    (l.extend time events).tally kind id =
      l.tally kind id + if about = id then events.countP (fun p => kind p.2) else 0 := by
  induction events generalizing l with
  | nil => simp [extend]
  | cons p rest ih =>
    obtain ⟨hfirst, hrest⟩ := List.forall_mem_cons.1 habout
    rw [extend, List.foldl_cons, hfirst, ← extend, ih hrest, tally_append, List.countP_cons]
    by_cases hid : about = id
    · simp only [hid, if_true, true_and]
      omega
    · simp only [hid, if_false, false_and]

end EventLog

/-- Quiet events count for nothing. -/
theorem Quiet.countP {id : DisputeId} {events : List (DisputeId × Event)} (h : Quiet id events) :
    events.countP (fun p => p.2.isResolved) = 0 ∧
      events.countP (fun p => p.2.isReleaseCompleted) = 0 := by
  constructor
  · exact List.countP_eq_zero.2 fun p hp => by simp [(h p hp).2.1]
  · exact List.countP_eq_zero.2 fun p hp => by simp [(h p hp).2.2]

/-- **A resolution is reported once**, among events that are all about its dispute. -/
theorem Resolves.reports {e : Engine} {d : Dispute} {r : Resolution} {moves : List Move}
    {events : List (DisputeId × Event)} {f : Footprint} (h : Resolves e d r moves events f)
    (hquiet : Quiet d.id events) :
    (∀ p ∈ f.events, p.1 = d.id) ∧ f.events.countP (fun p => p.2.isResolved) = 1 ∧
      f.events.countP (fun p => p.2.isReleaseCompleted) = 0 := by
  cases h with
  | @intro burned freed registry released pending store admitted releases written licensed =>
    have hpending : Quiet d.id pending := releases.forall_mem_pending fun _ => ⟨rfl, rfl, rfl⟩
    have habout : ∀ p ∈ r.report d burned, p.1 = d.id :=
      Resolution.forall_mem_report rfl rfl rfl rfl
    obtain ⟨hresolved, hcompleted⟩ := hquiet.countP
    obtain ⟨hresolved', hcompleted'⟩ := hpending.countP
    refine ⟨fun p hp => ?_, ?_, ?_⟩
    · rcases List.mem_append.1 hp with hp | hp
      · rcases List.mem_append.1 hp with hp | hp
        · exact (hquiet p hp).1
        · exact (hpending p hp).1
      · exact habout p hp
    · rw [List.countP_append, List.countP_append, hresolved, hresolved']
      simp only [Resolution.report, List.countP_append]
      split <;> split <;> split <;> rfl
    · rw [List.countP_append, List.countP_append, hcompleted, hcompleted']
      simp only [Resolution.report, List.countP_append]
      split <;> split <;> split <;> rfl

/-! ### The latch -/

/-- What an operation may do to a record, and how many resolutions and completed releases it then
reports. -/
inductive Latches : Operation → Option Dispute → Nat → Nat → Dispute → Prop
  | stays {op : Operation} {previous : Option Dispute} {next : Dispute}
      (before : ∀ d, previous = some d → d.resolved = false) (after : next.resolved = false) :
      Latches op previous 0 0 next
  | sets {op : Operation} {d next : Dispute} (before : d.resolved = false)
      (after : next.resolved = true) : Latches op (some d) 1 0 next
  | completes {caller : AccountId} {id : DisputeId} {d : Dispute} {release : Release}
      (resolved : d.resolved = true) (pending : d.pendingRelease = some release) :
      Latches (.retryRelease caller id) (some d) 0 1 { d with pendingRelease := none }

/-- A latch does nothing to a resolved record but clear its pending release. -/
theorem Latches.of_resolved {op : Operation} {d next : Dispute} {more extra : Nat}
    (h : Latches op (some d) more extra next) (hresolved : d.resolved = true) :
    (∃ caller id, op = .retryRelease caller id) ∧ d.pendingRelease.isSome = true ∧
      next = { d with pendingRelease := none } ∧ extra = 1 := by
  cases h with
  | stays before after =>
    rw [before d rfl] at hresolved
    cases hresolved
  | sets before after =>
    rw [before] at hresolved
    cases hresolved
  | @completes caller id d release resolved pending =>
    exact ⟨⟨caller, id, rfl⟩, Option.isSome_of_eq_some pending, rfl, rfl⟩

/-- **One step.** The record that an operation is about is latched, no other record is touched,
and every event is about that record. -/
theorem Engine.Treats.latches {e : Engine} {op : Operation} {f : Footprint} (h : e.Treats op f)
    (hsound : e.Sound) :
    ∃ next, (∀ id, f.store.get? id = if op.dispute e = id then some next else e.store.get? id) ∧
      (∀ p ∈ f.events, p.1 = op.dispute e) ∧
      Latches op (e.store.get? (op.dispute e)) (f.events.countP fun p => p.2.isResolved)
        (f.events.countP fun p => p.2.isReleaseCompleted) next := by
  cases h with
  | @advances op f w written same before after quiet =>
    obtain ⟨hresolved, hcompleted⟩ := quiet.countP
    refine ⟨w.record, fun id => ?_, fun p hp => (quiet p hp).1, ?_⟩
    · rw [Store.get?_of_write written, same]
    · rw [hresolved, hcompleted]
      exact .stays before after
  | @decides op f d d' r moves events found opened decided resolves =>
    have hid := hsound.keyed _ d found
    obtain ⟨i, c, rfl⟩ := decided.accepting
    obtain ⟨habout, hresolved, hcompleted⟩ := resolves.reports decided.quiet
    rw [hresolved, hcompleted, found]
    obtain ⟨waiting, hwritten⟩ := resolves.exists_written
    refine ⟨r.mark (d.accepting i c) waiting e.now, fun id => ?_,
      fun p hp => (habout p hp).trans hid, .sets opened rfl⟩
    exact hid ▸ Store.get?_of_write hwritten id
  | @completes caller id f d release found resolved pending written events =>
    have hid : d.id = id := hsound.keyed id d found
    have hdispute : Operation.dispute e (.retryRelease caller id) = id := rfl
    rw [hdispute, events, found]
    refine ⟨_, fun id' => ?_, by simp, .completes resolved pending⟩
    exact hid ▸ Store.get?_of_write written id'

/-! ### The log and the records agree -/

/-- The counts in the log fit a record: one resolution if it is marked and none if it is not, and
no completed release as long as it is open or waits for one. -/
structure Tallies (record : Option Dispute) (resolutions completions : Nat) : Prop where
  resolutions : resolutions = if record.any (·.resolved) then 1 else 0
  completions : (∀ d, record = some d → d.resolved = true → d.pendingRelease.isSome = true) →
    completions = 0

/-- **One step.** The counts go on fitting the record. -/
theorem Latches.tallies {op : Operation} {previous : Option Dispute} {next : Dispute}
    {resolutions completions more extra : Nat} (h : Latches op previous more extra next)
    (hfits : Tallies previous resolutions completions) :
    Tallies (some next) (resolutions + more) (completions + extra) := by
  obtain ⟨hresolutions, hcompletions⟩ := hfits
  cases h with
  | stays before after =>
    have hopen : previous.any (·.resolved) = false := by
      cases previous with
      | none => rfl
      | some d => exact before d rfl
    rw [hopen] at hresolutions
    refine ⟨?_, fun _ => hcompletions fun d hd hresolved => ?_⟩
    · rw [hresolutions, Option.any_some, after]
      rfl
    · rw [before d hd] at hresolved
      cases hresolved
  | @sets op d next before after =>
    rw [Option.any_some, before] at hresolutions
    refine ⟨?_, fun _ => hcompletions fun d' hd hresolved => ?_⟩
    · rw [hresolutions, Option.any_some, after]
      rfl
    · cases hd
      rw [before] at hresolved
      cases hresolved
  | @completes caller id d release resolved pending =>
    refine ⟨hresolutions, fun hwaits => ?_⟩
    -- the record does not wait for a release any more
    have hnone := hwaits _ rfl resolved
    cases hnone

namespace Engine

/-- Whether a dispute is resolved. -/
def isResolved (e : Engine) (id : DisputeId) : Bool := (e.store.get? id).any (·.resolved)

/-- The log fits every record. -/
def Latched (e : Engine) : Prop :=
  ∀ id, Tallies (e.store.get? id) (e.log.resolutions id) (e.log.completions id)

theorem Fresh.latched {e : Engine} (h : e.Fresh) : e.Latched := by
  obtain ⟨-, -, -, -, hstore, hlog⟩ := h.parts
  unfold Latched
  rw [hstore, hlog]
  exact fun id => ⟨rfl, fun _ => rfl⟩

theorem Idle.latched {e e' : Engine} (h : e.Idle e') (hlatched : e.Latched) : e'.Latched := by
  intro id
  rw [h.get?, h.log]
  exact hlatched id

variable {e : Engine} {op : Operation} {answer : Answer} {f : Footprint} {ledger : Ledger}

theorem Latched.having (h : e.Latched) (hsound : e.Sound) (hs : Succeeds e op answer f) :
    (e.having f ledger).Latched := by
  obtain ⟨next, hstore, habout, hlatches⟩ := (hs.treats hsound).latches hsound
  intro id
  show Tallies (f.store.get? id) ((e.log.extend e.now f.events).tally _ id)
    ((e.log.extend e.now f.events).tally _ id)
  rw [hstore, EventLog.tally_extend _ id e.now habout, EventLog.tally_extend _ id e.now habout]
  by_cases hid : op.dispute e = id
  · subst hid
    rw [if_pos rfl, if_pos rfl, if_pos rfl]
    exact hlatches.tallies (h _)
  · rw [if_neg hid, if_neg hid, if_neg hid]
    exact h id

/-! ### A resolved record is settled -/

/-- Since it was resolved as `d`, with so many completed releases reported until then, the record
of a dispute is the same, or has lost its pending release and that has been reported. -/
def Settled (e : Engine) (id : DisputeId) (d : Dispute) (completions : Nat) : Prop :=
  e.store.get? id = some d ∧ e.log.completions id = completions ∨
    d.pendingRelease.isSome = true ∧
      e.store.get? id = some { d with pendingRelease := none } ∧
      e.log.completions id = completions + 1

variable {id : DisputeId} {d : Dispute} {completions : Nat}

theorem Idle.settled {e' : Engine} (h : e.Idle e') (hsettled : e.Settled id d completions) :
    e'.Settled id d completions := by
  rw [Settled, h.get?, h.log]
  exact hsettled

/-- A latch can only clear the pending release of a resolved record. -/
theorem Settled.having (h : e.Settled id d completions) (hresolved : d.resolved = true)
    (hsound : e.Sound) (hs : Succeeds e op answer f) :
    (e.having f ledger).Settled id d completions := by
  obtain ⟨next, hstore, habout, hlatches⟩ := (hs.treats hsound).latches hsound
  have hcompletions : (e.having f ledger).log.completions id = e.log.completions id + _ :=
    EventLog.tally_extend Event.isReleaseCompleted id e.now habout e.log
  have hget : (e.having f ledger).store.get? id = _ := hstore id
  rw [Settled, hget, hcompletions]
  by_cases hid : op.dispute e = id
  · subst hid
    rw [if_pos rfl, if_pos rfl]
    rcases h with ⟨hsame, hcount⟩ | ⟨-, hcleared, -⟩
    · rw [hsame] at hlatches
      obtain ⟨-, hwaits, rfl, hone⟩ := hlatches.of_resolved hresolved
      exact .inr ⟨hwaits, rfl, by rw [hcount, hone]⟩
    · -- what has been cleared cannot be cleared again
      rw [hcleared] at hlatches
      obtain ⟨-, hwaits, -⟩ := hlatches.of_resolved hresolved
      cases hwaits
  · rw [if_neg hid, if_neg hid]
    exact h

end Engine

/-! ### Asking again moves no value -/

theorem Ledger.Moves.eq_of_nil {l l' : Ledger} (h : l.Moves [] l') : l' = l := by
  generalize hms : ([] : List Move) = ms at h
  cases h with
  | nil => rfl
  | snoc _ _ => simp at hms

section NoTransfer

variable {start e : Engine} {issued : Undo → Prop} {journal : List Undo}
  (hnone : ∀ source target amount, ¬ issued (.transfer source target amount))

include hnone

/-- Where no transfer is to be taken back, none was made. -/
theorem Trail.ledger_eq (h : Trail start issued journal e) : e.ledger = start.ledger := by
  induction h with
  | start => rfl
  | effect before may last ih =>
    cases last with
    | transfer done => exact absurd may (hnone _ _ _)
    | freeze first done => exact ih
    | unfreeze first known done => exact ih
    | harassment first done => exact ih
    | record first known same done => exact ih

/-- Taking back what is no transfer makes none either. -/
theorem Trail.ledger_rollback (h : Trail start issued journal e) :
    (journal.foldl Undo.apply e).ledger = start.ledger := by
  refine List.foldlRecOn (motive := fun e' => e'.ledger = start.ledger) journal Undo.apply
    (h.ledger_eq hnone) ?_
  intro e' he' u hu
  have hissued := h.mem_issued u hu
  cases u with
  | transfer source target amount => exact absurd hissued (hnone _ _ _)
  | _ => exact he'

end NoTransfer

/-- **Asking for a release again moves no value**, whether it succeeds or not. -/
theorem Engine.Sound.ledger_retryRelease {e : Engine} (h : e.Sound) (caller : AccountId)
    (id : DisputeId) : (e.perform (.retryRelease caller id)).2.ledger = e.ledger := by
  rcases hdone : e.perform (.retryRelease caller id) with ⟨err | answer, e'⟩
  · obtain ⟨s, -, ⟨htrail, -⟩, rfl⟩ := Engine.perform_error h.keyed hdone
    exact htrail.ledger_rollback fun _ _ _ hissued => hissued
  · obtain ⟨f, ledger, hsucceeds, hmoves, rfl⟩ := Engine.perform_ok h.keyed hdone
    cases hsucceeds with
    | retry admitted freed written => exact hmoves.eq_of_nil

/-! ### Finality -/

/-- An operation that names a resolved dispute fails, unless it asks for the release again. -/
theorem Engine.Sound.fails_or_retries {e : Engine} {id : DisputeId} {d : Dispute} {op : Operation}
    (h : e.Sound) (hget : e.store.get? id = some d) (hresolved : d.resolved = true)
    (hnamed : op.named = some id) :
    (∃ err, (e.perform op).1 = .error err) ∨ ∃ caller, op = .retryRelease caller id := by
  rcases hdone : e.perform op with ⟨err | answer, e'⟩
  · exact .inl ⟨err, rfl⟩
  · obtain ⟨f, ledger, hsucceeds, -, rfl⟩ := Engine.perform_ok h.keyed hdone
    obtain ⟨next, -, -, hlatches⟩ := (hsucceeds.treats h).latches h
    rw [Operation.dispute_of_named hnamed, hget] at hlatches
    obtain ⟨⟨caller, id', rfl⟩, -⟩ := hlatches.of_resolved hresolved
    cases hnamed
    exact .inr ⟨caller, rfl⟩

/-- **Resolution is final.** Stop a clean run anywhere. The log has one resolution of a dispute if
its record is marked, and none if it is not. Once it is marked, every operation that names the
dispute fails or asks for its release again, which moves no value; and however the run goes on,
the record stays as it is, unless it waits for a release: that can be completed, and then this is
all that changes, and the log says so once. -/
theorem resolution_is_final {start : Engine} {first later : List Turn}
    (h : CleanRun start (first ++ later)) (id : DisputeId) :
    (start.run first).log.resolutions id = (if (start.run first).isResolved id then 1 else 0) ∧
      ∀ d, (start.run first).store.get? id = some d → d.resolved = true →
        (∀ op : Operation, op.named = some id →
          (∃ err, ((start.run first).perform op).1 = .error err) ∨
            ∃ caller, op = .retryRelease caller id) ∧
        (∀ caller, ((start.run first).perform (.retryRelease caller id)).2.ledger =
          (start.run first).ledger) ∧
        ((start.run (first ++ later)).store.get? id = some d ∧
            (start.run (first ++ later)).log.completions id =
              (start.run first).log.completions id ∨
          d.pendingRelease.isSome = true ∧
            (start.run (first ++ later)).store.get? id =
              some { d with pendingRelease := none } ∧
            (start.run first).log.completions id = 0 ∧
            (start.run (first ++ later)).log.completions id = 1) := by
  obtain ⟨hfirst, hlater⟩ := h.of_append
  have hsound := hfirst.sound
  have hlatched : (start.run first).Latched :=
    hfirst.fresh.sound.run_induction hfirst.clean hfirst.fresh.latched
      (fun hidle hlatched => hidle.latched hlatched)
      fun hsound hsucceeds _ hlatched => hlatched.having hsound hsucceeds
  refine ⟨(hlatched id).resolutions, fun d hget hresolved => ⟨fun op hnamed => ?_, fun caller => ?_,
    ?_⟩⟩
  · exact hsound.fails_or_retries hget hresolved hnamed
  · exact hsound.ledger_retryRelease caller id
  · have hsettled : (start.run (first ++ later)).Settled id d
        ((start.run first).log.completions id) := by
      rw [Engine.run_append]
      exact hsound.run_induction hlater (.inl ⟨hget, rfl⟩)
        (fun hidle hsettled => hidle.settled hsettled)
        fun hsound hsucceeds _ hsettled => hsettled.having hresolved hsound hsucceeds
    refine hsettled.imp_right fun ⟨hwaited, hcleared, hcount⟩ => ?_
    -- as long as the release was pending, none was completed
    have hzero : (start.run first).log.completions id = 0 := by
      refine (hlatched id).completions fun d' hget' _ => ?_
      rw [hget] at hget'
      cases hget'
      exact hwaited
    exact ⟨hwaited, hcleared, hzero, by rw [hcount, hzero]⟩

namespace Sample

/-- The sample engine, if it may resolve a dispute before the asset is released. -/
def lenient : Engine := engineUnder { Config.default with unfreezePolicy := .bestEffort }

/-- Bob stays silent, and the dispute is enforced while the registry refuses releases. -/
def unreleased : List Turn :=
  silence ++ [.switch { registry := { unfreeze := true } }, .call (.enforce bob .first)]

/-- The registry is back, and Alice asks for the release again. -/
def released : List Turn := [.switch {}, .call (.retryRelease alice .first)]

end Sample

/-- A dispute that was resolved while the registry refused releases has its one resolution in the
log, and the release that follows clears the pending one and changes nothing else. -/
theorem late_release_is_all_that_changes :
    CleanRun Sample.lenient (Sample.unreleased ++ Sample.released) ∧
      (Sample.lenient.run Sample.unreleased).log.resolutions .first = 1 ∧
      ∃ d, (Sample.lenient.run Sample.unreleased).store.get? .first = some d ∧
        (Sample.lenient.run (Sample.unreleased ++ Sample.released)).store.get? .first =
          some { d with pendingRelease := none } ∧
        (Sample.lenient.run (Sample.unreleased ++ Sample.released)).log.completions .first = 1 := by
  have hclean : CleanRun Sample.lenient (Sample.unreleased ++ Sample.released) :=
    ⟨Sample.engineUnder_fresh rfl, by decide +kernel⟩
  have hmarked : (Sample.lenient.run Sample.unreleased).isResolved .first = true := by
    decide +kernel
  obtain ⟨d, hget, hresolved⟩ := (Option.any_eq_true _ _).1 hmarked
  obtain ⟨honce, hfixed⟩ := resolution_is_final hclean .first
  obtain ⟨-, -, hsettled⟩ := hfixed d hget hresolved
  rw [hmarked] at honce
  refine ⟨hclean, honce, d, hget, ?_⟩
  rcases hsettled with ⟨-, hcount⟩ | ⟨-, hcleared, -, hcount⟩
  · exact absurd hcount (by decide +kernel)
  · exact ⟨hcleared, hcount⟩

end Arbitration
