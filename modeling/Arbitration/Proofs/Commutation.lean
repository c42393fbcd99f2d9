import Arbitration.Proofs.Evolution
import Arbitration.Proofs.Failures
import Arbitration.Proofs.Custody

/-!
# The order of operations

Where incentives are earmarked, an operation about a dispute that is filed already looks at little:
the configuration, the clock, the scores, the record of the dispute and its entries in the registry
(`Engine.Alike`). **How full the pots are decides only whether it succeeds**, and not what it then
does: if it succeeds in two engines that are alike for it, it makes the same moves, writes the same
record, leaves the same entries and tells the same events (`Succeeds.congr`).

An operation about one dispute leaves the engine alike for all other disputes. So two operations
about different disputes that succeed in both orders lead to the same end in both. Filings and
proposals are left out: they take the next number and the next nonce, which all disputes share.
-/

namespace Arbitration

/-! ### Operations about a dispute alone -/

namespace Operation

/-- Whether the operation takes nothing that all disputes share but value: it is about a dispute
that is filed already, and no proposal. -/
def isApart : Operation → Bool
  | initiate _ _ | submit _ _ _ => false
  | deposit _ _ | grantSubsidy _ _ | accept _ _ | counter _ _ _ | enforce _ _
  | retryRelease _ _ => true

/-- Such an operation names its dispute. -/
theorem named_eq_dispute {op : Operation} (h : op.isApart = true) (e : Engine) :
    op.named = some (op.dispute e) := by
  cases op with
  | initiate caller r => cases h
  | _ => rfl

end Operation

/-- What an operation about a dispute looks at beside balances is the same in two engines. -/
structure Engine.Alike (e e' : Engine) (id : DisputeId) : Prop where
  config : e'.config = e.config
  accounts : e'.accounts = e.accounts
  treasury : e'.treasury = e.treasury
  now : e'.now = e.now
  record : e'.store.get? id = e.store.get? id
  registry : e.registry.SameAt e'.registry id
  faults : e'.registry.faults = e.registry.faults

/-- Two footprints do the same to a dispute. -/
structure Footprint.Same (f f' : Footprint) (id : DisputeId) : Prop where
  moves : f'.moves = f.moves
  events : f'.events = f.events
  record : f'.store.get? id = f.store.get? id
  registry : f.registry.SameAt f'.registry id

namespace Engine.Alike

variable {e e' : Engine} {id : DisputeId} {caller : AccountId} (h : e.Alike e' id)
include h

theorem openDispute : e'.openDispute id = e.openDispute id := by
  simp only [Engine.openDispute, Engine.dispute, h.record]

theorem stakeDeadlineAhead (d : Dispute) : e'.stakeDeadlineAhead d = e.stakeDeadlineAhead d := by
  simp only [Engine.stakeDeadlineAhead, h.config, h.now]

theorem resolutionDeadlineAhead (d : Dispute) :
    e'.resolutionDeadlineAhead d = e.resolutionDeadlineAhead d := by
  simp only [Engine.resolutionDeadlineAhead, h.config, h.now]

theorem admitDeposit : e'.admitDeposit caller id = e.admitDeposit caller id := by
  simp only [Engine.admitDeposit, h.openDispute, h.stakeDeadlineAhead, h.resolutionDeadlineAhead]

theorem admitAcceptance : e'.admitAcceptance caller id = e.admitAcceptance caller id := by
  simp only [Engine.admitAcceptance, h.openDispute, h.resolutionDeadlineAhead]

theorem admitCounter (r : CounterRequest) :
    e'.admitCounter caller id r = e.admitCounter caller id r := by
  simp only [Engine.admitCounter, h.openDispute, h.resolutionDeadlineAhead, h.config]

theorem admitEnforcement : e'.admitEnforcement id = e.admitEnforcement id := by
  simp only [Engine.admitEnforcement, h.openDispute, h.config, h.now]

theorem admitRetry : e'.admitRetry id = e.admitRetry id := by
  simp only [Engine.admitRetry, Engine.dispute, h.record]

/-- Whether a subsidy is granted depends on the reserve, but not what it comes to. -/
theorem admitSubsidy {d d' : Dispute} {amount amount' : Amount}
    (hdone : e.admitSubsidy caller id = .ok (d, amount))
    (hdone' : e'.admitSubsidy caller id = .ok (d', amount')) : d' = d ∧ amount' = amount := by
  obtain ⟨hget, -, -, -, -, -, hamount, -⟩ := Engine.admitSubsidy_eq_ok_iff.1 hdone
  obtain ⟨hget', -, -, -, -, -, hamount', -⟩ := Engine.admitSubsidy_eq_ok_iff.1 hdone'
  rw [h.record, hget] at hget'
  obtain rfl := Option.some.inj hget'
  rw [h.config, h.treasury, hamount] at hamount'
  exact ⟨rfl, (Except.ok.inj hamount').symm⟩

end Engine.Alike

/-! ### The same in engines that are alike -/

namespace Registry

variable {r r' r₁ r₁' : Registry} {id : DisputeId}

theorem SameAt.symm (h : r.SameAt r' id) : r'.SameAt r id :=
  ⟨h.1.symm, h.2.1.symm, h.2.2.symm⟩

/-- A release is refused by both of two registries, or both then have the same entries. -/
theorem SameAt.unfreeze (h : r.SameAt r' id) (hfaults : r'.faults = r.faults) (release : Release) :
    (∃ err, r.unfreeze id release = .error err ∧ r'.unfreeze id release = .error err) ∨
      ∃ r₁ r₁', r.unfreeze id release = .ok r₁ ∧ r'.unfreeze id release = .ok r₁' ∧
        r₁.SameAt r₁' id := by
  have hfrozen : r'.isFrozen id = r.isFrozen id := congrArg Option.isSome h.1
  simp only [Registry.unfreeze, hfaults, hfrozen]
  cases r.faults.unfreeze with
  | true => exact .inl ⟨_, rfl, rfl⟩
  | false =>
    cases r.isFrozen id with
    | false => exact .inl ⟨_, rfl, rfl⟩
    | true =>
      refine .inr ⟨_, _, rfl, rfl, ?_, ?_, h.2.2⟩
      · rw [Table.get?_erase_self, Table.get?_erase_self]
      · rw [Table.get?_insert_self, Table.get?_insert_self]

theorem SameAt.applyFallback {termsRef : String} (h : r.SameAt r' id)
    (hdone : r.applyFallback id termsRef = .ok r₁)
    (hdone' : r'.applyFallback id termsRef = .ok r₁') : r₁.SameAt r₁' id := by
  obtain ⟨-, -, rfl⟩ := applyFallback_eq_ok_iff.1 hdone
  obtain ⟨-, -, rfl⟩ := applyFallback_eq_ok_iff.1 hdone'
  refine ⟨h.1, h.2.1, ?_⟩
  rw [Table.get?_insert_self, Table.get?_insert_self]

end Registry

section Congruence

variable {e e' : Engine} {d : Dispute}

theorem Engine.Releases.congr {release : Release} {registry registry' : Registry}
    {released released' : Dispute} {pending pending' : List (DisputeId × Event)}
    (h : e.Releases d release registry released pending)
    (h' : e'.Releases d release registry' released' pending') (halike : e.Alike e' d.id) :
    registry.SameAt registry' d.id ∧ released' = released ∧ pending' = pending := by
  rcases halike.registry.unfreeze halike.faults release with
    ⟨err, hrefused, hrefused'⟩ | ⟨freed, freed', hdone, hdone', hsame⟩
  · cases h with
    | now done =>
      rw [hrefused] at done
      cases done
    | later policy refused =>
      cases h' with
      | now done =>
        rw [hrefused'] at done
        cases done
      | later policy' refused' =>
        obtain rfl := Except.error.inj (hrefused.symm.trans refused)
        obtain rfl := Except.error.inj (hrefused'.symm.trans refused')
        exact ⟨halike.registry, rfl, rfl⟩
  · cases h with
    | later policy refused =>
      rw [hdone] at refused
      cases refused
    | now done =>
      cases h' with
      | later policy' refused' =>
        rw [hdone'] at refused'
        cases refused'
      | now done' =>
        obtain rfl := Except.ok.inj (hdone.symm.trans done)
        obtain rfl := Except.ok.inj (hdone'.symm.trans done')
        exact ⟨hsame, rfl, rfl⟩

/-- **Resolutions** of one record in engines that are alike do the same. -/
theorem Resolves.congr {r : Resolution} {moves : List Move} {events : List (DisputeId × Event)}
    {f f' : Footprint} (h : Resolves e d r moves events f) (h' : Resolves e' d r moves events f')
    (halike : e.Alike e' d.id) : f.Same f' d.id := by
  cases h with
  | @intro burned freed registry released pending store admitted releases written licensed =>
    cases h' with
    | @intro burned' freed' registry' released' pending' store' admitted' releases' written'
        licensed' =>
      obtain rfl := Except.ok.inj (admitted.symm.trans admitted')
      obtain ⟨hfreed, rfl, rfl⟩ := releases.congr releases' halike
      obtain ⟨-, -, waiting, hwaiting⟩ := releases.frame
      have hid : (released'.resolve r.outcome r.settlement e.now).id = d.id := by
        rw [hwaiting]
        rfl
      refine ⟨?_, rfl, ?_, ?_⟩
      · show moves ++ r.moves e' d burned = moves ++ r.moves e d burned
        simp only [Resolution.moves, Resolution.payouts, halike.accounts, halike.treasury]
      · show store'.get? d.id = store.get? d.id
        rw [Store.get?_of_write written', Store.get?_of_write written, halike.now]
        exact (if_pos hid).trans (if_pos hid).symm
      · show registry.SameAt registry' d.id
        cases happlies : r.applyFallback with
        | true =>
          rw [happlies, if_pos rfl] at licensed licensed'
          exact hfreed.applyFallback licensed licensed'
        | false =>
          rw [happlies, if_neg Bool.false_ne_true] at licensed licensed'
          rw [licensed, licensed']
          exact hfreed

/-- Where incentives are set aside, what is paid does not depend on how much there is. -/
theorem Engine.Draws.congr {source source' : AccountId} {draw draw' : Amount}
    {skipped skipped' : List (DisputeId × Event)} (h : e.Draws d source draw skipped)
    (h' : e'.Draws d source' draw' skipped') (hconfig : e'.config = e.config)
    (haccounts : e'.accounts = e.accounts) (hpolicy : e.config.reservePolicy = .earmarked) :
    source' = source ∧ draw' = draw ∧ skipped' = skipped := by
  cases h with
  | intro owes returned found =>
    cases h' with
    | intro owes' returned' found' =>
      rw [hconfig] at owes'
      obtain rfl := Except.ok.inj (owes.symm.trans owes')
      simp only [Engine.incentiveSource, hconfig, haccounts, hpolicy, Prod.mk.injEq] at found found'
      obtain ⟨rfl, rfl, rfl⟩ := found
      obtain ⟨rfl, rfl, rfl⟩ := found'
      exact ⟨rfl, rfl, rfl⟩

/-- One record written to two stores. -/
theorem Store.get?_of_same_write {s s' t t' : Store} {w w' : StoreWrite} {id : DisputeId}
    (h : s.write w = .ok t) (h' : s'.write w' = .ok t') (hsame : w'.record = w.record)
    (hid : w.record.id = id) : t'.get? id = t.get? id := by
  rw [get?_of_write h', get?_of_write h, hsame, if_pos hid, if_pos hid]

/-- **The same in both.** An operation about a dispute that succeeds in two engines that are alike
for it does the same in both. -/
theorem Succeeds.congr {op : Operation} {answer answer' : Answer} {f f' : Footprint}
    (hs : Succeeds e op answer f) (hs' : Succeeds e' op answer' f') (hop : op.isApart = true)
    (hk : e.store.Keyed) (hpolicy : e.config.reservePolicy = .earmarked)
    (halike : e.Alike e' (op.dispute e)) : answer' = answer ∧ f.Same f' (op.dispute e) := by
  cases hs with
  | initiate admitted setAside counted frozen dated written => cases hop
  | submit admitted written => cases hop
  | @deposit caller id dep total store admitted added written =>
    have halike : e.Alike e' id := halike
    cases hs' with
    | @deposit _ _ dep' total' store' admitted' added' written' =>
      rw [halike.admitDeposit] at admitted'
      obtain rfl := Except.ok.inj (admitted.symm.trans admitted')
      obtain rfl := Except.ok.inj (added.symm.trans added')
      obtain ⟨hget, -⟩ := Engine.admitDeposit_eq_ok_iff.1 admitted
      have hid : dep.record.id = id := hk id _ hget
      refine ⟨rfl, ?_, rfl, Store.get?_of_same_write written written' rfl hid, halike.registry⟩
      simp only [halike.accounts]
  | @grantSubsidy caller id d amount store admitted written =>
    have halike : e.Alike e' id := halike
    cases hs' with
    | @grantSubsidy _ _ d' amount' store' admitted' written' =>
      obtain ⟨rfl, rfl⟩ := halike.admitSubsidy admitted admitted'
      obtain ⟨hget, -⟩ := Engine.admitSubsidy_eq_ok_iff.1 admitted
      have hid : d'.id = id := hk id _ hget
      refine ⟨rfl, ?_, rfl, Store.get?_of_same_write written written' rfl hid, halike.registry⟩
      simp only [halike.accounts, halike.treasury]
  | @accept caller id a store admitted one written =>
    have halike : e.Alike e' id := halike
    obtain ⟨hget, -⟩ := Engine.admitAcceptance_eq_ok_iff.1 admitted
    have hid : (a.record.accept a.party).id = id :=
      (a.record.accept_id a.party).trans (hk id _ hget)
    cases hs' with
    | @accept _ _ a' store' admitted' one' written' =>
      rw [halike.admitAcceptance] at admitted'
      obtain rfl := Except.ok.inj (admitted.symm.trans admitted')
      exact ⟨rfl, rfl, rfl, Store.get?_of_same_write written written' rfl hid, halike.registry⟩
    | @agree _ _ a' f' admitted' both' resolves' =>
      rw [halike.admitAcceptance] at admitted'
      obtain rfl := Except.ok.inj (admitted.symm.trans admitted')
      rw [one] at both'
      cases both'
  | @agree caller id a f admitted both resolves =>
    have halike : e.Alike e' id := halike
    obtain ⟨hget, -⟩ := Engine.admitAcceptance_eq_ok_iff.1 admitted
    have hid : (a.record.accept a.party).id = id :=
      (a.record.accept_id a.party).trans (hk id _ hget)
    cases hs' with
    | @accept _ _ a' store' admitted' one' written' =>
      rw [halike.admitAcceptance] at admitted'
      obtain rfl := Except.ok.inj (admitted.symm.trans admitted')
      rw [both] at one'
      cases one'
    | @agree _ _ a' f' admitted' both' resolves' =>
      rw [halike.admitAcceptance] at admitted'
      obtain rfl := Except.ok.inj (admitted.symm.trans admitted')
      rw [← hid] at halike
      have hsame := resolves.congr resolves' halike
      rw [hid] at hsame
      exact ⟨rfl, hsame⟩
  | @counter caller id r c routed next deadline store admitted routes opened dated written =>
    have halike : e.Alike e' id := halike
    cases hs' with
    | @counter _ _ _ c' routed' next' deadline' store' admitted' routes' opened' dated' written' =>
      rw [halike.admitCounter] at admitted'
      obtain rfl := Except.ok.inj (admitted.symm.trans admitted')
      rw [Engine.nextRound, halike.config] at opened'
      obtain rfl := Except.ok.inj (opened.symm.trans opened')
      rw [halike.config] at routes' dated'
      obtain rfl := Except.ok.inj (dated.symm.trans dated')
      obtain rfl : routed = routed' := by
        split at routes
        · rename_i hpool
          rw [if_pos hpool] at routes'
          exact Except.ok.inj (routes.symm.trans routes')
        · rename_i hpool
          rw [if_neg hpool] at routes'
          exact routes.trans routes'.symm
      obtain ⟨hget, -⟩ := Engine.admitCounter_eq_ok_iff.1 admitted
      obtain ⟨startTime, -, -, -, rfl⟩ := Dispute.counterRound_eq_ok_iff.1 opened
      have hid : c.record.id = id := hk id _ hget
      refine ⟨rfl, ?_, ?_, Store.get?_of_same_write written written' rfl hid, halike.registry⟩
      · simp only [halike.accounts]
      · simp only [halike.config]
  | @lapse caller source id d draw skipped f admitted draws resolves =>
    have halike : e.Alike e' id := halike
    obtain ⟨hget, -⟩ := Engine.admitEnforcement_eq_silent_iff.1 admitted
    have hid : d.id = id := hk id _ hget
    cases hs' with
    | @lapse _ source' _ d' draw' skipped' f' admitted' draws' resolves' =>
      rw [halike.admitEnforcement] at admitted'
      obtain rfl := Engine.Overdue.silent.inj (Except.ok.inj (admitted.symm.trans admitted'))
      obtain ⟨rfl, rfl, rfl⟩ := draws.congr draws' halike.config halike.accounts hpolicy
      have hreturn : e'.subsidyReturn d = e.subsidyReturn d := by
        simp only [Engine.subsidyReturn, halike.accounts, halike.treasury]
      rw [hreturn] at resolves'
      rw [← hid] at halike
      have hsame := resolves.congr resolves' halike
      rw [hid] at hsame
      exact ⟨rfl, hsame⟩
    | @deadlock _ _ d' settlement' f' admitted' resolves' =>
      rw [halike.admitEnforcement, admitted] at admitted'
      cases admitted'
  | @deadlock caller id d settlement f admitted resolves =>
    have halike : e.Alike e' id := halike
    obtain ⟨hget, -⟩ := Engine.admitEnforcement_eq_deadlocked_iff.1 admitted
    have hid : d.id = id := hk id _ hget
    cases hs' with
    | @lapse _ source' _ d' draw' skipped' f' admitted' draws' resolves' =>
      rw [halike.admitEnforcement, admitted] at admitted'
      cases admitted'
    | @deadlock _ _ d' settlement' f' admitted' resolves' =>
      rw [halike.admitEnforcement, admitted] at admitted'
      cases admitted'
      rw [← hid] at halike
      have hsame := resolves.congr resolves' halike
      rw [hid] at hsame
      exact ⟨rfl, hsame⟩
  | @retry caller id d release registry store admitted freed written =>
    have halike : e.Alike e' id := halike
    cases hs' with
    | @retry _ _ d' release' registry' store' admitted' freed' written' =>
      rw [halike.admitRetry] at admitted'
      cases Except.ok.inj (admitted.symm.trans admitted')
      obtain ⟨hget, -⟩ := Engine.admitRetry_eq_ok_iff.1 admitted
      have hid : d.id = id := hk id _ hget
      refine ⟨rfl, rfl, rfl, Store.get?_of_same_write written written' rfl hid, ?_⟩
      rcases halike.registry.unfreeze halike.faults release with
        ⟨err, hrefused, -⟩ | ⟨freed₁, freed₂, hdone, hdone', hsame⟩
      · rw [hrefused] at freed
        cases freed
      · obtain rfl := Except.ok.inj (hdone.symm.trans freed)
        obtain rfl := Except.ok.inj (hdone'.symm.trans freed')
        exact hsame

end Congruence

/-! ### What an operation leaves for others -/

section Apart

variable {e : Engine} {op : Operation} {answer : Answer} {f : Footprint} {id : DisputeId}

theorem Resolves.treasury_eq {d : Dispute} {r : Resolution} {moves : List Move}
    {events : List (DisputeId × Event)} (h : Resolves e d r moves events f) :
    f.treasury = e.treasury := by
  cases h with
  | intro admitted releases written licensed => rfl

/-- Only filings are counted. -/
theorem Succeeds.treasury_eq (hs : Succeeds e op answer f) (hop : op.isApart = true) :
    f.treasury = e.treasury := by
  cases hs with
  | initiate admitted setAside counted frozen dated written => cases hop
  | agree admitted both resolves => exact resolves.treasury_eq
  | lapse admitted draws resolves => exact resolves.treasury_eq
  | deadlock admitted resolves => exact resolves.treasury_eq
  | _ => rfl

/-- All that such an operation writes is the record of its dispute. -/
theorem Succeeds.exists_replaced (hs : Succeeds e op answer f) (hk : e.store.Keyed)
    (hop : op.isApart = true) : ∃ previous next, e.store.get? (op.dispute e) = some previous ∧
      e.store.write { record := next } = .ok f.store ∧ next.id = op.dispute e := by
  cases hs with
  | initiate admitted setAside counted frozen dated written => cases hop
  | submit admitted written => cases hop
  | deposit admitted added written =>
    obtain ⟨hget, -⟩ := Engine.admitDeposit_eq_ok_iff.1 admitted
    have hid := hk _ _ hget
    exact ⟨_, _, hget, written, hid⟩
  | grantSubsidy admitted written =>
    obtain ⟨hget, -⟩ := Engine.admitSubsidy_eq_ok_iff.1 admitted
    have hid := hk _ _ hget
    exact ⟨_, _, hget, written, hid⟩
  | @accept caller id a store admitted one written =>
    obtain ⟨hget, -⟩ := Engine.admitAcceptance_eq_ok_iff.1 admitted
    exact ⟨_, _, hget, written, (a.record.accept_id a.party).trans (hk _ _ hget)⟩
  | @agree caller id a f admitted both resolves =>
    obtain ⟨hget, -⟩ := Engine.admitAcceptance_eq_ok_iff.1 admitted
    obtain ⟨waiting, hwritten⟩ := resolves.exists_written
    exact ⟨_, _, hget, hwritten, (a.record.accept_id a.party).trans (hk _ _ hget)⟩
  | counter admitted routes opened dated written =>
    obtain ⟨hget, -⟩ := Engine.admitCounter_eq_ok_iff.1 admitted
    obtain ⟨startTime, -, -, -, rfl⟩ := Dispute.counterRound_eq_ok_iff.1 opened
    have hid := hk _ _ hget
    exact ⟨_, _, hget, written, hid⟩
  | lapse admitted draws resolves =>
    obtain ⟨hget, -⟩ := Engine.admitEnforcement_eq_silent_iff.1 admitted
    obtain ⟨waiting, hwritten⟩ := resolves.exists_written
    have hid := hk _ _ hget
    exact ⟨_, _, hget, hwritten, hid⟩
  | deadlock admitted resolves =>
    obtain ⟨hget, -⟩ := Engine.admitEnforcement_eq_deadlocked_iff.1 admitted
    obtain ⟨waiting, hwritten⟩ := resolves.exists_written
    have hid := hk _ _ hget
    exact ⟨_, _, hget, hwritten, hid⟩
  | retry admitted freed written =>
    obtain ⟨hget, -⟩ := Engine.admitRetry_eq_ok_iff.1 admitted
    have hid := hk _ _ hget
    exact ⟨_, _, hget, written, hid⟩

/-- **An operation leaves the engine alike** for all disputes but its own. -/
theorem Succeeds.alike (hs : Succeeds e op answer f) (h : e.Sound) (hop : op.isApart = true)
    (hne : op.dispute e ≠ id) (ledger : Ledger) : e.Alike (e.having f ledger) id where
  config := rfl
  accounts := rfl
  treasury := hs.treasury_eq hop
  now := rfl
  record := ((h.develops_of_succeeds hs ledger).elsewhere id hne).1
  registry := hs.sameAt h hne
  faults := hs.switches.1

end Apart

/-! ### Both orders -/

/-- What is told of a dispute, each event with its time, oldest first. -/
def EventLog.story (l : EventLog) (id : DisputeId) : List (Timestamp × Event) :=
  (l.ofDispute id).map fun r => (r.time, r.event)

namespace EventLog

theorem story_append (l : EventLog) (about : DisputeId) (time : Timestamp) (event : Event)
    (id : DisputeId) : (l.append about time event).story id =
      l.story id ++ if about = id then [(time, event)] else [] := by
  rw [story, ofDispute, append, List.filter_append, List.map_append]
  refine congrArg (l.story id ++ ·) ?_
  by_cases hid : about = id
  · simp only [List.filter_cons, List.filter_nil, hid, decide_true, if_true, List.map_cons,
      List.map_nil]
  · simp only [List.filter_cons, List.filter_nil, hid, decide_false, Bool.false_eq_true, if_false,
      List.map_nil]

/-- The events of an operation go on with the story of the dispute that they are about. -/
theorem story_extend {time : Timestamp} {about : DisputeId} {events : List (DisputeId × Event)}
    (habout : ∀ p ∈ events, p.1 = about) (l : EventLog) (id : DisputeId) :
    (l.extend time events).story id =
      l.story id ++ if about = id then events.map (fun p => (time, p.2)) else [] := by
  induction events generalizing l with
  | nil => rw [List.map_nil, ite_self, List.append_nil]; rfl
  | cons p rest ih =>
    obtain ⟨hfirst, hrest⟩ := List.forall_mem_cons.1 habout
    have hstep : (l.extend time (p :: rest)).story id = _ :=
      ih hrest (l.append p.1 time p.2)
    rw [hstep, story_append, hfirst, List.append_assoc]
    refine congrArg (l.story id ++ ·) ?_
    split
    · rfl
    · rfl

end EventLog

/-- Replacing two records, one after the other, in either order. -/
theorem Store.put_comm {s : Store} {previous next other : Dispute} (hne : next.id ≠ other.id)
    (hget : s.get? next.id = some previous) (nextId : DisputeId) :
    (s.put { record := next } nextId).put { record := other } nextId =
      (s.put { record := other } nextId).put { record := next } nextId := by
  simp only [put, Option.none_or, Table.insert_comm hne next other hget]

/-- What two footprints write of one dispute, where all that they write is its record. -/
theorem Footprint.Same.exists_put {e e' : Engine} {f f' : Footprint} {op : Operation}
    {answer answer' : Answer} (h : f.Same f' (op.dispute e)) (hs : Succeeds e op answer f)
    (hs' : Succeeds e' op answer' f') (hk : e.store.Keyed) (hk' : e'.store.Keyed)
    (hop : op.isApart = true) : ∃ previous next, e.store.get? next.id = some previous ∧
      next.id = op.dispute e ∧ f.store = e.store.put { record := next } e.store.nextId ∧
      f'.store = e'.store.put { record := next } e'.store.nextId := by
  have hdispute : op.dispute e' = op.dispute e :=
    Operation.dispute_of_named (Operation.named_eq_dispute hop e)
  obtain ⟨previous, next, hget, hwritten, hid⟩ := hs.exists_replaced hk hop
  obtain ⟨previous', next', hget', hwritten', hid'⟩ := hs'.exists_replaced hk' hop
  rw [hdispute] at hget' hid'
  -- both records are found under the number of the dispute
  have hrecord := h.record
  rw [Store.get?_of_write hwritten', Store.get?_of_write hwritten, if_pos hid', if_pos hid]
    at hrecord
  obtain rfl := Option.some.inj hrecord
  exact ⟨previous, _, hid ▸ hget, hid, (Store.write_of_get? (by exact hid ▸ hget) hwritten).symm,
    (Store.write_of_get? (by exact hid ▸ hget') hwritten').symm⟩

/-- Two engines that differ at most in what does not count: in which order the registry has its
entries and the log the events of different disputes, and how many transfers and calls there
were. -/
structure Engine.Coincides (e e' : Engine) : Prop where
  config : e'.config = e.config
  accounts : e'.accounts = e.accounts
  now : e'.now = e.now
  balance : ∀ a, e'.ledger.balance a = e.ledger.balance a
  store : e'.store = e.store
  treasury : e'.treasury = e.treasury
  registry : ∀ id, e'.registry.frozen.get? id = e.registry.frozen.get? id ∧
    e'.registry.releaseOf id = e.registry.releaseOf id ∧
    e'.registry.licenseOf id = e.registry.licenseOf id
  log : ∀ id, e'.log.story id = e.log.story id

section Orders

variable {e : Engine} {a b : Operation} {x x' y y' : Answer} {fa fa' fb fb' : Footprint}
  {la lb lab lba : Ledger}

/-- **Both orders**, for operations that have succeeded in both. -/
theorem Engine.Sound.coincides (h : e.Sound) (hpolicy : e.config.reservePolicy = .earmarked)
    (ha : a.isApart = true) (hb : b.isApart = true) (hne : a.dispute e ≠ b.dispute e)
    (hsa : Succeeds e a x fa) (hla : e.ledger.Moves fa.moves la)
    (hsb' : Succeeds (e.having fa la) b y' fb') (hlab : la.Moves fb'.moves lab)
    (hsb : Succeeds e b y fb) (hlb : e.ledger.Moves fb.moves lb)
    (hsa' : Succeeds (e.having fb lb) a x' fa') (hlba : lb.Moves fa'.moves lba) :
    (x' = x ∧ y' = y) ∧
      ((e.having fa la).having fb' lab).Coincides ((e.having fb lb).having fa' lba) := by
  -- the second operation finds what it would have found as the first one
  have hdispute : ∀ {op : Operation}, op.isApart = true → ∀ e' : Engine,
      op.dispute e' = op.dispute e := fun hop e' =>
    Operation.dispute_of_named (Operation.named_eq_dispute hop e)
  obtain ⟨hy, hsameb⟩ := hsb.congr hsb' hb h.keyed hpolicy (hsa.alike h ha hne la)
  obtain ⟨hx, hsamea⟩ := hsa.congr hsa' ha h.keyed hpolicy (hsb.alike h hb hne.symm lb)
  obtain ⟨wa, hadva⟩ := hsa.advance h
  obtain ⟨wb, hadvb⟩ := hsb.advance h
  have hea : (e.having fa la).Sound := h.having hla hadva
  have heb : (e.having fb lb).Sound := h.having hlb hadvb
  refine ⟨⟨hx, hy⟩, rfl, rfl, rfl, fun account => ?_, ?_, ?_, fun id => ?_, fun id => ?_⟩
  · -- balances: both orders make the same moves
    have hfirst := hla.balance account
    have hthen := hlab.balance account
    have hsecond := hlb.balance account
    have hlast := hlba.balance account
    rw [hsameb.moves] at hthen
    rw [hsamea.moves] at hlast
    refine Amount.toNat_inj.1 ?_
    show (lba.balance account).toNat = (lab.balance account).toNat
    omega
  · -- records: each order replaces the same two
    obtain ⟨previous, next, hget, hid, hfa, hfa'⟩ :=
      hsamea.exists_put hsa hsa' h.keyed heb.keyed ha
    obtain ⟨-, other, -, hid', hfb, hfb'⟩ := hsameb.exists_put hsb hsb' h.keyed hea.keyed hb
    have hother : next.id ≠ other.id := by
      rw [hid, hid']
      exact hne
    show fa'.store = fb'.store
    rw [hfa', hfb']
    show fb.store.put _ fb.store.nextId = fa.store.put _ fa.store.nextId
    rw [hfb, hfa]
    exact (Store.put_comm hother hget e.store.nextId).symm
  · exact (hsa'.treasury_eq ha).trans ((hsb.treasury_eq hb).trans
      ((hsb'.treasury_eq hb).trans (hsa.treasury_eq ha)).symm)
  · -- entries of the registry: those of each dispute are left by its own operation
    have hleft : ∀ id, b.dispute e ≠ id → fa.registry.SameAt fb'.registry id := fun id hid =>
      hsb'.sameAt hea (hdispute hb _ ▸ hid)
    have hright : ∀ id, a.dispute e ≠ id → fb.registry.SameAt fa'.registry id := fun id hid =>
      hsa'.sameAt heb (hdispute ha _ ▸ hid)
    show fb'.registry.SameAt fa'.registry id
    by_cases hida : a.dispute e = id
    · subst hida
      exact (hleft _ hne.symm).symm.trans hsamea.registry
    · by_cases hidb : b.dispute e = id
      · subst hidb
        exact hsameb.registry.symm.trans (hright _ hida)
      · exact (hleft id hidb).symm.trans ((hsa.sameAt h hida).symm.trans
          ((hsb.sameAt h hidb).trans (hright id hida)))
  · -- the log: each order tells of each dispute once
    have hstory : ∀ {e' : Engine} {op : Operation} {answer : Answer} {f : Footprint}
        (ledger : Ledger), e'.Sound → Succeeds e' op answer f → op.isApart = true →
          (e'.having f ledger).log.story id = e'.log.story id ++
            if op.dispute e = id then f.events.map (fun p => (e'.now, p.2)) else [] :=
      fun ledger hsound hs hop =>
        hdispute hop _ ▸ EventLog.story_extend (hs.about hsound) _ id
    rw [hstory lba heb hsa' ha, hstory lb h hsb hb, hstory lab hea hsb' hb, hstory la h hsa ha,
      hsamea.events, hsameb.events]
    by_cases hida : a.dispute e = id
    · have hidb : b.dispute e ≠ id := fun hidb => hne (hida.trans hidb.symm)
      rw [if_pos hida, if_pos hida, if_neg hidb, if_neg hidb, List.append_nil, List.append_nil]
      rfl
    · rw [if_neg hida, if_neg hida, List.append_nil, List.append_nil]
      rfl

end Orders

/-- **Order does not matter.** Let incentives be earmarked, and stop a clean run anywhere. Let two
operations name different disputes, each a deposit, a subsidy, an acceptance, another round, an
enforcement or a repeated release, called by anybody with anything. If both succeed in the one
order, and both succeed in the other, each is answered the same in both, and both orders lead to
the same balances, records, times of filing, nonce and next number, scores and entries of the
registry, and tell the same of every dispute. -/
theorem operations_commute {start e₁ e₁₂ e₂ e₂₁ : Engine} {turns : List Turn} {a b : Operation}
    {x x' y y' : Answer} (h : CleanRun start turns)
    (hpolicy : start.config.reservePolicy = .earmarked) (ha : a.isApart = true)
    (hb : b.isApart = true) (hne : a.named ≠ b.named)
    (hfirst : (start.run turns).perform a = (.ok x, e₁)) (hthen : e₁.perform b = (.ok y', e₁₂))
    (hsecond : (start.run turns).perform b = (.ok y, e₂)) (hlast : e₂.perform a = (.ok x', e₂₁)) :
    (x' = x ∧ y' = y) ∧ e₁₂.Coincides e₂₁ := by
  have hsound := h.sound
  rw [← h.fresh.sound.config_run h.clean] at hpolicy
  rw [Operation.named_eq_dispute ha (start.run turns),
    Operation.named_eq_dispute hb (start.run turns)] at hne
  obtain ⟨fa, la, hsa, hla, rfl⟩ := Engine.perform_ok hsound.keyed hfirst
  obtain ⟨fb, lb, hsb, hlb, rfl⟩ := Engine.perform_ok hsound.keyed hsecond
  obtain ⟨wa, hadva⟩ := hsa.advance hsound
  obtain ⟨wb, hadvb⟩ := hsb.advance hsound
  obtain ⟨fb', lab, hsb', hlab, rfl⟩ := Engine.perform_ok (hsound.having hla hadva).keyed hthen
  obtain ⟨fa', lba, hsa', hlba, rfl⟩ := Engine.perform_ok (hsound.having hlb hadvb).keyed hlast
  exact hsound.coincides hpolicy ha hb (fun hsame => hne (congrArg some hsame)) hsa hla hsb' hlab
    hsb hlb hsa' hlba

namespace Sample

/-- Alice files against Bob and Bob against Alice, and both let their time pass. -/
def standoff : List Turn :=
  [.call (.initiate alice filing), .call (.initiate bob returnFiling), .clock windowClosed]

/-- The engine then. -/
def stalled : Engine := earmarking.run standoff

/-- The engine after one of the two disputes has been ended. -/
def afterEnding (id : DisputeId) : Engine := (stalled.perform (.enforce alice id)).2

/-- The engine after the other one has been ended too. -/
def afterBoth (first last : DisputeId) : Engine :=
  ((afterEnding first).perform (.enforce alice last)).2

end Sample

/-- Both disputes end by silence, and both incentives come out of one account; whichever is ended
first, Alice and Bob are left with the same. -/
theorem standoff_ends_alike :
    CleanRun Sample.earmarking Sample.standoff ∧
      (Sample.afterBoth .first ⟨2⟩).Coincides (Sample.afterBoth ⟨2⟩ .first) ∧
      ((Sample.afterBoth ⟨2⟩ .first).ledger.balance Sample.alice).toNat = 1010 := by
  have hclean : CleanRun Sample.earmarking Sample.standoff :=
    ⟨Sample.engineUnder_fresh rfl, by decide +kernel⟩
  have hfirst : (Sample.stalled.perform (.enforce Sample.alice .first)).1 =
      .ok (.ended .defaultLicenseApplied) := rfl
  have hthen : ((Sample.afterEnding .first).perform (.enforce Sample.alice ⟨2⟩)).1 =
      .ok (.ended .defaultLicenseApplied) := rfl
  have hsecond : (Sample.stalled.perform (.enforce Sample.alice ⟨2⟩)).1 =
      .ok (.ended .defaultLicenseApplied) := rfl
  have hlast : ((Sample.afterEnding ⟨2⟩).perform (.enforce Sample.alice .first)).1 =
      .ok (.ended .defaultLicenseApplied) := rfl
  obtain ⟨-, hcoincides⟩ := operations_commute hclean rfl rfl rfl (by decide)
    (Prod.ext hfirst rfl) (Prod.ext hthen rfl) (Prod.ext hsecond rfl) (Prod.ext hlast rfl)
  exact ⟨hclean, hcoincides, by decide +kernel⟩

end Arbitration
