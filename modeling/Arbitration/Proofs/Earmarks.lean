import Arbitration.Proofs.Audit
import Arbitration.Proofs.Custody

/-!
# Incentives that are set aside

Where incentives are earmarked, a filing moves the incentive on its stake out of the reserve, **in
full or not at all**, and its record keeps the amount. From then on it does not matter what becomes
of the reserve: other disputes may draw on it, and the host of the engine may use the ledger for
transfers of its own, even to empty the reserve. A `Course` is a history of both.

The amount in the record is what is paid if the counterparty stays silent, and what is returned to
the reserve otherwise. All amounts that are set aside lie in one account; the invariant of runs
keeps the share of every open dispute in it, and transfers of the host leave the invariant as long
as they keep away from the accounts that hold value for disputes.
-/

namespace Arbitration

/-! ### Courses -/

/-- What can happen to an engine whose host uses the ledger too. -/
inductive Incident where
  | turn (s : Turn)
  | transfer (source target : AccountId) (amount : Amount)
  deriving DecidableEq

namespace Engine

/-- The engine after an incident. A transfer that the ledger refuses leaves it as it is. -/
def undergo (e : Engine) : Incident → Engine
  | .turn s => e.step s
  | .transfer source target amount =>
    { e with ledger := orElseKeep e.ledger (e.ledger.transfer source target amount) }

/-- The engine after some incidents. -/
def follow (e : Engine) (course : List Incident) : Engine := course.foldl undergo e

/-- Whether an account is one of those that hold value for disputes. -/
def isPot (e : Engine) (a : AccountId) : Bool :=
  a = e.accounts.escrow || a = e.accounts.defenseFund || a = e.accounts.incentiveEarmark

/-- Whether an incident is clean: a turn in which no compensation is refused, or a transfer that
keeps away from the accounts that hold value for disputes. -/
def undergoesCleanly (e : Engine) : Incident → Bool
  | .turn s => e.stepsCleanly s
  | .transfer source target _ => !e.isPot source && !e.isPot target

/-- Whether all incidents are clean. -/
def followsCleanly (e : Engine) : List Incident → Bool
  | [] => true
  | i :: rest => e.undergoesCleanly i && (e.undergo i).followsCleanly rest

variable {e : Engine}

theorem followsCleanly_append (e : Engine) (first later : List Incident) :
    e.followsCleanly (first ++ later) =
      (e.followsCleanly first && (e.follow first).followsCleanly later) := by
  induction first generalizing e with
  | nil => rfl
  | cons i first ih =>
    rw [List.cons_append, followsCleanly, followsCleanly, ih, Bool.and_assoc]
    rfl

theorem account_ne_of_isPot {a : AccountId} (h : e.isPot a = false) (p : Pot) :
    a ≠ p.account e.accounts := by
  rintro rfl
  cases p <;> simp [isPot, Pot.account] at h

/-- Another ledger in which the pots hold the same will do. -/
theorem Sound.withLedger {ledger : Ledger} (h : e.Sound)
    (hpots : ∀ p : Pot, ledger.balance (p.account e.accounts) =
      e.ledger.balance (p.account e.accounts)) : ({ e with ledger } : Engine).Sound :=
  ⟨h.valid, ⟨h.standard.accounts, h.standard.reserve⟩, h.keyed, h.distinct, h.numbered, h.records,
    ⟨h.registered.unknown, h.registered.fits, h.registered.unreleased⟩,
    fun p => (congrArg Amount.toNat (hpots p)).trans (h.custody p)⟩

/-- A transfer of the host keeps the invariant. -/
theorem Sound.transfer {source target : AccountId} {amount : Amount} (h : e.Sound)
    (hsource : e.isPot source = false) (htarget : e.isPot target = false) :
    (e.undergo (.transfer source target amount)).Sound := by
  refine h.withLedger fun p => ?_
  cases hdone : e.ledger.transfer source target amount with
  | error err => rfl
  | ok ledger =>
    have hbalance := (Ledger.transferred_of_transfer hdone).balance (p.account e.accounts)
    rw [if_neg (account_ne_of_isPot hsource p), if_neg (account_ne_of_isPot htarget p)] at hbalance
    exact Amount.toNat_inj.1 hbalance

section Induction

variable {P : Engine → Prop} (hidle : ∀ {e e' : Engine}, e.Idle e' → P e → P e')
  (hledger : ∀ {e : Engine} (ledger : Ledger), P e → P { e with ledger })
  (hdone : ∀ {e : Engine} {op : Operation} {answer : Answer} {f : Footprint} {ledger : Ledger},
    e.Sound → Succeeds e op answer f → e.ledger.Moves f.moves ledger → P e →
      P (e.having f ledger))
include hidle hledger hdone

/-- One clean incident keeps the invariant, and what idle turns, other ledgers and successful
operations keep. -/
theorem Sound.undergo (h : e.Sound) (i : Incident) (hclean : e.undergoesCleanly i = true)
    (hP : P e) : (e.undergo i).Sound ∧ P (e.undergo i) := by
  cases i with
  | turn s =>
    have hclean : e.runsCleanly [s] = true := (Bool.and_true _).trans hclean
    have hrun : P (e.run [s]) := h.run_induction hclean hP hidle hdone
    exact ⟨h.step s ((Bool.and_true _).symm.trans hclean), hrun⟩
  | transfer source target amount =>
    obtain ⟨hsource, htarget⟩ := Bool.and_eq_true_iff.1 hclean
    exact ⟨h.transfer (Bool.not_eq_true' _ ▸ hsource) (Bool.not_eq_true' _ ▸ htarget),
      hledger _ hP⟩

/-- **Induction over a course.** -/
theorem Sound.course_induction {course : List Incident} (h : e.Sound)
    (hclean : e.followsCleanly course = true) (hP : P e) :
    (e.follow course).Sound ∧ P (e.follow course) := by
  induction course generalizing e with
  | nil => exact ⟨h, hP⟩
  | cons i rest ih =>
    obtain ⟨hfirst, hrest⟩ := Bool.and_eq_true_iff.1 hclean
    obtain ⟨hsound, hnext⟩ := h.undergo hidle hledger hdone i hfirst hP
    exact ih hsound hrest hnext

end Induction

end Engine

/-! ### Incentives that were not set aside -/

/-- Whether the event is that an incentive was skipped. -/
def Event.isIncentiveSkipped : Event → Bool
  | incentiveSkipped _ _ => true
  | _ => false

/-- The incentives that were skipped, in some events. -/
def skips (events : List Event) : List Event := events.filter Event.isIncentiveSkipped

namespace Dispute

/-- What is told of an incentive that was owed for a silent counterparty when nothing had been set
aside. -/
def forgone (d : Dispute) (owed : Amount) : List Event :=
  if d.outcome = .defaultLicenseApplied ∧ owed ≠ .zero ∧ d.earmarkedIncentive = .zero then
    [.incentiveSkipped owed .zero]
  else []

theorem forgone_of_ne {d : Dispute} (h : d.outcome ≠ .defaultLicenseApplied) (owed : Amount) :
    d.forgone owed = [] :=
  if_neg fun hall => h hall.1

end Dispute

theorem skips_append (first rest : List Event) :
    skips (first ++ rest) = skips first ++ skips rest :=
  List.filter_append ..

/-- Of a skipped incentive nothing is told but before the record is marked. -/
theorem Resolves.skips_eq {e : Engine} {d : Dispute} {r : Resolution} {moves : List Move}
    {events : List (DisputeId × Event)} {f : Footprint} (h : Resolves e d r moves events f) :
    skips (f.events.map (·.2)) = skips (events.map (·.2)) := by
  cases h with
  | @intro burned freed registry released pending store admitted releases written licensed =>
    have hpending : ∀ p ∈ pending, p.2.isIncentiveSkipped = false :=
      releases.forall_mem_pending fun _ => rfl
    have hreport : ∀ p ∈ r.report d burned, p.2.isIncentiveSkipped = false :=
      Resolution.forall_mem_report rfl rfl rfl rfl
    have hnone : ∀ {told : List (DisputeId × Event)},
        (∀ p ∈ told, p.2.isIncentiveSkipped = false) → skips (told.map (·.2)) = [] := by
      intro told htold
      refine List.filter_eq_nil_iff.2 fun event hevent => ?_
      obtain ⟨p, hp, rfl⟩ := List.mem_map.1 hevent
      exact Bool.not_eq_true _ ▸ htold p hp
    simp only [List.map_append, skips_append, hnone hpending, hnone hreport, List.append_nil]

/-- Where incentives are set aside, one is skipped if it was owed and nothing was. -/
theorem Engine.Draws.skips_eq {e : Engine} {d : Dispute} {source : AccountId} {draw owed : Amount}
    {skipped : List (DisputeId × Event)} (h : e.Draws d source draw skipped)
    (hpolicy : e.config.reservePolicy = .earmarked)
    (howed : Policy.incentiveAmount d.initiatorStake e.config.incentiveBps = .ok owed) :
    skipped.map (·.2) = if owed ≠ .zero ∧ d.earmarkedIncentive = .zero
      then [.incentiveSkipped owed .zero] else [] := by
  cases h with
  | intro owes returned found =>
    obtain rfl := Except.ok.inj (howed.symm.trans owes)
    simp only [Engine.incentiveSource, hpolicy, Prod.mk.injEq] at found
    obtain ⟨-, rfl, rfl⟩ := found
    rw [apply_ite (List.map _), List.map_nil, List.map_cons, List.map_nil]
    by_cases hset : d.earmarkedIncentive = .zero
    · by_cases hnothing : owed = .zero
      · simp [hset, hnothing]
      · have hsome : owed.isZero = false :=
          Bool.eq_false_iff.2 fun h => hnothing (Amount.isZero_iff.1 h)
        simp [hset, hnothing, hsome]
    · have hsome : d.earmarkedIncentive.isZero = false :=
        Bool.eq_false_iff.2 fun h => hset (Amount.isZero_iff.1 h)
      simp [hset, hsome]

namespace Engine

variable {e : Engine} {op : Operation} {answer : Answer} {f : Footprint} {id : DisputeId}
  {d next : Dispute} {owed : Amount}

/-- Nothing is told of the incentive of an open dispute, or of one whose outcome is another. -/
theorem Sound.forgone_of_open (h : e.Sound) (hget : e.store.get? id = some d)
    (hopen : d.resolved = false) (owed : Amount) : d.forgone owed = [] :=
  Dispute.forgone_of_ne (by rw [((h.records id d hget).begun hopen).1]; nofun) owed

/-- A write that leaves the outcome open tells nothing of it. -/
theorem Sound.forgone_of_write {w : StoreWrite} (h : e.Sound) (hget : e.store.get? id = some d)
    (hopen : d.resolved = false) (hwritten : e.store.write w = .ok f.store)
    (hid : w.record.id = d.id) (houtcome : w.record.outcome = d.outcome)
    (hnext : f.store.get? id = some next) : next.forgone owed = d.forgone owed ++ [] := by
  rw [Store.get?_of_write hwritten, hid, if_pos (h.keyed id d hget)] at hnext
  obtain rfl := Option.some.inj hnext
  rw [h.forgone_of_open hget hopen, Dispute.forgone_of_ne]
  · rfl
  · rw [houtcome, ((h.records id d hget).begun hopen).1]
    nofun

/-- A resolution tells of it what was told before, if that is what its outcome asks for. -/
theorem Sound.forgone_of_resolves {i c : Bool} {r : Resolution} {moves : List Move}
    {events : List (DisputeId × Event)} (h : e.Sound) (hget : e.store.get? id = some d)
    (hopen : d.resolved = false) (hresolves : Resolves e (d.accepting i c) r moves events f)
    (htold : skips (events.map (·.2)) = if r.outcome = .defaultLicenseApplied ∧ owed ≠ .zero ∧
      d.earmarkedIncentive = .zero then [.incentiveSkipped owed .zero] else [])
    (hnext : f.store.get? id = some next) :
    next.forgone owed = d.forgone owed ++ skips (f.events.map (·.2)) := by
  obtain ⟨waiting, hwritten⟩ := hresolves.exists_written
  have hid : (r.mark (d.accepting i c) waiting e.now).id = id := h.keyed id d hget
  rw [Store.get?_of_write hwritten, if_pos hid] at hnext
  obtain rfl := Option.some.inj hnext
  rw [h.forgone_of_open hget hopen, hresolves.skips_eq, htold]
  rfl

end Engine

/-- **One operation.** That an incentive is skipped is told when the dispute ends by the silence of
its counterparty, if it was owed and nothing was set aside. -/
theorem Succeeds.forgone {e : Engine} {op : Operation} {answer : Answer} {f : Footprint}
    {d next : Dispute} {owed : Amount} (hs : Succeeds e op answer f) (h : e.Sound)
    (hpolicy : e.config.reservePolicy = .earmarked)
    (hget : e.store.get? (op.dispute e) = some d) (hnext : f.store.get? (op.dispute e) = some next)
    (howed : Policy.incentiveAmount d.initiatorStake e.config.incentiveBps = .ok owed) :
    next.forgone owed = d.forgone owed ++ skips (f.events.map (·.2)) := by
  cases hs with
  | initiate admitted setAside counted frozen dated written =>
    change e.store.get? e.store.nextId = some d at hget
    rw [h.get?_nextId] at hget
    cases hget
  | deposit admitted added written =>
    obtain ⟨hfound, hopen, -⟩ := Engine.admitDeposit_eq_ok_iff.1 admitted
    obtain rfl := Option.some.inj (hfound.symm.trans hget)
    exact h.forgone_of_write hget hopen written rfl rfl hnext
  | grantSubsidy admitted written =>
    obtain ⟨hfound, hopen, -⟩ := Engine.admitSubsidy_eq_ok_iff.1 admitted
    obtain rfl := Option.some.inj (hfound.symm.trans hget)
    exact h.forgone_of_write hget hopen written rfl rfl hnext
  | submit admitted written =>
    obtain ⟨-, hfound, hopen, -⟩ := Engine.admitProposal_eq_ok_iff.1 admitted
    obtain rfl := Option.some.inj (hfound.symm.trans hget)
    exact h.forgone_of_write hget hopen written rfl rfl hnext
  | @accept caller id a store admitted one written =>
    obtain ⟨hfound, hopen, -⟩ := Engine.admitAcceptance_eq_ok_iff.1 admitted
    obtain rfl := Option.some.inj (hfound.symm.trans hget)
    obtain ⟨i, c, haccept⟩ := a.record.accept_eq a.party
    rw [haccept] at written
    exact h.forgone_of_write hget hopen written rfl rfl hnext
  | counter admitted routes opened dated written =>
    obtain ⟨hfound, hopen, -⟩ := Engine.admitCounter_eq_ok_iff.1 admitted
    obtain rfl := Option.some.inj (hfound.symm.trans hget)
    obtain ⟨startTime, -, -, -, rfl⟩ := Dispute.counterRound_eq_ok_iff.1 opened
    exact h.forgone_of_write hget hopen written rfl rfl hnext
  | @agree caller id a f admitted both resolves =>
    obtain ⟨hfound, hopen, -⟩ := Engine.admitAcceptance_eq_ok_iff.1 admitted
    obtain rfl := Option.some.inj (hfound.symm.trans hget)
    obtain ⟨i, c, haccept⟩ := a.record.accept_eq a.party
    rw [haccept] at resolves
    refine h.forgone_of_resolves hget hopen resolves ?_ hnext
    exact (if_neg fun hall => Outcome.noConfusion hall.1).symm
  | @lapse caller source id d' draw skipped f admitted draws resolves =>
    obtain ⟨hfound, hopen, -⟩ := Engine.admitEnforcement_eq_silent_iff.1 admitted
    obtain rfl := Option.some.inj (hfound.symm.trans hget)
    refine h.forgone_of_resolves (i := d'.initiatorAccepted) (c := d'.counterpartyAccepted) hget
      hopen resolves ?_ hnext
    have hback : skips ((if d'.subsidy.isZero then []
        else [(d'.id, Event.subsidyReturned d'.subsidy)]).map (·.2)) = [] := by
      split <;> rfl
    rw [List.map_append, skips_append, hback, draws.skips_eq hpolicy howed]
    simp only [Resolution.lapse, true_and, List.nil_append]
    split <;> rfl
  | @deadlock caller id d' settlement f admitted resolves =>
    obtain ⟨hfound, hopen, -⟩ := Engine.admitEnforcement_eq_deadlocked_iff.1 admitted
    obtain rfl := Option.some.inj (hfound.symm.trans hget)
    refine h.forgone_of_resolves (i := d'.initiatorAccepted) (c := d'.counterpartyAccepted) hget
      hopen resolves ?_ hnext
    exact (if_neg fun hall => Outcome.noConfusion hall.1).symm
  | @retry caller id d' release registry store admitted freed written =>
    obtain ⟨hfound, -⟩ := Engine.admitRetry_eq_ok_iff.1 admitted
    obtain rfl := Option.some.inj (hfound.symm.trans hget)
    have hid : d'.id = id := h.keyed _ _ hfound
    change store.get? id = some next at hnext
    rw [Store.get?_of_write written] at hnext
    obtain rfl := Option.some.inj ((if_pos hid).symm.trans hnext)
    exact (List.append_nil _).symm

/-! ### What is set aside -/

/-- One move that is carried out. -/
theorem Ledger.Moves.of_singleton {l l' : Ledger} {m : Move} (h : l.Moves [m] l') :
    l.Moved m l' := by
  generalize hms : [m] = ms at h
  cases h with
  | nil => cases hms
  | snoc first last =>
    rcases List.append_eq_singleton_iff.1 hms.symm with ⟨rfl, hlast⟩ | ⟨-, hlast⟩
    · obtain rfl := List.singleton_inj.1 hlast
      rwa [first.eq_of_nil] at last
    · cases hlast

/-- What a filing sets aside depends on what the reserve holds once the stake is paid: all that is
owed if it covers that, and nothing otherwise. -/
theorem Engine.SetsAside.exists_transfer {e : Engine} {caller : AccountId}
    {stake earmarked : Amount} (h : e.SetsAside caller stake earmarked)
    (hpolicy : e.config.reservePolicy = .earmarked) (hstake : stake.isZero = false) :
    ∃ owed ledger, Policy.incentiveAmount stake e.config.incentiveBps = .ok owed ∧
      e.ledger.transfer caller e.accounts.escrow stake = .ok ledger ∧
      earmarked = if owed ≤ ledger.balance e.treasury.reserve then owed else .zero := by
  cases h with
  | nothing policy =>
    rw [hpolicy] at policy
    cases policy
  | @draw owed ledger policy owes paid =>
    have hmoved := paid.of_singleton
    rw [Ledger.Moved, if_neg (Bool.eq_false_iff.1 hstake)] at hmoved
    exact ⟨owed, ledger, owes, hmoved, rfl⟩

/-! ### Along a course -/

namespace Engine

/-- How far a dispute has come since its filing: the record has gone on, and of its incentive the
log tells what the record asks for. -/
structure Since (e : Engine) (config : Config) (filed now : Dispute) (owed : Amount) : Prop where
  config : e.config = config
  found : e.store.get? filed.id = some now
  evolves : filed.Evolves now
  told : skips (e.log.word filed.id) = now.forgone owed

variable {e e' : Engine} {config : Config} {filed now : Dispute} {owed : Amount}

theorem Idle.since (h : e.Idle e') (hsince : e.Since config filed now owed) :
    e'.Since config filed now owed :=
  ⟨h.config.trans hsince.config, (h.get? _).trans hsince.found, hsince.evolves,
    h.log ▸ hsince.told⟩

theorem Since.withLedger (hsince : e.Since config filed now owed) (ledger : Ledger) :
    ({ e with ledger } : Engine).Since config filed now owed :=
  ⟨hsince.config, hsince.found, hsince.evolves, hsince.told⟩

/-- **One step.** A dispute comes further by operations of its own, and not by others. -/
theorem Since.having {op : Operation} {answer : Answer} {f : Footprint}
    (hsince : e.Since config filed now owed) (h : e.Sound) (hs : Succeeds e op answer f)
    (hpolicy : config.reservePolicy = .earmarked)
    (howed : Policy.incentiveAmount filed.initiatorStake config.incentiveBps = .ok owed)
    (ledger : Ledger) : ∃ next, (e.having f ledger).Since config filed next owed := by
  obtain ⟨rfl, hfound, hevolves, htold⟩ := hsince
  have hdevelops := h.develops_of_succeeds hs ledger
  obtain ⟨next, hnext, hgoes, -⟩ := hdevelops.records filed.id now hfound
  refine ⟨next, rfl, hnext, hevolves.trans hgoes, ?_⟩
  have hword : (e.having f ledger).log.word filed.id = e.log.word filed.id ++
      if op.dispute e = filed.id then f.events.map (·.2) else [] :=
    EventLog.word_extend (hs.about h) e.log filed.id
  rw [hword, skips_append, htold]
  by_cases hid : op.dispute e = filed.id
  · rw [← hevolves.initiatorStake] at howed
    rw [if_pos hid]
    exact (hs.forgone h hpolicy (hid ▸ hfound) (hid ▸ hnext) howed).symm
  · obtain ⟨hsame, -⟩ := hdevelops.elsewhere filed.id hid
    obtain rfl := Option.some.inj (hnext.symm.trans (hsame.trans hfound))
    rw [if_neg hid]
    exact List.append_nil _

/-- However a course goes on, a dispute comes further. -/
theorem Sound.since_course {course : List Incident} (h : e.Sound)
    (hclean : e.followsCleanly course = true) (hpolicy : config.reservePolicy = .earmarked)
    (howed : Policy.incentiveAmount filed.initiatorStake config.incentiveBps = .ok owed)
    (hsince : e.Since config filed now owed) :
    (e.follow course).Sound ∧ ∃ next, (e.follow course).Since config filed next owed := by
  refine h.course_induction (P := fun e' => ∃ next, e'.Since config filed next owed) ?_ ?_ ?_
    hclean ⟨now, hsince⟩
  · rintro e₁ e₂ hidle ⟨next, hnext⟩
    exact ⟨next, hidle.since hnext⟩
  · rintro e₁ ledger ⟨next, hnext⟩
    exact ⟨next, hnext.withLedger ledger⟩
  · rintro e₁ op answer f ledger hsound hs - ⟨next, hnext⟩
    exact hnext.having hsound hs hpolicy howed ledger

/-- A filing that succeeds writes a record that is in order, and tells of no incentive. -/
theorem Sound.since_filing {caller : AccountId} {r : InitiateRequest} {answer : Answer}
    {f : Footprint} {ledger : Ledger} (h : e.Sound) (hc : e.Chronicled)
    (hpolicy : e.config.reservePolicy = .earmarked)
    (hs : Succeeds e (.initiate caller r) answer f) (hmoves : e.ledger.Moves f.moves ledger) :
    ∃ d owed paid, answer = .opened d.id ∧
      Policy.incentiveAmount d.initiatorStake e.config.incentiveBps = .ok owed ∧
      e.ledger.transfer caller e.accounts.escrow d.initiatorStake = .ok paid ∧
      d.earmarkedIncentive = (if owed ≤ paid.balance e.treasury.reserve then owed else .zero) ∧
      d.initiator = caller ∧ (e.having f ledger).Sound ∧
      (e.having f ledger).Since e.config d d owed := by
  have habout := hs.about h
  obtain ⟨w, hadvance⟩ := hs.advance h
  have hafter := h.having hmoves hadvance
  cases hs with
  | @initiate _ _ stake earmarked escalated treasury registry store deadline admitted setAside
      counted frozen dated written =>
    have hd := h.filed admitted setAside dated
    obtain ⟨owed, paid, howed, hpaid, hearmarked⟩ := setAside.exists_transfer hpolicy hd.staked
    refine ⟨e.filed caller r stake escalated earmarked, owed, paid, rfl, howed, hpaid, hearmarked,
      rfl, hafter, rfl, ?_, .refl _, ?_⟩
    · exact (Store.get?_of_write written _).trans (if_pos rfl)
    · -- nothing has been told of a dispute that is not filed yet
      have hnothing : e.log.word e.store.nextId = [] := hc.unknown _ h.get?_nextId
      show skips ((e.log.extend e.now _).word e.store.nextId) = _
      rw [EventLog.word_extend habout, hnothing]
      exact congrArg skips (if_pos rfl)

end Engine

/-! ### How it is used -/

namespace Engine

/-- How an operation that ends a dispute uses what was set aside for it. All of it leaves the
account that it lies in: to the initiator, beside its stake, if the counterparty stayed silent, and
to the reserve otherwise. -/
structure Disburses (e e' : Engine) (d d' : Dispute) : Prop where
  emptied : (e'.ledger.balance e.accounts.incentiveEarmark).toNat + d.earmarkedIncentive.toNat =
    (e.ledger.balance e.accounts.incentiveEarmark).toNat
  paid : d'.outcome = .defaultLicenseApplied → (e'.ledger.balance d.initiator).toNat =
    (e.ledger.balance d.initiator).toNat + d.initiatorStake.toNat + d.earmarkedIncentive.toNat
  returned : d'.outcome ≠ .defaultLicenseApplied →
    (e'.ledger.balance e.treasury.reserve).toNat =
      (e.ledger.balance e.treasury.reserve).toNat + d.earmarkedIncentive.toNat

end Engine

/-- A resolution gives the reserve what it returns, and takes nothing from it. -/
theorem Resolution.reserve_moves {e : Engine} {d : Dispute} {r : Resolution} {burned : Amount}
    (hs : e.Standard) (hi : d.initiator.isSystem = false) (hc : d.counterparty.isSystem = false) :
    given e.treasury.reserve (r.moves e d burned) = (r.returned d).toNat ∧
      taken e.treasury.reserve (r.moves e d burned) = 0 := by
  obtain ⟨-, -, -, -, -, hinitiator⟩ := hs.protocol_ne hi
  obtain ⟨-, -, -, -, -, hcounterparty⟩ := hs.protocol_ne hc
  have hescrow : e.accounts.escrow ≠ e.treasury.reserve := (hs.reserve_ne .escrow).symm
  have hearmark : e.accounts.incentiveEarmark ≠ e.treasury.reserve :=
    (hs.reserve_ne .incentiveEarmark).symm
  simp only [moves, payouts, List.cons_append, List.nil_append, given_cons, given_nil, taken_cons,
    taken_nil, if_neg hinitiator.symm, if_neg hcounterparty.symm,
    if_neg hs.drain_burnSink.reserve.symm, if_neg hescrow, if_neg hearmark, if_true,
    Nat.zero_add, Nat.add_zero, and_self]

namespace Engine.Decides

variable {e : Engine} {d handed : Dispute} {r : Resolution} {moves : List Move}
  {events : List (DisputeId × Event)}

/-- The silence of a counterparty pays the initiator what was set aside, beside its stake. -/
theorem lapsed (h : e.Decides d handed r moves events) (hs : e.Standard) (hd : d.Sound e.config)
    (hpolicy : e.config.reservePolicy = .earmarked) (hsilent : r.outcome = .defaultLicenseApplied) :
    given d.initiator moves = d.earmarkedIncentive.toNat ∧ taken d.initiator moves = 0 ∧
      r.settlement.toInitiator = d.initiatorStake := by
  cases h with
  | agreement staked proposed both => cases hsilent
  | deadlock staked split => cases hsilent
  | @lapse source draw skipped unstaked draws =>
    obtain ⟨-, hfund, hearmark, -, -, hreserve⟩ := hs.protocol_ne hd.initiator
    rcases draws.source with ⟨hshared, -⟩ | ⟨-, rfl, rfl⟩
    · rw [hpolicy] at hshared
      cases hshared
    · simp only [Engine.subsidyReturn, given_cons, given_nil, taken_cons, taken_nil,
        if_neg hreserve, if_neg hfund, if_neg hearmark, if_true, Nat.zero_add, Nat.add_zero]
      exact ⟨trivial, trivial, rfl⟩

/-- Whoever else ends a dispute moves nothing before, and returns what was set aside. -/
theorem returned_eq (h : e.Decides d handed r moves events)
    (hother : r.outcome ≠ .defaultLicenseApplied) :
    moves = [] ∧ r.returned handed = d.earmarkedIncentive := by
  have hreturned : r.returned handed = handed.earmarkedIncentive := if_neg hother
  obtain ⟨i, c, hhanded⟩ := h.accepting
  refine ⟨?_, by rw [hreturned, hhanded]; rfl⟩
  cases h with
  | agreement staked proposed both => rfl
  | deadlock staked split => rfl
  | lapse unstaked draws => exact absurd rfl hother

end Engine.Decides

namespace Engine

variable {e : Engine} {op : Operation} {answer : Answer} {f : Footprint} {ledger : Ledger}
  {id : DisputeId} {d d' : Dispute}

/-- An operation that resolves a dispute takes its share out of every pot. -/
theorem Sound.emptied (h : e.Sound) (hs : Succeeds e op answer f)
    (hmoves : e.ledger.Moves f.moves ledger) (hget : e.store.get? id = some d)
    (hopen : d.resolved = false) (hget' : f.store.get? id = some d')
    (hresolved : d'.resolved = true) (p : Pot) :
    (ledger.balance (p.account e.accounts)).toNat + p.share d =
      (e.ledger.balance (p.account e.accounts)).toNat := by
  obtain ⟨w, hadvance⟩ := hs.advance h
  have hstored := Store.get?_of_write hadvance.written id
  rw [hget'] at hstored
  -- the record that is written is the one that is resolved, since the other ones stay
  split at hstored
  · rename_i hid
    obtain rfl := Option.some.inj hstored
    have hbalanced := hadvance.balanced p
    rw [hid, hget, Option.map_some, Option.getD_some, Pot.share_of_resolved hresolved] at hbalanced
    have hbalance := hmoves.balance (p.account e.accounts)
    omega
  · rw [hget] at hstored
    obtain rfl := Option.some.inj hstored
    rw [hopen] at hresolved
    cases hresolved

/-- **One operation.** Whatever ends a dispute, what was set aside for it is used in full. -/
theorem Sound.disburses (h : e.Sound) (hpolicy : e.config.reservePolicy = .earmarked)
    (hs : Succeeds e op answer f) (hmoves : e.ledger.Moves f.moves ledger)
    (hget : e.store.get? id = some d) (hopen : d.resolved = false)
    (hget' : f.store.get? id = some d') (hresolved : d'.resolved = true) :
    e.Disburses (e.having f ledger) d d' := by
  have hd := h.records id d hget
  have hemptied := h.emptied hs hmoves hget hopen hget' hresolved .incentiveEarmark
  obtain ⟨handed, r, moves, events, hdecides, hresolves⟩ :=
    (hs.treats h).exists_decides h hget hopen hget' hresolved
  have haccepting := hdecides.accepting
  obtain ⟨burned, -, hall⟩ := hresolves.exists_moves
  obtain ⟨waiting, hwritten⟩ := hresolves.exists_written
  have houtcome : d'.outcome = r.outcome := by
    obtain ⟨i, c, rfl⟩ := haccepting
    have hid : (r.mark (d.accepting i c) waiting e.now).id = id := h.keyed id d hget
    have hrecord : f.store.get? id = _ := (Store.get?_of_write hwritten id).trans (if_pos hid)
    rw [← Option.some.inj (hrecord.symm.trans hget')]
    rfl
  refine ⟨?_, fun hsilent => ?_, fun hother => ?_⟩
  · rw [Pot.share, hopen, if_neg Bool.false_ne_true] at hemptied
    exact hemptied
  · rw [houtcome] at hsilent
    obtain ⟨hgiven, htaken, hstake⟩ := hdecides.lapsed h.standard hd hpolicy hsilent
    have hbalance := hmoves.balance d.initiator
    have hnone := hresolves.taken_eq hd.initiator h.standard
    obtain ⟨i, c, rfl⟩ := haccepting
    have hpaid : given d.initiator (r.moves e (d.accepting i c) burned) =
        (if d.initiator = d.initiator then r.settlement.toInitiator.toNat else 0) +
          if d.counterparty = d.initiator then r.settlement.toCounterparty.toNat else 0 :=
      Resolution.given_moves_of_party h.standard hd.initiator
    rw [if_pos rfl, if_neg hd.distinct, hstake] at hpaid
    rw [hnone, htaken, hall, given_append, hgiven, hpaid] at hbalance
    show (ledger.balance d.initiator).toNat = _
    omega
  · rw [houtcome] at hother
    obtain ⟨rfl, hreturned⟩ := hdecides.returned_eq hother
    have hbalance := hmoves.balance e.treasury.reserve
    obtain ⟨i, c, rfl⟩ := haccepting
    obtain ⟨hgiven, htaken⟩ :
        given e.treasury.reserve (r.moves e (d.accepting i c) burned) = _ ∧
          taken e.treasury.reserve (r.moves e (d.accepting i c) burned) = 0 :=
      Resolution.reserve_moves h.standard hd.initiator hd.counterparty
    rw [hall, List.nil_append, hgiven, htaken, hreturned] at hbalance
    exact hbalance

/-- What holds of a dispute for which an incentive of `owed` was to be set aside at filing. While it
is open, what was set aside is there to be used, and whatever operation ends it uses all of it. Once
it is resolved, its settlement names that amount as the incentive if the counterparty stayed silent
and none otherwise. That the incentive was skipped is told in that first case, if something was owed
and nothing set aside. -/
structure Honours (e : Engine) (d : Dispute) (owed : Amount) : Prop where
  covered : d.resolved = false →
    d.earmarkedIncentive ≤ e.ledger.balance e.accounts.incentiveEarmark
  disbursed : ∀ op answer e' d', e.perform op = (.ok answer, e') → d.resolved = false →
    e'.store.get? d.id = some d' → d'.resolved = true → e.Disburses e' d d'
  settled : d.resolved = true → ∃ s, d.settlement = some s ∧
    s.incentive = if d.outcome = .defaultLicenseApplied then d.earmarkedIncentive else .zero
  skipped : skips (e.log.word d.id) =
    if d.outcome = .defaultLicenseApplied ∧ owed ≠ .zero ∧ d.earmarkedIncentive = .zero
    then [.incentiveSkipped owed .zero] else []

/-- The settlement of a resolved dispute pays what was set aside, if it is the one that it was set
aside for. -/
theorem Sound.settled_incentive (h : e.Sound) (hpolicy : e.config.reservePolicy = .earmarked)
    (hget : e.store.get? id = some d) (hresolved : d.resolved = true) :
    ∃ s, d.settlement = some s ∧
      s.incentive = if d.outcome = .defaultLicenseApplied then d.earmarkedIncentive else .zero := by
  obtain ⟨-, -, s, hs, hpayout⟩ := (h.records id d hget).ended hresolved
  refine ⟨s, hs, ?_⟩
  generalize d.outcome = outcome at hpayout
  cases hpayout with
  | agreement => rfl
  | deadlock split => exact Policy.timeoutSplit_incentive split
  | lapse allOrNothing setAside => exact setAside hpolicy

/-- A sound engine honours what was set aside. -/
theorem Sound.honours {filed : Dispute} {config : Config} {owed : Amount} (h : e.Sound)
    (hpolicy : config.reservePolicy = .earmarked) (hsince : e.Since config filed d owed) :
    e.Honours d owed := by
  obtain ⟨rfl, hfound, hevolves, htold⟩ := hsince
  rw [← hevolves.id] at hfound htold
  refine ⟨fun hopen => ?_, fun op answer e' d' hdone hopen hget' hresolved => ?_,
    h.settled_incentive hpolicy hfound, htold⟩
  · have hshare := Store.le_total (fun d => Pot.incentiveEarmark.share d) hfound
    rw [← h.custody .incentiveEarmark, Pot.share, hopen, if_neg Bool.false_ne_true] at hshare
    exact Amount.le_iff.2 hshare
  · obtain ⟨f, ledger, hs, hmoves, rfl⟩ := perform_ok h.keyed hdone
    exact h.disburses hpolicy hs hmoves hfound hopen hget' hresolved

end Engine

/-! ### The statement -/

/-- A course from a fresh engine in which all incidents were clean. -/
structure CleanCourse (start : Engine) (course : List Incident) : Prop where
  fresh : start.Fresh
  clean : start.followsCleanly course = true

/-- **Earmarked incentives are isolated.** Let incentives be earmarked, and let a dispute be filed
in a clean course: calls of any kind about any disputes, and transfers by the host, which may empty
the reserve. What is owed is the share of the stake that the configuration asks for, rounded down.
All of it is set aside if the reserve covers it right after the stake went into escrow, and nothing
if it does not. However the course goes on, the record keeps that amount, and the engine honours
it. -/
theorem earmarked_incentives_are_isolated {start filed : Engine} {before later : List Incident}
    {caller : AccountId} {r : InitiateRequest} {id : DisputeId}
    (hpolicy : start.config.reservePolicy = .earmarked)
    (h : CleanCourse start (before ++ .turn (.call (.initiate caller r)) :: later))
    (hfiled : (start.follow before).perform (.initiate caller r) = (.ok (.opened id), filed)) :
    ∃ d owed paid, filed.store.get? id = some d ∧
      owed.toNat = d.initiatorStake.toNat * start.config.incentiveBps.toNat / 10000 ∧
      (start.follow before).ledger.transfer caller (start.follow before).accounts.escrow
        d.initiatorStake = .ok paid ∧
      d.earmarkedIncentive =
        (if owed ≤ paid.balance (start.follow before).treasury.reserve then owed else .zero) ∧
      ∃ now, (filed.follow later).store.get? id = some now ∧ now.id = id ∧
        now.initiator = caller ∧ now.initiatorStake = d.initiatorStake ∧
        now.earmarkedIncentive = d.earmarkedIncentive ∧ (filed.follow later).Honours now owed := by
  have hclean := h.clean
  rw [Engine.followsCleanly_append] at hclean
  obtain ⟨hbefore, hrest⟩ := Bool.and_eq_true_iff.1 hclean
  obtain ⟨-, hlater⟩ := Bool.and_eq_true_iff.1 hrest
  -- up to the filing
  obtain ⟨hsound, hconfig, hc⟩ := h.fresh.sound.course_induction
    (P := fun e => e.config = start.config ∧ e.Chronicled)
    (fun hidle hP => ⟨hidle.config.trans hP.1, hidle.chronicled hP.2⟩)
    (fun _ hP => ⟨hP.1, hP.2.unknown, hP.2.told⟩)
    (fun hsound hs _ hP => ⟨hP.1, hP.2.having hsound hs _⟩) hbefore ⟨rfl, h.fresh.chronicled⟩
  rw [← hconfig] at hpolicy ⊢
  -- the filing
  obtain ⟨f, ledger, hs, hmoves, rfl⟩ := Engine.perform_ok hsound.keyed hfiled
  obtain ⟨d, owed, paid, hid, howed, hpaid, hearmarked, rfl, hafter, hsince⟩ :=
    hsound.since_filing hc hpolicy hs hmoves
  obtain rfl := Answer.opened.inj hid
  refine ⟨d, owed, paid, hsince.found, Amount.mulBps_eq_ok_iff.1 howed, hpaid, hearmarked, ?_⟩
  -- and from then on
  have hstep : (start.follow before).undergo (.turn (.call (.initiate d.initiator r))) =
      (start.follow before).having f ledger := by
    show ((start.follow before).perform (.initiate d.initiator r)).2 = _
    rw [hfiled]
  rw [hstep] at hlater
  obtain ⟨hsoundLater, now, hnow⟩ := hafter.since_course hlater hpolicy howed hsince
  exact ⟨now, hnow.found, hnow.evolves.id, hnow.evolves.initiator, hnow.evolves.initiatorStake,
    hnow.evolves.earmarkedIncentive, hsoundLater.honours hpolicy hnow⟩

namespace Sample

/-- Somebody who is a party to nothing. -/
def carol : AccountId := ⟨"carol"⟩

/-- The engine after Alice has filed. -/
def setAside : Engine := (earmarking.perform (.initiate alice filing)).2

/-- The host empties the reserve, and Bob lets his time pass. -/
def drained : List Incident :=
  [.transfer (({} : Treasury).reserve) carol ⟨490⟩, .turn (.clock windowClosed)]

end Sample

/-- Of the five hundred in the reserve ten are set aside for Alice. Then the host takes the rest
out, and still she gets the ten beside her stake when Bob has stayed silent. -/
theorem incentive_outlasts_the_reserve :
    CleanCourse Sample.earmarking
        (.turn (.call (.initiate Sample.alice Sample.filing)) :: Sample.drained) ∧
      Sample.earmarking.perform (.initiate Sample.alice Sample.filing) =
        (.ok (.opened .first), Sample.setAside) ∧
      (Sample.setAside.follow Sample.drained).reserve = .zero ∧
      (((Sample.setAside.follow Sample.drained).perform
          (.enforce Sample.bob .first)).2.ledger.balance Sample.alice).toNat =
        ((Sample.setAside.follow Sample.drained).ledger.balance Sample.alice).toNat + 100 + 10 := by
  have hclean : CleanCourse Sample.earmarking
      ([] ++ .turn (.call (.initiate Sample.alice Sample.filing)) :: Sample.drained) :=
    ⟨Sample.engineUnder_fresh rfl, by decide +kernel⟩
  have hanswer : (Sample.earmarking.perform (.initiate Sample.alice Sample.filing)).1 =
      .ok (.opened .first) := rfl
  have hfiled : Sample.earmarking.perform (.initiate Sample.alice Sample.filing) =
      (.ok (.opened .first), Sample.setAside) := Prod.ext hanswer rfl
  have hdone : ((Sample.setAside.follow Sample.drained).perform (.enforce Sample.bob .first)).1 =
      .ok (.ended .defaultLicenseApplied) := rfl
  have hopen : ((Sample.setAside.follow Sample.drained).store.get? .first).all
      (fun d => !d.resolved && d.initiatorStake = ⟨100⟩ && d.earmarkedIncentive = ⟨10⟩) = true := by
    decide +kernel
  have hended : (((Sample.setAside.follow Sample.drained).perform
      (.enforce Sample.bob .first)).2.store.get? .first).any
        (fun d => d.resolved && d.outcome = .defaultLicenseApplied) = true := by
    decide +kernel
  refine ⟨hclean, hfiled, by decide +kernel, ?_⟩
  obtain ⟨d, owed, paid, -, -, -, -, now, hnow, hid, hcaller, -, -, hhonours⟩ :=
    earmarked_incentives_are_isolated rfl hclean hfiled
  generalize Sample.setAside.follow Sample.drained = e at hdone hopen hended hnow hhonours ⊢
  obtain ⟨d', hget', hd'⟩ := (Option.any_eq_true _ _).1 hended
  rw [hnow] at hopen
  simp only [Option.all_some, Bool.and_eq_true, Bool.not_eq_true', decide_eq_true_eq] at hopen hd'
  obtain ⟨⟨hundecided, hstake⟩, hearmarked⟩ := hopen
  have hfound : (e.perform (.enforce Sample.bob .first)).2.store.get? now.id = some d' := by
    rw [hid]
    exact hget'
  have hpaid := (hhonours.disbursed _ _ _ d' (Prod.ext hdone rfl) hundecided hfound hd'.1).paid
    hd'.2
  rw [hcaller, hstake, hearmarked] at hpaid
  exact hpaid

end Arbitration
