import Arbitration.Proofs.Steps

/-!
# What a resolution does

`Resolves` lists everything that a resolution leaves when it succeeds: **four moves**, the asset
released or waiting for its release, the record marked, the license applied, the events.
`Resolution.Stuck` lists the reasons for which it can fail. `ends_resolve` says that there is
nothing else, and that until the license is applied everything can be taken back.
-/

namespace Arbitration

/-! ### A resolution that succeeds -/

namespace Resolution

theorem toBurn_eq_ok_iff {r : Resolution} {d : Dispute} {burned : Amount} :
    r.toBurn d = .ok burned ↔ ∃ total, d.totalStake = .ok total ∧
      r.settlement.conserves total = true ∧ r.settlement.totalBurned = .ok burned := by
  simp only [Resolution.toBurn, bind_eq_ok_iff, mapError_eq_ok_iff]
  refine exists_congr fun total => and_congr_right fun _ => ?_
  cases hc : r.settlement.conserves total with
  | true => simp only [Bool.not_true, Bool.false_eq_true, if_false, mapError_eq_ok_iff, true_and]
  | false =>
    simp only [Bool.not_false, if_true, bind_eq_ok_iff, Bool.false_eq_true, false_and, iff_false]
    rintro ⟨_, -, _, hthrow, -⟩
    exact throw_ne_ok hthrow

/-- What leaves escrow: the shares of the parties and what is burned. -/
def payouts (r : Resolution) (e : Engine) (d : Dispute) (burned : Amount) : List Move :=
  [⟨e.accounts.escrow, d.initiator, r.settlement.toInitiator⟩,
    ⟨e.accounts.escrow, d.counterparty, r.settlement.toCounterparty⟩,
    ⟨e.accounts.escrow, e.accounts.burnSink, burned⟩]

/-- What of an earmarked incentive goes back to the reserve. -/
def returned (r : Resolution) (d : Dispute) : Amount :=
  if r.outcome = .defaultLicenseApplied then .zero else d.earmarkedIncentive

/-- All moves of a resolution. -/
def moves (r : Resolution) (e : Engine) (d : Dispute) (burned : Amount) : List Move :=
  r.payouts e d burned ++ [⟨e.accounts.incentiveEarmark, e.treasury.reserve, r.returned d⟩]

/-- The events once the record is marked. -/
def report (r : Resolution) (d : Dispute) (burned : Amount) : List (DisputeId × Event) :=
  (if burned.isZero then [] else [(d.id, .burned r.settlement.burned r.settlement.dust)]) ++
    (if r.settlement.incentive.isZero then []
      else [(d.id, .incentivePaid d.initiator r.settlement.incentive)]) ++
    (if r.applyFallback then [(d.id, .fallbackLicenseApplied d.fallback.termsRef)] else []) ++
    [(d.id, .resolved r.outcome r.settlement.toInitiator r.settlement.toCounterparty
      r.settlement.burned r.settlement.dust r.settlement.incentive)]

/-- What holds of the four events that there can be holds of all that are reported. -/
theorem forall_mem_report {r : Resolution} {d : Dispute} {burned : Amount}
    {P : DisputeId × Event → Prop}
    (hburned : P (d.id, .burned r.settlement.burned r.settlement.dust))
    (hpaid : P (d.id, .incentivePaid d.initiator r.settlement.incentive))
    (hlicensed : P (d.id, .fallbackLicenseApplied d.fallback.termsRef))
    (hresolved : P (d.id, .resolved r.outcome r.settlement.toInitiator r.settlement.toCounterparty
      r.settlement.burned r.settlement.dust r.settlement.incentive)) :
    ∀ p ∈ r.report d burned, P p := by
  intro p hp
  simp only [report, List.mem_append, List.mem_ite_nil_left, List.mem_ite_nil_right,
    List.mem_singleton] at hp
  rcases hp with ((⟨-, rfl⟩ | ⟨-, rfl⟩) | ⟨-, rfl⟩) | rfl
  · exact hburned
  · exact hpaid
  · exact hlicensed
  · exact hresolved

/-- The record that it leaves, with a release that is still pending or without. -/
def mark (r : Resolution) (d : Dispute) (waiting : Option Release) (now : Timestamp) : Dispute :=
  ({ d with pendingRelease := waiting } : Dispute).resolve r.outcome r.settlement now

/-- The compensations that the resolution of a dispute may issue. -/
def issues (id : DisputeId) : Undo → Prop
  | .transfer _ _ _ | .record _ => True
  | .unfreeze id' _ => id' = id
  | .freeze _ | .harassment _ => False

end Resolution

/-- How the asset of a dispute is released: now, or later where the configuration allows it. The
registry, the record and the events after it. -/
inductive Engine.Releases (e : Engine) (d : Dispute) (release : Release) :
    Registry → Dispute → List (DisputeId × Event) → Prop
  | now {registry : Registry} (done : e.registry.unfreeze d.id release = .ok registry) :
      Releases e d release registry d []
  | later {err : RegistryError} (policy : e.config.unfreezePolicy = .bestEffort)
      (refused : e.registry.unfreeze d.id release = .error err) :
      Releases e d release e.registry { d with pendingRelease := some release }
        [(d.id, .releasePending err.message)]

/-- What a resolution leaves, given the moves and the events before it. -/
inductive Resolves (e : Engine) (d : Dispute) (r : Resolution) (moves : List Move)
    (events : List (DisputeId × Event)) : Footprint → Prop
  | intro {burned : Amount} {freed registry : Registry} {released : Dispute}
      {pending : List (DisputeId × Event)} {store : Store} (admitted : r.toBurn d = .ok burned)
      (releases : e.Releases d r.release freed released pending)
      (written : e.store.write { record := released.resolve r.outcome r.settlement e.now } =
        .ok store)
      (licensed : if r.applyFallback then
          freed.applyFallback d.id d.fallback.termsRef = .ok registry
        else registry = freed) :
      Resolves e d r moves events {
        moves := moves ++ r.moves e d burned
        registry
        treasury := e.treasury
        store
        events := events ++ pending ++ r.report d burned }

/-! ### A resolution that fails -/

/-- Why a resolution fails, given the moves before it. -/
inductive Resolution.Stuck (r : Resolution) (e : Engine) (d : Dispute) (done : List Move) :
    DisputeError → Prop
  | unbalanced {err : DisputeError} (refused : r.toBurn d = .error err) : Stuck r e d done err
  | unpaid {burned : Amount} {before after : List Move} {m : Move} {err : LedgerError}
      (admitted : r.toBurn d = .ok burned) (plan : before ++ m :: after = r.moves e d burned)
      (refused : e.ledger.Refuses (done ++ before) m err) : Stuck r e d done (.ledger err)
  | unreleased {err : RegistryError} (policy : e.config.unfreezePolicy = .strict)
      (refused : e.registry.unfreeze d.id r.release = .error err) :
      Stuck r e d done (.registry err)
  | unwritten {record : Dispute} {err : StoreError} (same : record.id = d.id)
      (refused : e.store.write { record } = .error err) : Stuck r e d done (.store err)
  | unlicensed {freed : Registry} {released : Dispute} {pending : List (DisputeId × Event)}
      {err : RegistryError} (releases : e.Releases d r.release freed released pending)
      (refused : freed.applyFallback d.id d.fallback.termsRef = .error err) :
      Stuck r e d done (.registry err)

theorem Engine.Releases.frame {e : Engine} {d released : Dispute} {release : Release}
    {registry : Registry} {pending : List (DisputeId × Event)}
    (h : e.Releases d release registry released pending) :
    registry.licenses = e.registry.licenses ∧ registry.faults = e.registry.faults ∧
      ∃ waiting, released = { d with pendingRelease := waiting } := by
  cases h with
  | now done =>
    obtain ⟨-, -, rfl⟩ := Registry.unfreeze_eq_ok_iff.1 done
    exact ⟨rfl, rfl, d.pendingRelease, rfl⟩
  | later _ _ => exact ⟨rfl, rfl, some release, rfl⟩

/-- Of the release there is nothing to tell unless it is put off. -/
theorem Engine.Releases.forall_mem_pending {e : Engine} {d released : Dispute} {release : Release}
    {registry : Registry} {pending : List (DisputeId × Event)} {P : DisputeId × Event → Prop}
    (h : e.Releases d release registry released pending)
    (hpending : ∀ reason, P (d.id, .releasePending reason)) : ∀ p ∈ pending, P p := by
  cases h with
  | now done => exact List.forall_mem_nil _
  | later policy refused => exact List.forall_mem_singleton.2 (hpending _)

namespace Resolves

variable {e : Engine} {d : Dispute} {r : Resolution} {moves : List Move}
  {events : List (DisputeId × Event)} {f : Footprint}

/-- What a resolution writes is the record handed to it, marked. -/
theorem exists_written (h : Resolves e d r moves events f) :
    ∃ waiting, e.store.write { record := r.mark d waiting e.now } = .ok f.store := by
  cases h with
  | intro admitted releases written licensed =>
    obtain ⟨-, -, waiting, hwaiting⟩ := releases.frame
    rw [hwaiting] at written
    exact ⟨waiting, written⟩

/-- The moves of a resolution follow those before it. -/
theorem exists_moves (h : Resolves e d r moves events f) :
    ∃ burned, r.toBurn d = .ok burned ∧ f.moves = moves ++ r.moves e d burned := by
  cases h with
  | intro admitted releases written licensed => exact ⟨_, admitted, rfl⟩

end Resolves

/-! ### Following it -/

namespace Transaction

variable {start : Engine} {issued : Undo → Prop} {s : Session} {E : DisputeError → Session → Prop}
  {d : Dispute} {r : Resolution} {moves : List Move} {events : List (DisputeId × Event)}

theorem ends_payOut {burned : Amount} {Q : Unit → Session → Prop}
    (hs : s.At start issued (start.moving moves events))
    (hmay : ∀ u, Resolution.issues d.id u → issued u)
    (hfail : ∀ err s' before m after, Trail start issued s'.journal s'.engine →
      before ++ m :: after = r.payouts start d burned →
      start.ledger.Refuses (moves ++ before) m err → E (.ledger err) s')
    (hok : ∀ s', s'.At start issued (start.moving (moves ++ r.payouts start d burned) events) →
      Q () s') :
    (payOut d r.settlement burned).Ends s Q E := by
  unfold payOut
  refine .bind (ends_engine hs.shows ?_)
  dsimp only [Engine.moving, Footprint.after]
  -- each of the three moves can fail, after those before it
  refine .bind (ends_move hs (hmay _ trivial) (fun err h => ?_) fun s₁ hs₁ => ?_)
  · refine hfail err s [] _ _ hs.trail rfl ?_
    rw [List.append_nil]
    exact h
  refine .bind (ends_move hs₁ (hmay _ trivial) (fun err h => ?_) fun s₂ hs₂ => ?_)
  · exact hfail err s₁ [_] _ _ hs₁.trail rfl h
  refine ends_move hs₂ (hmay _ trivial) (fun err h => ?_) fun s₃ hs₃ => ?_
  · refine hfail err s₂ [_, _] _ _ hs₂.trail rfl ?_
    simpa only [Engine.moving, Footprint.move, List.append_assoc, List.cons_append,
      List.nil_append] using h
  · refine hok s₃ ?_
    simpa only [Engine.moving, Footprint.move, Resolution.payouts, List.append_assoc,
      List.cons_append, List.nil_append] using hs₃

theorem ends_returnEarmark {Q : Unit → Session → Prop}
    (hs : s.At start issued (start.moving moves events))
    (hmay : ∀ u, Resolution.issues d.id u → issued u)
    (hfail : ∀ err, start.ledger.Refuses moves
      ⟨start.accounts.incentiveEarmark, start.treasury.reserve, r.returned d⟩ err →
      E (.ledger err) s)
    (hok : ∀ s', s'.At start issued (start.moving (moves ++
      [⟨start.accounts.incentiveEarmark, start.treasury.reserve, r.returned d⟩]) events) →
      Q () s') :
    (returnEarmark d r.outcome).Ends s Q E := by
  unfold returnEarmark
  refine .bind (ends_engine hs.shows ?_)
  unfold Resolution.returned at hfail hok
  by_cases hdefault : r.outcome = .defaultLicenseApplied
  · -- nothing goes back, which counts as a move of nothing
    simp only [hdefault, ne_eq, not_true_eq_false, if_false]
    rw [if_pos hdefault] at hok
    exact ends_pure (hok s (hs.skip rfl))
  · simp only [hdefault, ne_eq, not_false_eq_true, if_true]
    rw [if_neg hdefault] at hfail hok
    exact ends_move hs (hmay _ trivial) hfail hok

theorem ends_release {release : Release} {Q : Dispute → Session → Prop}
    (hs : s.At start issued (start.moving moves events))
    (hmay : ∀ u, Resolution.issues d.id u → issued u)
    (hknown : ∃ d', start.store.get? d.id = some d' ∧ d'.initiator = d.initiator)
    (hfail : ∀ err, start.config.unfreezePolicy = .strict →
      start.registry.unfreeze d.id release = .error err → E (.registry err) s)
    (hok : ∀ s' registry released pending, start.Releases d release registry released pending →
      s'.At start issued ⟨moves, registry, start.treasury, start.store, events ++ pending⟩ →
      Q released s') :
    (Transaction.release d release).Ends s Q E := by
  unfold Transaction.release
  refine .bind (ends_tryUnfreeze hs (hmay _ rfl) rfl hknown (fun err h => ?_)
    fun s₁ registry h hs₁ => ?_)
  · refine .bind (ends_engine hs.shows ?_)
    split
    case h_1 hpolicy => exact ends_throw (hfail err hpolicy h)
    case h_2 hpolicy =>
      refine .bind (ends_emit hs fun s₂ hs₂ => ends_pure ?_)
      exact hok s₂ start.registry _ _ (.later hpolicy h) hs₂
  · refine ends_pure (hok s₁ registry d [] (.now h) ?_)
    rw [List.append_nil]
    exact hs₁

/-- **A resolution** either leaves what `Resolves` says, or gets stuck with everything undoable. -/
theorem ends_resolve {Q : Unit → Session → Prop}
    (hs : s.At start issued (start.moving moves events))
    (hmay : ∀ u, Resolution.issues d.id u → issued u)
    (hknown : ∃ d', start.store.get? d.id = some d' ∧ d'.initiator = d.initiator ∧ d'.id = d.id)
    (hfail : ∀ err s', Trail start issued s'.journal s'.engine → r.Stuck start d moves err →
      E err s')
    (hok : ∀ s' f, Resolves start d r moves events f → s'.Shows start f → Q () s') :
    (resolve d r).Ends s Q E := by
  obtain ⟨previous, hget, hholder, hid⟩ := hknown
  unfold resolve
  refine .bind (ends_ask hs.shows (fun err h => ?_) fun burned hadmitted => ?_)
  · exact hfail err s hs.trail (.unbalanced h)
  refine .bind (ends_payOut hs hmay (fun err s' before m after htrail hplan h => ?_)
    fun s₁ hs₁ => ?_)
  · have hplan' : before ++ m :: (after ++ [⟨start.accounts.incentiveEarmark,
        start.treasury.reserve, r.returned d⟩]) = r.moves start d burned := by
      rw [Resolution.moves, ← hplan, List.append_assoc, List.cons_append]
    exact hfail _ s' htrail (.unpaid hadmitted hplan' h)
  refine .bind (ends_returnEarmark hs₁ hmay (fun err h => ?_) fun s₂ hs₂ => ?_)
  · exact hfail _ s₁ hs₁.trail (.unpaid hadmitted rfl h)
  rw [List.append_assoc, ← Resolution.moves] at hs₂
  refine .bind (ends_release hs₂ hmay ⟨previous, hget, hholder⟩ (fun err hpolicy h => ?_)
    fun s₃ freed released pending hreleases hs₃ => ?_)
  · exact hfail _ s₂ hs₂.trail (.unreleased hpolicy h)
  obtain ⟨-, -, waiting, hwaiting⟩ := hreleases.frame
  have hsame : released.id = d.id := by rw [hwaiting]
  refine .bind (ends_engine hs₃.shows ?_)
  -- the record that is to be put back on a failure is known
  refine .bind (ends_ask hs₃.shows (fun err h => ?_) fun previous' hprevious => ?_)
  · have hfound : start.dispute d.id = .ok previous := Engine.dispute_eq_ok_iff.2 hget
    have hmissing : start.dispute d.id = .error err := h
    rw [hfound] at hmissing
    cases hmissing
  have hfound : start.store.get? d.id = some previous' := Engine.dispute_eq_ok_iff.1 hprevious
  rw [hget] at hfound
  cases hfound
  refine .bind (ends_replace hs₃ (hmay _ trivial) rfl (hsame ▸ hget) (hid.trans hsame.symm)
    (fun err h => ?_) fun s₄ store hwritten hs₄ => ?_)
  · have hresolved : (released.resolve r.outcome r.settlement start.now).id = d.id := hsame
    exact hfail _ s₃ hs₃.trail (.unwritten hresolved h)
  -- an event that is not reported counts as an empty report
  refine ends_emit_unless hs₄ fun s₅ hs₅ => ?_
  refine ends_emit_unless hs₅ fun s₆ hs₆ => ?_
  have hdone : ∀ s' registry, (if r.applyFallback then
        freed.applyFallback d.id d.fallback.termsRef = .ok registry else registry = freed) →
      s'.Shows start ⟨moves ++ r.moves start d burned, registry, start.treasury, store,
        events ++ pending ++ r.report d burned⟩ → Q () s' := fun s' registry hlicensed hs' =>
    hok s' _ (.intro hadmitted hreleases hwritten hlicensed) hs'
  simp only [Resolution.report, ← List.append_assoc] at hdone
  cases hlicense : r.applyFallback with
  | false =>
    simp only [hlicense, Bool.false_eq_true, if_false, List.append_nil] at hdone ⊢
    exact ends_emit_last hs₆.shows fun s₇ hs₇ => hdone s₇ freed rfl hs₇
  | true =>
    simp only [hlicense, if_true] at hdone ⊢
    refine .bind (ends_applyFallback hs₆.shows (fun err h => ?_) fun s₇ registry happlied hs₇ => ?_)
    · exact hfail _ s₆ hs₆.trail (.unlicensed hreleases h)
    refine .bind (ends_emit_last hs₇ fun s₈ hs₈ => ?_)
    exact ends_emit_last hs₈ fun s₉ hs₉ => hdone s₉ registry happlied hs₉

end Transaction

end Arbitration
