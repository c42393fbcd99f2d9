import Arbitration.Proofs.Defense
import Arbitration.Proofs.Finality

/-!
# Negotiating and enforcing never overlap

A dispute has one deadline at a time (`Dispute.deadline`). Up to that instant and including it
the parties negotiate, and from then on the dispute can be enforced. An operation that negotiates
looks at the deadline with one comparison and an enforcement with the opposite one, so only one of
the two can succeed at any instant.

A negotiation may replace the deadline, but **only by a later one**: a deposit trades the stake
deadline for the resolution deadline, which a valid configuration puts after it, and another round
counts from a later start. So a dispute cannot be enforced in the instant in which it was
negotiated about.
-/

namespace Arbitration

/-- Whether an operation is a part of the negotiation about a dispute. -/
def Operation.negotiates (id : DisputeId) : Operation → Bool
  | deposit _ other | grantSubsidy _ other | submit _ other _ | accept _ other
  | counter _ other _ => other = id
  | initiate .. | enforce .. | retryRelease .. => false

namespace Engine

variable {e : Engine} {id : DisputeId} {d : Dispute} {t : Timestamp}

/-- It is too early to enforce the dispute, for anybody. -/
def TooEarly (e : Engine) (id : DisputeId) : Prop :=
  ∃ deadline, ∀ caller, (e.perform (.enforce caller id)).1 = .error (.tooEarly id deadline)

/-- The dispute is open, and its deadline has not passed. -/
def InTime (e : Engine) (id : DisputeId) : Prop :=
  ∃ d deadline, e.store.get? id = some d ∧ d.resolved = false ∧
    d.deadline e.config = .ok deadline ∧ e.now ≤ deadline

/-! ### Enforcing in time -/

/-- An enforcement that is not admitted fails with that error. -/
theorem perform_enforce_refused {err : DisputeError} (caller : AccountId)
    (h : e.admitEnforcement id = .error err) :
    (e.perform (.enforce caller id)).1 = .error err := by
  have hrun : (Operation.enforce caller id).transaction { engine := e } =
      .error err { engine := e } := by
    show EStateM.map _ (Transaction.enforce id) _ = _
    unfold EStateM.map Transaction.enforce
    simp only [bind, EStateM.bind, Transaction.ask, h]
  rw [perform, Transaction.run, hrun]

/-- Up to the deadline an enforcement is not admitted. -/
theorem admitEnforcement_eq_tooEarly (hget : e.store.get? id = some d)
    (hopen : d.resolved = false) (hdated : d.deadline e.config = .ok t) (htime : e.now ≤ t) :
    e.admitEnforcement id = .error (.tooEarly id t) := by
  have hfound : e.openDispute id = .ok d := openDispute_eq_ok_iff.2 ⟨hget, hopen⟩
  -- the deadline that applies is the one that the enforcement looks at
  have hdeadline : (if d.fullyStaked then d.resolutionDeadline e.config
      else d.stakeDeadline e.config).mapError DisputeError.arithmetic = .ok t :=
    mapError_eq_ok_iff.2 hdated
  rw [admitEnforcement, hfound]
  cases hstaked : d.fullyStaked with
  | true =>
    rw [hstaked, if_pos rfl] at hdeadline
    simp only [bind, Except.bind, hstaked, if_true, hdeadline, if_pos htime]
    rfl
  | false =>
    rw [hstaked, if_neg Bool.false_ne_true] at hdeadline
    simp only [bind, Except.bind, hstaked, Bool.false_eq_true, if_false, hdeadline, if_pos htime]
    rfl

theorem InTime.tooEarly (h : e.InTime id) : e.TooEarly id := by
  obtain ⟨d, deadline, hget, hopen, hdated, htime⟩ := h
  exact ⟨deadline, fun caller =>
    perform_enforce_refused caller (admitEnforcement_eq_tooEarly hget hopen hdated htime)⟩

/-- What is written with a deadline ahead is in time. -/
theorem InTime.of_write {f : Footprint} {w : StoreWrite} (ledger : Ledger)
    (hwritten : e.store.write w = .ok f.store) (hid : w.record.id = id)
    (hopen : w.record.resolved = false) (hdated : w.record.deadline e.config = .ok t)
    (htime : e.now ≤ t) : (e.having f ledger).InTime id := by
  refine ⟨w.record, t, ?_, hopen, hdated, htime⟩
  exact (Store.get?_of_write hwritten id).trans (if_pos hid)

end Engine

/-! ### Negotiating -/

/-- A proposal stands only where both have staked, so an acceptance has looked at the deadline
that applies. -/
theorem Engine.Sound.deadline_of_acceptance {e : Engine} {caller : AccountId} {id : DisputeId}
    {a : Engine.Acceptance} (h : e.Sound) (hadmitted : e.admitAcceptance caller id = .ok a) :
    ∃ t, a.record.deadline e.config = .ok t ∧ e.now ≤ t := by
  obtain ⟨hget, -, -, ⟨terms, hterms, -⟩, ⟨t, ht, htime⟩, -⟩ :=
    Engine.admitAcceptance_eq_ok_iff.1 hadmitted
  have hproposed : a.record.proposal.isSome = true := by
    rw [hterms]
    rfl
  have hstaked := (h.records _ _ hget).proposed hproposed
  exact ⟨t, (Dispute.deadline_of_staked hstaked).trans ht, htime⟩

/-- **One operation.** The negotiation about a dispute goes on in time, and leaves the dispute in
time or resolved. -/
theorem Succeeds.inTime {e : Engine} {op : Operation} {answer : Answer} {f : Footprint}
    {id : DisputeId} (hs : Succeeds e op answer f) (h : e.Sound)
    (hop : op.negotiates id = true) (ledger : Ledger) :
    e.InTime id ∧
      ((e.having f ledger).isResolved id = false → (e.having f ledger).InTime id) := by
  cases hs with
  | initiate admitted setAside counted frozen dated written => cases hop
  | @deposit caller id' dep total store admitted added written =>
    obtain rfl := of_decide_eq_true hop
    obtain ⟨hget, hopen, -, hstaked, ⟨t, ht, htime⟩, hdated, htime', -⟩ :=
      Engine.admitDeposit_eq_ok_iff.1 admitted
    have hid := h.keyed _ _ hget
    refine ⟨⟨dep.record, t, hget, hopen, ?_, htime⟩, fun _ => ?_⟩
    · rw [Dispute.deadline_of_unstaked hstaked, ht]
    · -- from now on the resolution deadline applies, and the deposit has looked at that too
      refine .of_write ledger written hid hopen ?_ htime'
      rw [Dispute.deadline_of_staked]
      · exact hdated
      · rw [Dispute.fullyStaked, (h.records _ _ hget).staked]
        rfl
  | @grantSubsidy caller id' d amount store admitted written =>
    obtain rfl := of_decide_eq_true hop
    obtain ⟨hget, hopen, -, hstaked, -, ⟨t, ht, htime⟩, -⟩ :=
      Engine.admitSubsidy_eq_ok_iff.1 admitted
    have hid := h.keyed _ _ hget
    have hdated : d.deadline e.config = .ok t := by
      rw [Dispute.deadline_of_unstaked hstaked, ht]
    exact ⟨⟨d, t, hget, hopen, hdated, htime⟩, fun _ =>
      .of_write ledger written hid hopen hdated htime⟩
  | @submit caller id' p d store admitted written =>
    obtain rfl := of_decide_eq_true hop
    obtain ⟨-, hget, hopen, hstaked, -, -, ⟨t, ht, htime⟩, -⟩ :=
      Engine.admitProposal_eq_ok_iff.1 admitted
    have hid := h.keyed _ _ hget
    have hdated : d.deadline e.config = .ok t := by
      rw [Dispute.deadline_of_staked hstaked, ht]
    exact ⟨⟨d, t, hget, hopen, hdated, htime⟩, fun _ =>
      .of_write ledger written hid hopen hdated htime⟩
  | @accept caller id' a store admitted one written =>
    obtain rfl := of_decide_eq_true hop
    obtain ⟨hget, hopen, -⟩ := Engine.admitAcceptance_eq_ok_iff.1 admitted
    obtain ⟨t, hdated, htime⟩ := h.deadline_of_acceptance admitted
    obtain ⟨i, c, haccept⟩ := a.record.accept_eq a.party
    have hid := h.keyed _ _ hget
    rw [haccept] at written
    exact ⟨⟨a.record, t, hget, hopen, hdated, htime⟩, fun _ =>
      .of_write ledger written hid hopen hdated htime⟩
  | @agree caller id' a f admitted both resolves =>
    obtain rfl := of_decide_eq_true hop
    obtain ⟨hget, hopen, -⟩ := Engine.admitAcceptance_eq_ok_iff.1 admitted
    obtain ⟨t, hdated, htime⟩ := h.deadline_of_acceptance admitted
    refine ⟨⟨a.record, t, hget, hopen, hdated, htime⟩, fun hunresolved => ?_⟩
    -- the second acceptance resolves the dispute
    obtain ⟨d, hd, hresolved, -⟩ := resolves.concluded ledger
    rw [a.record.accept_id a.party, h.keyed _ _ hget] at hd
    rw [Engine.isResolved, hd, Option.any_some, hresolved] at hunresolved
    cases hunresolved
  | @counter caller id' r c routed next deadline store admitted routes opened dated written =>
    obtain rfl := of_decide_eq_true hop
    obtain ⟨hget, hopen, -, hstaked, ⟨t, ht, htime⟩, -⟩ := Engine.admitCounter_eq_ok_iff.1 admitted
    obtain ⟨startTime, hstart, -, -, rfl⟩ := Dispute.counterRound_eq_ok_iff.1 opened
    have hid := h.keyed _ _ hget
    refine ⟨⟨c.record, t, hget, hopen, ?_, htime⟩, fun _ => ?_⟩
    · rw [Dispute.deadline_of_staked hstaked, ht]
    · -- the round counts from a later start
      have hlater : t ≤ deadline := Timestamp.addSeconds_le_of_later hstart ht dated
      refine .of_write ledger written hid hopen ?_ (Timestamp.le_trans htime hlater)
      rw [Dispute.deadline_of_staked]
      · exact dated
      · exact hstaked
  | lapse admitted draws resolves => cases hop
  | deadlock admitted resolves => cases hop
  | retry admitted freed written => cases hop

/-- **Negotiating and enforcing never overlap.** In every state of a clean run: an operation that
negotiates about a dispute succeeds only while it is too early for anybody to enforce the dispute,
and if it leaves the dispute unresolved, it is still too early in the same instant afterwards. If
somebody can enforce the dispute, every operation that negotiates about it fails. -/
theorem negotiation_excludes_enforcement {start : Engine} {turns : List Turn}
    (h : CleanRun start turns) (id : DisputeId) :
    (∀ op answer e', op.negotiates id = true → (start.run turns).perform op = (.ok answer, e') →
      (start.run turns).TooEarly id ∧ (e'.isResolved id = false → e'.TooEarly id)) ∧
      ∀ caller answer e', (start.run turns).perform (.enforce caller id) = (.ok answer, e') →
        ∀ op, op.negotiates id = true → ∃ err, ((start.run turns).perform op).1 = .error err := by
  have hsound := h.sound
  have hearly : ∀ op answer e', op.negotiates id = true →
      (start.run turns).perform op = (.ok answer, e') →
        (start.run turns).TooEarly id ∧ (e'.isResolved id = false → e'.TooEarly id) := by
    intro op answer e' hop hdone
    obtain ⟨f, ledger, hsucceeds, -, rfl⟩ := Engine.perform_ok hsound.keyed hdone
    obtain ⟨hbefore, hafter⟩ := hsucceeds.inTime hsound hop ledger
    exact ⟨hbefore.tooEarly, fun hunresolved => (hafter hunresolved).tooEarly⟩
  refine ⟨hearly, fun caller answer e' henforced op hop => ?_⟩
  rcases hdone : (start.run turns).perform op with ⟨err | answer', e''⟩
  · exact ⟨err, rfl⟩
  · -- had it succeeded, the enforcement would have been too early
    obtain ⟨⟨deadline, htooEarly⟩, -⟩ := hearly op answer' e'' hop hdone
    have hrefused := htooEarly caller
    rw [henforced] at hrefused
    cases hrefused

namespace Sample

/-- The last second of the stake window. -/
def windowClosing : List Turn := filed ++ [.clock oneWeekLater]

end Sample

/-- In the last second of the stake window Bob can match the sample dispute, and nobody can enforce
it before or after he does. A day later it can be enforced, and Bob cannot match it any more. -/
theorem last_second_is_for_the_deposit :
    CleanRun Sample.engine Sample.windowClosing ∧ CleanRun Sample.engine Sample.silence ∧
      ((Sample.engine.run Sample.windowClosing).perform (.deposit Sample.bob .first)).1 =
        .ok .done ∧
      (Sample.engine.run Sample.windowClosing).TooEarly .first ∧
      ((Sample.engine.run Sample.windowClosing).perform
        (.deposit Sample.bob .first)).2.TooEarly .first ∧
      ∃ err, ((Sample.engine.run Sample.silence).perform (.deposit Sample.bob .first)).1 =
        .error err := by
  have hclosing : CleanRun Sample.engine Sample.windowClosing :=
    ⟨Sample.engine_fresh, by decide +kernel⟩
  have hclosed : CleanRun Sample.engine Sample.silence := ⟨Sample.engine_fresh, by decide +kernel⟩
  have hdeposit : ((Sample.engine.run Sample.windowClosing).perform
      (.deposit Sample.bob .first)).1 = .ok .done := by rfl
  have henforced : ((Sample.engine.run Sample.silence).perform
      (.enforce Sample.bob .first)).1 = .ok (.ended .defaultLicenseApplied) := by rfl
  have hunresolved : ((Sample.engine.run Sample.windowClosing).perform
      (.deposit Sample.bob .first)).2.isResolved .first = false := by decide +kernel
  obtain ⟨hearly, -⟩ := negotiation_excludes_enforcement hclosing .first
  obtain ⟨hbefore, hafter⟩ := hearly (.deposit Sample.bob .first) _ _ rfl (Prod.ext hdeposit rfl)
  obtain ⟨-, hlate⟩ := negotiation_excludes_enforcement hclosed .first
  exact ⟨hclosing, hclosed, hdeposit, hbefore, hafter hunresolved,
    hlate Sample.bob _ _ (Prod.ext henforced rfl) (.deposit Sample.bob .first) rfl⟩

end Arbitration
