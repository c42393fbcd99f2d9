import Arbitration.Proofs.Completion
import Arbitration.Proofs.Turns

/-!
# No agreement without consent

An agreement is a statement about the past: the oracle proposed the terms, and both parties
accepted **these** terms, without another round or another proposal in between. The record has only
a proposal and two marks, which several operations set, clear and carry along. What they stand for
is said over the history of the run, the list of all operations that have succeeded so far
(`Engine.history`).

`Dispute.Backed` is the invariant: for a proposal that stands there is the submission that put it
there, and for each mark an acceptance since. `Engine.Negotiates` lists what an operation can do to
it: drop the proposal, put down a new one, or carry it along with at most the mark of the caller.
-/

namespace Arbitration

namespace Operation

/-- Whether the operation opens another round of a dispute, or makes a new proposal in it. -/
def renews (id : DisputeId) : Operation → Bool
  | submit _ id' _ | counter _ id' _ => id' = id
  | _ => false

/-- It is about that dispute then. -/
theorem dispute_of_renews {op : Operation} {id : DisputeId} (e : Engine)
    (h : op.renews id = true) : op.dispute e = id := by
  refine dispute_of_named ?_
  cases op with
  | submit caller id' p => exact congrArg some (of_decide_eq_true h)
  | counter caller id' r => exact congrArg some (of_decide_eq_true h)
  | _ => cases h

end Operation

/-! ### Proposals with a past -/

/-- For a proposal that stands the history has the submission that put it there, by the oracle and
under a signature that verifies. No new proposal and no other round came after it, and each party
that is marked has accepted since. -/
def Dispute.Backed (oracle : OracleIdentity) (past : List Operation) (d : Dispute) : Prop :=
  ∀ terms, d.proposal = some terms → ∃ p before after,
    past = before ++ .submit oracle.account d.id p :: after ∧
      p.text = terms.text ∧ oracle.verify d.id p = .ok () ∧
      (∀ op ∈ after, op.renews d.id = false) ∧
      ∀ party, d.hasAccepted party = true → .accept (d.account party) d.id ∈ after

/-- What a successful operation makes of the terms of its dispute. -/
inductive Engine.Negotiates (e : Engine) (op : Operation) : Dispute → Prop
  | clears {next : Dispute} (none : next.proposal = none) : Negotiates e op next
  | proposes {d : Dispute} {p : SignedProposal} (call : op = .submit e.oracle.account d.id p)
      (verified : e.oracle.verify d.id p = .ok ())
      (unmarked : ∀ party, d.hasAccepted party = false) :
      Negotiates e op { d with proposal := some ⟨p.text, p.nonce, p.signature, e.now⟩ }
  | keeps {d next : Dispute} (found : e.store.get? d.id = some d) (number : next.id = d.id)
      (same : next.proposal = d.proposal ∧ next.account = d.account)
      (marked : ∀ party, next.hasAccepted party = true →
        d.hasAccepted party = true ∨ op = .accept (d.account party) d.id)
      (quiet : op.renews d.id = false) : Negotiates e op next

namespace Dispute

variable {oracle : OracleIdentity} {past : List Operation} {d next : Dispute} {op : Operation}

/-- A later operation that brings no new proposal and no other round leaves a proposal with its
past, and may add a mark of its own. -/
theorem Backed.append (h : d.Backed oracle past) (hid : next.id = d.id)
    (hproposal : next.proposal = d.proposal) (haccount : next.account = d.account)
    (hmarked : ∀ party, next.hasAccepted party = true →
      d.hasAccepted party = true ∨ op = .accept (d.account party) d.id)
    (hquiet : op.renews d.id = false) : next.Backed oracle (past ++ [op]) := by
  intro terms hterms
  obtain ⟨p, before, after, hpast, htext, hverify, hafter, haccepted⟩ :=
    h terms (hproposal ▸ hterms)
  rw [hid, haccount]
  refine ⟨p, before, after ++ [op], ?_, htext, hverify, fun op' hop' => ?_, fun party hparty => ?_⟩
  · rw [hpast, List.append_assoc, List.cons_append]
  · rcases List.mem_append.1 hop' with hold | hnew
    · exact hafter op' hold
    · rw [List.mem_singleton.1 hnew]
      exact hquiet
  · rcases hmarked party hparty with hold | hnew
    · exact List.mem_append_left _ (haccepted party hold)
    · rw [hnew]
      exact List.mem_append_right _ (List.mem_singleton_self _)

theorem account_of_partyOf {caller : AccountId} {p : Party} (h : d.partyOf caller = some p) :
    caller = d.account p := by
  have hrole := Engine.partyOf_eq_some_iff.1 h
  cases p with
  | initiator => exact hrole
  | counterparty => exact hrole.1

/-- An acceptance marks the one party only. -/
theorem hasAccepted_of_accept {p party : Party} (h : (d.accept p).hasAccepted party = true) :
    d.hasAccepted party = true ∨ party = p := by
  cases p <;> cases party
  · exact .inr rfl
  · exact .inl h
  · exact .inl h
  · exact .inr rfl

end Dispute

/-! ### Every operation -/

namespace Engine

variable {e : Engine} {op : Operation} {past : List Operation} {next : Dispute}

/-- **One operation** leaves a proposal with its past, whatever it makes of the terms. -/
theorem Negotiates.backed (h : e.Negotiates op next)
    (hbefore : ∀ id d, e.store.get? id = some d → d.Backed e.oracle past) :
    next.Backed e.oracle (past ++ [op]) := by
  cases h with
  | clears none =>
    intro terms hterms
    rw [none] at hterms
    cases hterms
  | @proposes d p call verified unmarked =>
    intro terms hterms
    cases hterms
    refine ⟨p, past, [], by rw [call], rfl, verified, nofun, fun party hparty => ?_⟩
    change d.hasAccepted party = true at hparty
    rw [unmarked party] at hparty
    cases hparty
  | keeps found number same marked quiet =>
    exact (hbefore _ _ found).append number same.1 same.2 marked quiet

end Engine

namespace Engine.Negotiates

variable {e : Engine} {op : Operation} {id : DisputeId} {next : Dispute}

/-- A record that has the same terms and marks carries them along. -/
theorem of_same {d : Dispute} (hsound : e.Sound) (hget : e.store.get? id = some d)
    (hnumber : next.id = d.id) (hproposal : next.proposal = d.proposal)
    (haccount : next.account = d.account) (hmarks : next.hasAccepted = d.hasAccepted)
    (hquiet : op.renews id = false) : e.Negotiates op next := by
  have hid := hsound.keyed id d hget
  refine .keeps (hid.symm ▸ hget) hnumber ⟨hproposal, haccount⟩ (fun party hmark => ?_)
    (hid.symm ▸ hquiet)
  exact .inl (hmarks ▸ hmark)

/-- An acceptance carries them along with the mark of its caller. -/
theorem of_acceptance {caller : AccountId} {a : Acceptance} (hsound : e.Sound)
    (hadmitted : e.admitAcceptance caller id = .ok a)
    (hnumber : next.id = (a.record.accept a.party).id)
    (hproposal : next.proposal = (a.record.accept a.party).proposal)
    (haccount : next.account = (a.record.accept a.party).account)
    (hmarks : next.hasAccepted = (a.record.accept a.party).hasAccepted) :
    e.Negotiates (.accept caller id) next := by
  obtain ⟨hget, -, hparty, -⟩ := admitAcceptance_eq_ok_iff.1 hadmitted
  obtain ⟨i, c, haccept⟩ := a.record.accept_eq a.party
  have hid := hsound.keyed id _ hget
  rw [haccept] at hnumber hproposal haccount
  refine .keeps (d := a.record) (hid.symm ▸ hget) hnumber ⟨hproposal, haccount⟩
    (fun party hmark => ?_) rfl
  rw [hmarks] at hmark
  refine (Dispute.hasAccepted_of_accept hmark).imp_right fun hsame => ?_
  rw [hsame, ← Dispute.account_of_partyOf hparty, hid]

end Engine.Negotiates

/-- **Every successful operation** does one of these things to the terms of its dispute. -/
theorem Succeeds.negotiates {e : Engine} {op : Operation} {answer : Answer} {f : Footprint}
    (hs : Succeeds e op answer f) (h : e.Sound) :
    ∃ w, e.store.write w = .ok f.store ∧ w.record.id = op.dispute e ∧ e.Negotiates op w.record := by
  cases hs with
  | initiate admitted setAside counted frozen dated written =>
    exact ⟨_, written, rfl, .clears rfl⟩
  | deposit admitted added written =>
    obtain ⟨hget, -⟩ := Engine.admitDeposit_eq_ok_iff.1 admitted
    have hid := h.keyed _ _ hget
    exact ⟨_, written, hid, .of_same h hget rfl rfl rfl rfl rfl⟩
  | grantSubsidy admitted written =>
    obtain ⟨hget, -⟩ := Engine.admitSubsidy_eq_ok_iff.1 admitted
    have hid := h.keyed _ _ hget
    exact ⟨_, written, hid, .of_same h hget rfl rfl rfl rfl rfl⟩
  | @submit caller id p d store admitted written =>
    obtain ⟨horacle, hget, -, -, hnone, -, -, hverify, -⟩ :=
      Engine.admitProposal_eq_ok_iff.1 admitted
    have hid := h.keyed id d hget
    refine ⟨_, written, hid, .proposes (by rw [horacle, hid]) (hid.symm ▸ hverify) fun party => ?_⟩
    -- without a proposal nobody had anything to accept
    cases hmark : d.hasAccepted party with
    | false => rfl
    | true =>
      have hproposed := (h.records id d hget).accepted party hmark
      rw [hnone] at hproposed
      cases hproposed
  | @accept caller id a store admitted one written =>
    obtain ⟨hget, -⟩ := Engine.admitAcceptance_eq_ok_iff.1 admitted
    have hid := (a.record.accept_id a.party).trans (h.keyed id _ hget)
    exact ⟨_, written, hid, .of_acceptance h admitted rfl rfl rfl rfl⟩
  | @agree caller id a f admitted both resolves =>
    obtain ⟨hget, -⟩ := Engine.admitAcceptance_eq_ok_iff.1 admitted
    obtain ⟨waiting, hwritten⟩ := resolves.exists_written
    have hid := (a.record.accept_id a.party).trans (h.keyed id _ hget)
    exact ⟨_, hwritten, hid, .of_acceptance h admitted rfl rfl rfl rfl⟩
  | counter admitted routes opened dated written =>
    obtain ⟨hget, -⟩ := Engine.admitCounter_eq_ok_iff.1 admitted
    obtain ⟨startTime, -, -, -, rfl⟩ := Dispute.counterRound_eq_ok_iff.1 opened
    have hid := h.keyed _ _ hget
    exact ⟨_, written, hid, .clears rfl⟩
  | lapse admitted draws resolves =>
    obtain ⟨hget, -⟩ := Engine.admitEnforcement_eq_silent_iff.1 admitted
    obtain ⟨waiting, hwritten⟩ := resolves.exists_written
    have hid := h.keyed _ _ hget
    exact ⟨_, hwritten, hid, .of_same h hget rfl rfl rfl rfl rfl⟩
  | deadlock admitted resolves =>
    obtain ⟨hget, -⟩ := Engine.admitEnforcement_eq_deadlocked_iff.1 admitted
    obtain ⟨waiting, hwritten⟩ := resolves.exists_written
    have hid := h.keyed _ _ hget
    exact ⟨_, hwritten, hid, .of_same h hget rfl rfl rfl rfl rfl⟩
  | retry admitted freed written =>
    obtain ⟨hget, -⟩ := Engine.admitRetry_eq_ok_iff.1 admitted
    have hid := h.keyed _ _ hget
    exact ⟨_, written, hid, .of_same h hget rfl rfl rfl rfl rfl⟩

/-! ### Every run -/

/-- Every proposal that stands in some state of a clean run has its past in the history. -/
theorem CleanRun.backed {start : Engine} {turns : List Turn} (h : CleanRun start turns)
    {id : DisputeId} {d : Dispute} (hget : (start.run turns).store.get? id = some d) :
    d.Backed start.oracle (start.history turns) := by
  have hall : (start.run turns).oracle = start.oracle ∧
      ∀ id d, (start.run turns).store.get? id = some d →
        d.Backed (start.run turns).oracle (start.history turns) := by
    refine h.fresh.sound.history_induction (P := fun past e => e.oracle = start.oracle ∧
      ∀ id d, e.store.get? id = some d → d.Backed e.oracle past) ?_ ?_ h.clean ⟨rfl, ?_⟩
    · rintro past e e' hidle ⟨horacle, hbacked⟩
      refine ⟨hidle.oracle.trans horacle, fun id d hget => ?_⟩
      rw [hidle.get?] at hget
      rw [hidle.oracle]
      exact hbacked id d hget
    · rintro past e op answer f ledger hsound hsucceeds - ⟨horacle, hbacked⟩
      obtain ⟨w, hwritten, hdispute, hnegotiates⟩ := hsucceeds.negotiates hsound
      refine ⟨horacle, fun id d hget => ?_⟩
      change f.store.get? id = some d at hget
      rw [Store.get?_of_write hwritten] at hget
      split at hget
      · cases hget
        exact hnegotiates.backed hbacked
      · -- an operation on another dispute is none that renews this one
        rename_i hother
        have hid := hsound.keyed id d hget
        refine (hbacked id d hget).append rfl rfl rfl (fun _ => .inl) ?_
        rw [Bool.eq_false_iff]
        intro hrenews
        rw [hid] at hrenews
        exact hother (hdispute.trans (Operation.dispute_of_renews e hrenews))
    · intro id d hget
      obtain ⟨-, -, -, -, hstore, -⟩ := h.fresh.parts
      rw [hstore] at hget
      cases hget
  exact hall.1 ▸ hall.2 id d hget

/-- On what terms the asset of a dispute is released, be it already or once the registry does. -/
def Engine.releaseTerms (e : Engine) (id : DisputeId) : Option Release :=
  ((e.store.get? id).bind (·.pendingRelease)).or (e.registry.releaseOf id)

/-- The asset of a dispute that is resolved is released on the terms of the outcome. -/
theorem Engine.Sound.releaseTerms_granted {e : Engine} {id : DisputeId} {d : Dispute}
    (h : e.Sound) (hget : e.store.get? id = some d) (hresolved : d.resolved = true) :
    ∃ release, d.Grants d.outcome release ∧ e.releaseTerms id = some release := by
  have hfits := h.registered.fits id d hget
  rw [Engine.releaseTerms, hget, Option.bind_some]
  cases hpending : d.pendingRelease with
  | some release => exact ⟨release, hfits.owed release hpending, rfl⟩
  | none => exact hfits.released (Dispute.holdsAsset_eq_false_iff.2 ⟨hresolved, hpending⟩)

/-- **No agreement without consent.** Whenever a dispute of a clean run has ended by agreement, its
asset is released under a text for which the history has a proposal: the oracle made it, under a
signature that verifies for this dispute, both parties accepted afterwards, and there was neither
another proposal nor another round in the dispute since. -/
theorem agreement_needs_consent {start : Engine} {turns : List Turn} (h : CleanRun start turns)
    {id : DisputeId} {d : Dispute} (hget : (start.run turns).store.get? id = some d)
    (houtcome : d.outcome = .acceptedProposal) :
    ∃ p before after,
      (start.run turns).releaseTerms id = some (.acceptedProposal p.text) ∧
        start.oracle.verify id p = .ok () ∧
        start.history turns = before ++ .submit start.oracle.account id p :: after ∧
        .accept d.initiator id ∈ after ∧ .accept d.counterparty id ∈ after ∧
        ∀ op ∈ after, op.renews id = false := by
  have hsound := h.sound
  have hd := hsound.records id d hget
  have hid := hsound.keyed id d hget
  have hresolved : d.resolved = true := by
    rw [← Bool.not_eq_false]
    intro hopen
    rw [(hd.begun hopen).1] at houtcome
    cases houtcome
  obtain ⟨release, hgrants, hrelease⟩ := hsound.releaseTerms_granted hget hresolved
  rw [houtcome] at hgrants
  cases hgrants with
  | @agreement terms proposed =>
    obtain ⟨p, before, after, hhistory, htext, hverify, hquiet, haccepted⟩ :=
      h.backed hget terms proposed
    -- the outcome says that both are marked, and every mark stands for an acceptance
    have hboth : d.bothAccepted = true := (hd.ended hresolved).2.1.2 houtcome
    obtain ⟨hinitiator, hcounterparty⟩ := Bool.and_eq_true_iff.1 hboth
    rw [hid] at hhistory hverify hquiet haccepted
    refine ⟨p, before, after, ?_, hverify, hhistory, haccepted .initiator hinitiator,
      haccepted .counterparty hcounterparty, hquiet⟩
    rw [hrelease, htext]

namespace Sample

/-- Bob accepts the proposal too. -/
def agreed : List Turn := negotiation ++ [.call (.accept bob .first)]

theorem run_agreed :
    engine.run agreed =
      proposed.run [.call (.accept alice .first), .call (.accept bob .first)] := by
  rw [agreed, Engine.run_append, run_negotiation, ← Engine.run_append]
  rfl

end Sample

/-- In the sample negotiation the asset is released under the text that the oracle proposed and
both parties accepted. -/
theorem sample_agreement_has_consent :
    CleanRun Sample.engine Sample.agreed ∧
      (Sample.engine.run Sample.agreed).releaseTerms .first = some (.acceptedProposal "terms") ∧
      ∃ p before after,
        p.text = "terms" ∧ Sample.oracle.verify .first p = .ok () ∧
          Sample.engine.history Sample.agreed =
            before ++ .submit Sample.oracle.account .first p :: after ∧
          .accept Sample.alice .first ∈ after ∧ .accept Sample.bob .first ∈ after := by
  have hclean : CleanRun Sample.engine Sample.agreed := by
    refine ⟨Sample.engine_fresh, ?_⟩
    rw [Sample.agreed, Sample.negotiation, List.append_assoc, Engine.runsCleanly_append,
      List.cons_append, Engine.runsCleanly_call Sample.perform_submit_proposal]
    decide +kernel
  have hrelease : (Sample.engine.run Sample.agreed).releaseTerms .first =
      some (.acceptedProposal "terms") := by
    rw [Sample.run_agreed]
    decide +kernel
  have hended : ((Sample.engine.run Sample.agreed).store.get? .first).any
      (fun d => d.outcome = .acceptedProposal && d.initiator = Sample.alice &&
        d.counterparty = Sample.bob) = true := by
    rw [Sample.run_agreed]
    decide +kernel
  obtain ⟨d, hget, hd⟩ := (Option.any_eq_true _ _).1 hended
  simp only [Bool.and_eq_true, decide_eq_true_eq] at hd
  obtain ⟨⟨houtcome, hinitiator⟩, hcounterparty⟩ := hd
  obtain ⟨p, before, after, htext, hverify, hhistory, halice, hbob, -⟩ :=
    agreement_needs_consent hclean hget houtcome
  rw [hrelease, Option.some.injEq, Release.acceptedProposal.injEq] at htext
  rw [hinitiator] at halice
  rw [hcounterparty] at hbob
  exact ⟨hclean, hrelease, p, before, after, htext.symm, hverify, hhistory, halice, hbob⟩

end Arbitration
