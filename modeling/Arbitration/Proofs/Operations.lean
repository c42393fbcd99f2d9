import Arbitration.Proofs.Resolution

/-!
# What each operation does

`Succeeds e op answer f` is the whole effect of a successful operation as one footprint: there is
**one constructor for each way to succeed**, and it names every check that was passed and every
part of the engine after it. `Operation.ends` says that an operation either succeeds in one of
these ways or stops where all its effects can be taken back, by compensations of the few kinds
that `Operation.issues` lists.

Invariants of the engine are shown by cases on `Succeeds`; no later proof follows an operation
again. The reasons for which an operation can fail are listed as well (`Operation.Blocked`), step
by step: that they do not apply is how it is shown that an operation succeeds, and what they come
to is how it is shown with which errors it can fail.
-/

namespace Arbitration

/-! ### The pieces of an operation -/

namespace Engine

/-- The record of a filing. -/
def filed (e : Engine) (caller : AccountId) (r : InitiateRequest) (stake : Amount)
    (escalated : Bool) (earmarked : Amount) : Dispute :=
  .opened {
    id := e.store.nextId
    initiator := caller
    counterparty := r.counterparty
    baseStake := r.stake
    stake
    escalated
    now := e.now
    evidence := r.evidence
    fallback := r.fallback
    earmarkedIncentive := earmarked }

/-- What is set aside for a filing: nothing, or the incentive on its stake as far as the reserve
covers it once the stake is paid. -/
inductive SetsAside (e : Engine) (caller : AccountId) (stake : Amount) : Amount → Prop
  | nothing (policy : e.config.reservePolicy = .sharedFirstCome) : SetsAside e caller stake .zero
  | draw {owed : Amount} {ledger : Ledger} (policy : e.config.reservePolicy = .earmarked)
      (owes : Policy.incentiveAmount stake e.config.incentiveBps = .ok owed)
      (paid : e.ledger.Moves [⟨caller, e.accounts.escrow, stake⟩] ledger) :
      SetsAside e caller stake (Policy.incentiveDraw owed (ledger.balance e.treasury.reserve))

/-- The unused subsidy on its way back. -/
def subsidyReturn (e : Engine) (d : Dispute) : Move :=
  ⟨e.accounts.defenseFund, e.treasury.reserve, d.subsidy⟩

/-- The incentive of a silent counterparty's dispute: its source, its amount, and the event if it
is skipped. A shared reserve is looked at after the subsidy has come back to it. -/
inductive Draws (e : Engine) (d : Dispute) :
    AccountId → Amount → List (DisputeId × Event) → Prop
  | intro {owed draw available : Amount} {source : AccountId} {ledger : Ledger}
      (owes : Policy.incentiveAmount d.initiatorStake e.config.incentiveBps = .ok owed)
      (returned : e.ledger.Moves [e.subsidyReturn d] ledger)
      (found : ({ e with ledger } : Engine).incentiveSource d owed = (source, draw, available)) :
      Draws e d source draw (if draw.isZero && !owed.isZero
        then [(d.id, .incentiveSkipped owed available)] else [])

/-- What is told before such a dispute is resolved: the subsidy comes back, and the incentive is
skipped, if either happens. -/
theorem Draws.forall_mem_events {e : Engine} {d : Dispute} {source : AccountId} {draw : Amount}
    {skipped : List (DisputeId × Event)} {P : DisputeId × Event → Prop}
    (h : e.Draws d source draw skipped) (hreturned : P (d.id, .subsidyReturned d.subsidy))
    (hskipped : ∀ owed available, P (d.id, .incentiveSkipped owed available)) :
    ∀ p ∈ (if d.subsidy.isZero then [] else [(d.id, .subsidyReturned d.subsidy)]) ++ skipped,
      P p := by
  cases h with
  | intro owes returned found =>
    intro p hp
    simp only [List.mem_append, List.mem_ite_nil_left, List.mem_ite_nil_right,
      List.mem_singleton] at hp
    rcases hp with ⟨-, rfl⟩ | ⟨-, rfl⟩
    · exact hreturned
    · exact hskipped _ _

/-- The record once another round is open. -/
def nextRound (e : Engine) (d : Dispute) (r : CounterRequest) :
    Except ArithmeticError Dispute :=
  d.counterRound r.evidence (Policy.counterExtension e.config.counterExtensionSecs
    d.cumulativeExtensionSecs e.config.maxTotalExtensionSecs)

end Engine

namespace Resolution

/-- Both parties accepted the same terms. -/
def agreement (d : Dispute) (text : String) : Resolution where
  outcome := .acceptedProposal
  settlement := Policy.acceptedSplit d.initiatorStake d.counterpartyStake
  release := .acceptedProposal text
  applyFallback := false

/-- The counterparty stayed silent. -/
def lapse (d : Dispute) (incentive : Amount) : Resolution where
  outcome := .defaultLicenseApplied
  settlement := Policy.defaultLicenseSplit d.initiatorStake incentive
  release := .defaultLicense d.fallback.termsRef
  applyFallback := true

/-- The parties did not agree in time. -/
def deadlock (d : Dispute) (settlement : Settlement) : Resolution where
  outcome := .timeoutWithBurn
  settlement
  release := .timeoutWithBurn d.fallback.termsRef
  applyFallback := true

end Resolution

/-! ### Success -/

/-- Everything that a successful operation does. -/
inductive Succeeds (e : Engine) : Operation → Answer → Footprint → Prop
  | initiate {caller : AccountId} {r : InitiateRequest} {stake earmarked : Amount}
      {escalated : Bool} {treasury : Treasury} {registry : Registry} {store : Store}
      {deadline : Timestamp} (admitted : e.admitFiling caller r = .ok ⟨stake, escalated⟩)
      (setAside : e.SetsAside caller stake earmarked)
      (counted : if escalated then e.treasury.recordHarassment caller = .ok treasury
        else treasury = e.treasury)
      (frozen : e.registry.freeze e.store.nextId caller = .ok registry)
      (dated : (e.filed caller r stake escalated earmarked).stakeDeadline e.config = .ok deadline)
      (written : e.store.write {
        record := e.filed caller r stake escalated earmarked
        encounter := some ⟨caller, r.counterparty, e.now⟩ } = .ok store) :
      Succeeds e (.initiate caller r) (.opened e.store.nextId) {
        moves := [⟨caller, e.accounts.escrow, stake⟩,
          ⟨e.treasury.reserve, e.accounts.incentiveEarmark, earmarked⟩]
        registry
        treasury
        store
        events := [
          (e.store.nextId, .disputeCreated caller r.counterparty r.stake stake escalated
            r.evidence deadline),
          (e.store.nextId, .staked .initiator caller stake)] }
  | deposit {caller : AccountId} {id : DisputeId} {dep : Engine.Deposit} {total : Amount}
      {store : Store} (admitted : e.admitDeposit caller id = .ok dep)
      (added : dep.record.initiatorStake.add dep.record.initiatorStake = .ok total)
      (written : e.store.write {
        record := { dep.record with counterpartyStake := dep.record.initiatorStake } } =
          .ok store) :
      Succeeds e (.deposit caller id) .done {
        moves := [⟨dep.record.counterparty, e.accounts.escrow, dep.ownShare⟩,
          ⟨e.accounts.defenseFund, e.accounts.escrow, dep.record.subsidy⟩]
        registry := e.registry
        treasury := e.treasury
        store
        events := [
          (id, .staked .counterparty dep.record.counterparty dep.record.initiatorStake),
          (id, .fullyStaked total dep.resolutionDeadline)] }
  | grantSubsidy {caller : AccountId} {id : DisputeId} {d : Dispute} {amount : Amount}
      {store : Store} (admitted : e.admitSubsidy caller id = .ok (d, amount))
      (written : e.store.write { record := { d with subsidy := amount } } = .ok store) :
      Succeeds e (.grantSubsidy caller id) (.granted amount) {
        moves := [⟨e.treasury.reserve, e.accounts.defenseFund, amount⟩]
        registry := e.registry
        treasury := e.treasury
        store
        events := [(id, .subsidyGranted d.counterparty amount)] }
  | submit {caller : AccountId} {id : DisputeId} {p : SignedProposal} {d : Dispute}
      {store : Store} (admitted : e.admitProposal caller id p = .ok d)
      (written : e.store.write {
        record := { d with proposal := some ⟨p.text, p.nonce, p.signature, e.now⟩ }
        nonce := some p.nonce } = .ok store) :
      Succeeds e (.submit caller id p) .done {
        moves := []
        registry := e.registry
        treasury := e.treasury
        store
        events := [(id, .proposalSubmitted p.nonce (Binding.mk id p.nonce p.text).digest)] }
  | accept {caller : AccountId} {id : DisputeId} {a : Engine.Acceptance} {store : Store}
      (admitted : e.admitAcceptance caller id = .ok a)
      (one : (a.record.accept a.party).bothAccepted = false)
      (written : e.store.write { record := a.record.accept a.party } = .ok store) :
      Succeeds e (.accept caller id) .done {
        moves := []
        registry := e.registry
        treasury := e.treasury
        store
        events := [(id, .proposalAccepted a.party)] }
  | agree {caller : AccountId} {id : DisputeId} {a : Engine.Acceptance} {f : Footprint}
      (admitted : e.admitAcceptance caller id = .ok a)
      (both : (a.record.accept a.party).bothAccepted = true)
      (resolves : Resolves e (a.record.accept a.party)
        (.agreement (a.record.accept a.party) a.text) [] [(id, .proposalAccepted a.party)] f) :
      Succeeds e (.accept caller id) .done f
  | counter {caller : AccountId} {id : DisputeId} {r : CounterRequest} {c : Engine.CounterRound}
      {routed : Amount} {next : Dispute} {deadline : Timestamp} {store : Store}
      (admitted : e.admitCounter caller id r = .ok c)
      (routes : if e.config.routeExcessFeeToPool then r.maxFee.sub c.fee = .ok routed
        else routed = .zero)
      (opened : e.nextRound c.record r = .ok next)
      (dated : next.resolutionDeadline e.config = .ok deadline)
      (written : e.store.write { record := next } = .ok store) :
      Succeeds e (.counter caller id r) .done {
        moves := [⟨caller, e.accounts.burnSink, c.fee⟩, ⟨caller, e.accounts.feePool, routed⟩]
        registry := e.registry
        treasury := e.treasury
        store
        events := [
          (id, .feeBurned caller c.fee routed),
          (id, .counterProposed c.party next.counterCount r.evidence
            (Policy.counterExtension e.config.counterExtensionSecs
              c.record.cumulativeExtensionSecs e.config.maxTotalExtensionSecs) deadline)] }
  | lapse {caller source : AccountId} {id : DisputeId} {d : Dispute} {draw : Amount}
      {skipped : List (DisputeId × Event)} {f : Footprint}
      (admitted : e.admitEnforcement id = .ok (.silent d))
      (draws : e.Draws d source draw skipped)
      (resolves : Resolves e d (.lapse d draw) [e.subsidyReturn d, ⟨source, d.initiator, draw⟩]
        ((if d.subsidy.isZero then [] else [(d.id, .subsidyReturned d.subsidy)]) ++ skipped) f) :
      Succeeds e (.enforce caller id) (.ended .defaultLicenseApplied) f
  | deadlock {caller : AccountId} {id : DisputeId} {d : Dispute} {settlement : Settlement}
      {f : Footprint} (admitted : e.admitEnforcement id = .ok (.deadlocked d settlement))
      (resolves : Resolves e d (.deadlock d settlement) [] [] f) :
      Succeeds e (.enforce caller id) (.ended .timeoutWithBurn) f
  | retry {caller : AccountId} {id : DisputeId} {d : Dispute} {release : Release}
      {registry : Registry} {store : Store} (admitted : e.admitRetry id = .ok (d, release))
      (freed : e.registry.unfreeze id release = .ok registry)
      (written : e.store.write { record := { d with pendingRelease := none } } = .ok store) :
      Succeeds e (.retryRelease caller id) .done {
        moves := []
        registry
        treasury := e.treasury
        store
        events := [(id, .releaseCompleted)] }

/-! ### Failure -/

/-- The compensations that an operation may issue if it fails. -/
def Operation.issues : Operation → Undo → Prop
  | .initiate caller _, .harassment account => account = caller
  | .initiate _ _, .transfer _ _ _ | .initiate _ _, .freeze _ => True
  | .deposit _ _, .transfer _ _ _ => True
  | .grantSubsidy _ _, .transfer _ _ _ => True
  | .counter _ _ _, .transfer _ _ _ => True
  | .accept _ id, u => Resolution.issues id u
  | .enforce _ id, u => Resolution.issues id u
  | .retryRelease _ id, .unfreeze id' _ => id' = id
  | _, _ => False

/-- Why a filing fails. -/
inductive Engine.Unfiled (e : Engine) (caller : AccountId) (r : InitiateRequest) :
    DisputeError → Prop
  | refused {err : DisputeError} (h : e.admitFiling caller r = .error err) :
      Unfiled e caller r err
  | unpaid {stake : Amount} {escalated : Bool} {err : LedgerError}
      (admitted : e.admitFiling caller r = .ok ⟨stake, escalated⟩)
      (h : e.ledger.Refuses [] ⟨caller, e.accounts.escrow, stake⟩ err) :
      Unfiled e caller r (.ledger err)
  | unowed {stake : Amount} {err : ArithmeticError}
      (h : Policy.incentiveAmount stake e.config.incentiveBps = .error err) :
      Unfiled e caller r (.arithmetic err)
  | unreserved {stake owed : Amount} {ledger : Ledger} {err : LedgerError}
      (paid : e.ledger.Moves [⟨caller, e.accounts.escrow, stake⟩] ledger)
      (h : e.ledger.Refuses [⟨caller, e.accounts.escrow, stake⟩]
        ⟨e.treasury.reserve, e.accounts.incentiveEarmark,
          Policy.incentiveDraw owed (ledger.balance e.treasury.reserve)⟩ err) :
      Unfiled e caller r (.ledger err)
  | uncounted {err : TreasuryError} (h : e.treasury.recordHarassment caller = .error err) :
      Unfiled e caller r (.treasury err)
  | unfrozen {err : RegistryError} (h : e.registry.freeze e.store.nextId caller = .error err) :
      Unfiled e caller r (.registry err)
  | undated {stake earmarked : Amount} {escalated : Bool} {err : ArithmeticError}
      (h : (e.filed caller r stake escalated earmarked).stakeDeadline e.config = .error err) :
      Unfiled e caller r (.arithmetic err)
  | unwritten {w : StoreWrite} {err : StoreError} (next : w.record.id = e.store.nextId)
      (h : e.store.write w = .error err) : Unfiled e caller r (.store err)

/-- Why a subsidy is not granted. -/
inductive Engine.Ungranted (e : Engine) (caller : AccountId) (id : DisputeId) :
    DisputeError → Prop
  | refused {err : DisputeError} (h : e.admitSubsidy caller id = .error err) :
      Ungranted e caller id err
  | unpaid {d : Dispute} {amount : Amount} {err : LedgerError}
      (admitted : e.admitSubsidy caller id = .ok (d, amount))
      (h : e.ledger.Refuses [] ⟨e.treasury.reserve, e.accounts.defenseFund, amount⟩ err) :
      Ungranted e caller id (.ledger err)
  | unwritten {d : Dispute} {amount : Amount} {err : StoreError}
      (admitted : e.admitSubsidy caller id = .ok (d, amount))
      (h : e.store.write { record := { d with subsidy := amount } } = .error err) :
      Ungranted e caller id (.store err)

/-- Why a proposal is not put down. -/
inductive Engine.Unproposed (e : Engine) (caller : AccountId) (id : DisputeId)
    (p : SignedProposal) : DisputeError → Prop
  | refused {err : DisputeError} (h : e.admitProposal caller id p = .error err) :
      Unproposed e caller id p err
  | unwritten {d : Dispute} {err : StoreError} (admitted : e.admitProposal caller id p = .ok d)
      (h : e.store.write {
        record := { d with proposal := some ⟨p.text, p.nonce, p.signature, e.now⟩ }
        nonce := some p.nonce } = .error err) : Unproposed e caller id p (.store err)

/-- Why no other round is opened. -/
inductive Engine.Uncountered (e : Engine) (caller : AccountId) (id : DisputeId)
    (r : CounterRequest) : DisputeError → Prop
  | refused {err : DisputeError} (h : e.admitCounter caller id r = .error err) :
      Uncountered e caller id r err
  | unpaid {c : Engine.CounterRound} {err : LedgerError}
      (admitted : e.admitCounter caller id r = .ok c)
      (h : e.ledger.Refuses [] ⟨caller, e.accounts.burnSink, c.fee⟩ err) :
      Uncountered e caller id r (.ledger err)
  | unrouted {c : Engine.CounterRound} {err : ArithmeticError}
      (admitted : e.admitCounter caller id r = .ok c) (h : r.maxFee.sub c.fee = .error err) :
      Uncountered e caller id r (.arithmetic err)
  | unpooled {c : Engine.CounterRound} {excess : Amount} {err : LedgerError}
      (admitted : e.admitCounter caller id r = .ok c)
      (h : e.ledger.Refuses [⟨caller, e.accounts.burnSink, c.fee⟩]
        ⟨caller, e.accounts.feePool, excess⟩ err) : Uncountered e caller id r (.ledger err)
  | unopened {c : Engine.CounterRound} {err : ArithmeticError}
      (admitted : e.admitCounter caller id r = .ok c) (h : e.nextRound c.record r = .error err) :
      Uncountered e caller id r (.arithmetic err)
  | undated {next : Dispute} {err : ArithmeticError}
      (h : next.resolutionDeadline e.config = .error err) :
      Uncountered e caller id r (.arithmetic err)
  | unwritten {c : Engine.CounterRound} {next : Dispute} {err : StoreError}
      (admitted : e.admitCounter caller id r = .ok c) (opened : e.nextRound c.record r = .ok next)
      (h : e.store.write { record := next } = .error err) : Uncountered e caller id r (.store err)

/-- Why a release is not completed. -/
inductive Engine.Unreleased (e : Engine) (id : DisputeId) : DisputeError → Prop
  | refused {err : DisputeError} (h : e.admitRetry id = .error err) : Unreleased e id err
  | unfreed {d : Dispute} {release : Release} {err : RegistryError}
      (admitted : e.admitRetry id = .ok (d, release))
      (h : e.registry.unfreeze id release = .error err) : Unreleased e id (.registry err)
  | unwritten {d : Dispute} {release : Release} {err : StoreError}
      (admitted : e.admitRetry id = .ok (d, release))
      (h : e.store.write { record := { d with pendingRelease := none } } = .error err) :
      Unreleased e id (.store err)

/-- Why a deposit fails. -/
inductive Engine.Undeposited (e : Engine) (caller : AccountId) (id : DisputeId) :
    DisputeError → Prop
  | refused {err : DisputeError} (h : e.admitDeposit caller id = .error err) :
      Undeposited e caller id err
  | unpaid {dep : Engine.Deposit} {err : LedgerError}
      (admitted : e.admitDeposit caller id = .ok dep)
      (h : e.ledger.Refuses [] ⟨dep.record.counterparty, e.accounts.escrow, dep.ownShare⟩ err) :
      Undeposited e caller id (.ledger err)
  | unfunded {dep : Engine.Deposit} {err : LedgerError}
      (admitted : e.admitDeposit caller id = .ok dep)
      (h : e.ledger.Refuses [⟨dep.record.counterparty, e.accounts.escrow, dep.ownShare⟩]
        ⟨e.accounts.defenseFund, e.accounts.escrow, dep.record.subsidy⟩ err) :
      Undeposited e caller id (.ledger err)
  | unsummed {dep : Engine.Deposit} {ledger : Ledger} {err : ArithmeticError}
      (admitted : e.admitDeposit caller id = .ok dep)
      (paid : e.ledger.Moves [⟨dep.record.counterparty, e.accounts.escrow, dep.ownShare⟩,
        ⟨e.accounts.defenseFund, e.accounts.escrow, dep.record.subsidy⟩] ledger)
      (h : dep.record.initiatorStake.add dep.record.initiatorStake = .error err) :
      Undeposited e caller id (.arithmetic err)
  | unwritten {dep : Engine.Deposit} {err : StoreError}
      (admitted : e.admitDeposit caller id = .ok dep)
      (h : e.store.write {
        record := { dep.record with counterpartyStake := dep.record.initiatorStake } } =
          .error err) : Undeposited e caller id (.store err)

/-- Why an acceptance fails. -/
inductive Engine.Unaccepted (e : Engine) (caller : AccountId) (id : DisputeId) :
    DisputeError → Prop
  | refused {err : DisputeError} (h : e.admitAcceptance caller id = .error err) :
      Unaccepted e caller id err
  | unwritten {a : Engine.Acceptance} {err : StoreError}
      (admitted : e.admitAcceptance caller id = .ok a)
      (h : e.store.write { record := a.record.accept a.party } = .error err) :
      Unaccepted e caller id (.store err)
  | stuck {a : Engine.Acceptance} {err : DisputeError}
      (admitted : e.admitAcceptance caller id = .ok a)
      (h : (Resolution.agreement (a.record.accept a.party) a.text).Stuck e
        (a.record.accept a.party) [] err) :
      Unaccepted e caller id err

/-- Why an enforcement fails. -/
inductive Engine.Unenforced (e : Engine) (id : DisputeId) : DisputeError → Prop
  | refused {err : DisputeError} (h : e.admitEnforcement id = .error err) : Unenforced e id err
  | unreturned {d : Dispute} {err : LedgerError}
      (admitted : e.admitEnforcement id = .ok (.silent d))
      (h : e.ledger.Refuses [] (e.subsidyReturn d) err) : Unenforced e id (.ledger err)
  | unowed {d : Dispute} {err : ArithmeticError}
      (admitted : e.admitEnforcement id = .ok (.silent d))
      (h : Policy.incentiveAmount d.initiatorStake e.config.incentiveBps = .error err) :
      Unenforced e id (.arithmetic err)
  | unpaid {d : Dispute} {source : AccountId} {draw : Amount} {err : LedgerError}
      {skipped : List (DisputeId × Event)} (admitted : e.admitEnforcement id = .ok (.silent d))
      (draws : e.Draws d source draw skipped)
      (h : e.ledger.Refuses [e.subsidyReturn d] ⟨source, d.initiator, draw⟩ err) :
      Unenforced e id (.ledger err)
  | lapse {d : Dispute} {source : AccountId} {draw : Amount} {err : DisputeError}
      {skipped : List (DisputeId × Event)} (admitted : e.admitEnforcement id = .ok (.silent d))
      (draws : e.Draws d source draw skipped)
      (h : (Resolution.lapse d draw).Stuck e d
        [e.subsidyReturn d, ⟨source, d.initiator, draw⟩] err) : Unenforced e id err
  | deadlock {d : Dispute} {settlement : Settlement} {err : DisputeError}
      (admitted : e.admitEnforcement id = .ok (.deadlocked d settlement))
      (h : (Resolution.deadlock d settlement).Stuck e d [] err) : Unenforced e id err

/-- What is known of a failure, by operation. -/
def Operation.Blocked (e : Engine) : Operation → DisputeError → Prop
  | .initiate caller r, err => e.Unfiled caller r err
  | .deposit caller id, err => e.Undeposited caller id err
  | .grantSubsidy caller id, err => e.Ungranted caller id err
  | .submit caller id p, err => e.Unproposed caller id p err
  | .accept caller id, err => e.Unaccepted caller id err
  | .counter caller id r, err => e.Uncountered caller id r err
  | .enforce _ id, err => e.Unenforced id err
  | .retryRelease _ id, err => e.Unreleased id err

/-! ### Following the operations -/

/-- The operation has succeeded with this footprint. -/
def Operation.Done (e : Engine) (op : Operation) (answer : Answer) (s : Session) : Prop :=
  ∃ f, Succeeds e op answer f ∧ s.Shows e f

/-- The operation has failed, and all its effects can be taken back. -/
def Operation.Failed (e : Engine) (op : Operation) (err : DisputeError) (s : Session) : Prop :=
  Trail e op.issues s.journal s.engine ∧ op.Blocked e err

namespace Transaction

variable {e : Engine} {caller : AccountId} {id : DisputeId}

theorem ends_reserveIncentive {issued : Undo → Prop} {stake : Amount} {s : Session}
    {Q : Amount → Session → Prop} {E : DisputeError → Session → Prop}
    (hs : s.At e issued (e.moving [⟨caller, e.accounts.escrow, stake⟩] []))
    (hmay : ∀ source target amount, issued (.transfer source target amount))
    (howed : ∀ err, Policy.incentiveAmount stake e.config.incentiveBps = .error err →
      E (.arithmetic err) s)
    (hfail : ∀ err owed ledger, e.ledger.Moves [⟨caller, e.accounts.escrow, stake⟩] ledger →
      e.ledger.Refuses [⟨caller, e.accounts.escrow, stake⟩]
        ⟨e.treasury.reserve, e.accounts.incentiveEarmark,
          Policy.incentiveDraw owed (ledger.balance e.treasury.reserve)⟩ err → E (.ledger err) s)
    (hok : ∀ s' earmarked, e.SetsAside caller stake earmarked →
      s'.At e issued (e.moving [⟨caller, e.accounts.escrow, stake⟩,
        ⟨e.treasury.reserve, e.accounts.incentiveEarmark, earmarked⟩] []) → Q earmarked s') :
    (reserveIncentive stake).Ends s Q E := by
  unfold reserveIncentive
  refine .bind (ends_engine hs.shows ?_)
  split
  case h_2 hpolicy => exact ends_pure (hok s .zero (.nothing hpolicy) (hs.skip rfl))
  case h_1 hpolicy =>
    unfold earmarkIncentive
    refine .bind (ends_engine hs.shows ?_)
    refine .bind (ends_calculate howed fun owed howes => ?_)
    refine .bind (ends_move hs (hmay ..) (fun err h => hfail err owed _ hs.shows.moves h)
      fun s₁ hs₁ => ?_)
    exact ends_pure (hok s₁ _ (.draw hpolicy howes hs.shows.moves) hs₁)

theorem ends_routeExcess {issued : Undo → Prop} {offered fee : Amount} {s : Session}
    {Q : Amount → Session → Prop} {E : DisputeError → Session → Prop}
    (hs : s.At e issued (e.moving [⟨caller, e.accounts.burnSink, fee⟩] []))
    (hmay : ∀ source target amount, issued (.transfer source target amount))
    (hexcess : ∀ err, offered.sub fee = .error err → E (.arithmetic err) s)
    (hfail : ∀ err excess, e.ledger.Refuses [⟨caller, e.accounts.burnSink, fee⟩]
      ⟨caller, e.accounts.feePool, excess⟩ err → E (.ledger err) s)
    (hok : ∀ s' routed, (if e.config.routeExcessFeeToPool then offered.sub fee = .ok routed
        else routed = .zero) →
      s'.At e issued (e.moving [⟨caller, e.accounts.burnSink, fee⟩,
        ⟨caller, e.accounts.feePool, routed⟩] []) → Q routed s') :
    (routeExcess caller offered fee).Ends s Q E := by
  unfold routeExcess
  refine .bind (ends_engine hs.shows ?_)
  show (if e.config.routeExcessFeeToPool = true then _ else _ : Transaction Amount).Ends s Q E
  cases hpool : e.config.routeExcessFeeToPool with
  | false =>
    simp only [hpool, Bool.false_eq_true, if_false] at hok ⊢
    exact ends_pure (hok s .zero rfl (hs.skip rfl))
  | true =>
    simp only [hpool, if_true] at hok ⊢
    refine .bind (ends_calculate hexcess fun excess hrest => ?_)
    refine .bind (ends_move hs (hmay ..) (fun err h => hfail err excess h) fun s₁ hs₁ => ?_)
    exact ends_pure (hok s₁ excess hrest hs₁)

theorem ends_count {β : Type} {issued : Undo → Prop} {f : Footprint} {escalated : Bool}
    {rest : Unit → Transaction β} {s : Session} {R : β → Session → Prop}
    {E : DisputeError → Session → Prop} (hs : s.At e issued f) (hmay : issued (.harassment caller))
    (hfirst : f.treasury = e.treasury)
    (hfail : ∀ err, e.treasury.recordHarassment caller = .error err → E (.treasury err) s)
    (hok : ∀ s' treasury, (if escalated then e.treasury.recordHarassment caller = .ok treasury
        else treasury = e.treasury) → s'.At e issued { f with treasury } → (rest ()).Ends s' R E) :
    (if escalated = true then recordHarassment caller >>= rest else rest ()).Ends s R E := by
  cases escalated with
  | true =>
    exact .bind (ends_recordHarassment hs hmay hfirst hfail
      fun s' treasury hcounted hs' => hok s' treasury hcounted hs')
  | false => exact hok s e.treasury rfl (hfirst ▸ hs)

theorem ends_returnSubsidy {issued : Undo → Prop} {d : Dispute} {s : Session}
    {Q : Unit → Session → Prop} {E : DisputeError → Session → Prop}
    (hs : s.At e issued (e.moving [] []))
    (hmay : ∀ source target amount, issued (.transfer source target amount))
    (hfail : ∀ err, e.ledger.Refuses [] (e.subsidyReturn d) err → E (.ledger err) s)
    (hok : ∀ s', s'.At e issued (e.moving [e.subsidyReturn d]
      (if d.subsidy.isZero then [] else [(d.id, .subsidyReturned d.subsidy)])) → Q () s') :
    (returnSubsidy d).Ends s Q E := by
  unfold returnSubsidy
  refine .bind (ends_engine hs.shows ?_)
  cases hzero : d.subsidy.isZero with
  | true =>
    simp only [hzero, Bool.not_true, Bool.false_eq_true, if_false, if_true] at hok ⊢
    exact ends_pure (hok s (hs.skip hzero))
  | false =>
    simp only [hzero, Bool.not_false, Bool.false_eq_true, if_false, if_true] at hok ⊢
    refine .bind (ends_move hs (hmay ..) hfail fun s₁ hs₁ => ?_)
    exact ends_emit hs₁ hok

theorem ends_payIncentive {issued : Undo → Prop} {d : Dispute} {s : Session}
    {events : List (DisputeId × Event)} {Q : Amount → Session → Prop}
    {E : DisputeError → Session → Prop}
    (hs : s.At e issued (e.moving [e.subsidyReturn d] events))
    (hmay : ∀ source target amount, issued (.transfer source target amount))
    (howed : ∀ err, Policy.incentiveAmount d.initiatorStake e.config.incentiveBps = .error err →
      E (.arithmetic err) s)
    (hfail : ∀ err source draw skipped, e.Draws d source draw skipped →
      e.ledger.Refuses [e.subsidyReturn d] ⟨source, d.initiator, draw⟩ err → E (.ledger err) s)
    (hok : ∀ s' source draw skipped, e.Draws d source draw skipped →
      s'.At e issued (e.moving [e.subsidyReturn d, ⟨source, d.initiator, draw⟩]
        (events ++ skipped)) → Q draw s') :
    (payIncentive d).Ends s Q E := by
  unfold payIncentive
  refine .bind (ends_engine hs.shows ?_)
  refine .bind (ends_calculate howed fun owed howes => ?_)
  -- the reserve is looked at in the ledger to which the subsidy has come back
  generalize hfound : Engine.incentiveSource _ d owed = found
  obtain ⟨source, draw, available⟩ := found
  have hdraws : e.Draws d source draw _ := .intro howes hs.shows.moves hfound
  dsimp only
  cases hdraw : draw.isZero with
  | false =>
    rw [hdraw, Bool.false_and, if_neg Bool.false_ne_true] at hdraws
    refine .bind (ends_move hs (hmay ..) (fun err h => hfail err source draw [] hdraws h)
      fun s₁ hs₁ => ends_pure (hok s₁ source draw [] hdraws ?_))
    rw [List.append_nil]
    exact hs₁
  | true =>
    -- a draw of nothing is not moved, which counts as a move of nothing
    have hzero := Amount.isZero_iff.1 hdraw
    subst hzero
    rw [hdraw, Bool.true_and] at hdraws
    have hs₁ := hs.skip (m := ⟨source, d.initiator, .zero⟩) rfl
    cases howed : owed.isZero with
    | true =>
      rw [howed, Bool.not_true, if_neg Bool.false_ne_true] at hdraws
      refine ends_pure (hok s source .zero [] hdraws ?_)
      rw [List.append_nil]
      exact hs₁
    | false =>
      rw [howed, Bool.not_false, if_pos rfl] at hdraws
      exact .bind (ends_emit hs₁ fun s₂ hs₂ => ends_pure (hok s₂ source .zero _ hdraws hs₂))

theorem ends_initiate (r : InitiateRequest) :
    (Operation.initiate caller r).transaction.Ends { engine := e }
      ((Operation.initiate caller r).Done e) ((Operation.initiate caller r).Failed e) := by
  have hs := Session.at_start e (Operation.initiate caller r).issues
  refine .map ?_
  unfold initiate
  refine .bind (ends_engine_first ?_)
  refine .bind (ends_ask_first (fun err h => ⟨hs.trail, .refused h⟩) fun esc hadmitted => ?_)
  refine .bind (ends_move hs trivial (fun err h => ⟨hs.trail, .unpaid hadmitted h⟩)
    fun s₁ hs₁ => ?_)
  refine .bind (ends_reserveIncentive hs₁ (fun _ _ _ => trivial)
    (fun err h => ⟨hs₁.trail, .unowed h⟩)
    (fun err owed ledger hpaid h => ⟨hs₁.trail, .unreserved hpaid h⟩)
    fun s₂ earmarked hset hs₂ => ?_)
  refine ends_count hs₂ rfl rfl (fun err h => ⟨hs₂.trail, .uncounted h⟩)
    fun s₃ treasury hcounted hs₃ => ?_
  refine .bind (ends_freeze hs₃ trivial rfl (fun err h => ⟨hs₃.trail, .unfrozen h⟩)
    fun s₄ registry hfrozen hs₄ => ?_)
  refine .bind (ends_calculate (fun err h => ⟨hs₄.trail, .undated h⟩) fun deadline hdated => ?_)
  refine .bind (ends_write hs₄.shows (fun err h => ⟨hs₄.trail, .unwritten rfl h⟩)
    fun s₅ store hwritten hs₅ => ?_)
  refine .bind (ends_emit_last hs₅ fun s₆ hs₆ => ?_)
  refine .bind (ends_emit_last hs₆ fun s₇ hs₇ => ends_pure ?_)
  exact ⟨_, .initiate hadmitted hset hcounted hfrozen hdated hwritten, hs₇⟩

theorem ends_deposit :
    (Operation.deposit caller id).transaction.Ends { engine := e }
      ((Operation.deposit caller id).Done e) ((Operation.deposit caller id).Failed e) := by
  have hs := Session.at_start e (Operation.deposit caller id).issues
  refine .map ?_
  unfold deposit
  refine .bind (ends_engine_first ?_)
  refine .bind (ends_ask_first (fun err h => ⟨hs.trail, .refused h⟩) fun dep hadmitted => ?_)
  refine .bind (ends_move hs trivial (fun err h => ⟨hs.trail, .unpaid hadmitted h⟩)
    fun s₁ hs₁ => ?_)
  refine .bind (ends_move hs₁ trivial (fun err h => ⟨hs₁.trail, .unfunded hadmitted h⟩)
    fun s₂ hs₂ => ?_)
  refine .bind (ends_calculate
    (fun err h => ⟨hs₂.trail, .unsummed hadmitted hs₂.shows.moves h⟩) fun total hadded => ?_)
  refine .bind (ends_write hs₂.shows (fun err h => ⟨hs₂.trail, .unwritten hadmitted h⟩)
    fun s₃ store hwritten hs₃ => ?_)
  refine .bind (ends_emit_last hs₃ fun s₄ hs₄ => ?_)
  refine ends_emit_last hs₄ fun s₅ hs₅ => ?_
  exact ⟨_, .deposit hadmitted hadded hwritten, hs₅⟩

theorem ends_grantSubsidy :
    (Operation.grantSubsidy caller id).transaction.Ends { engine := e }
      ((Operation.grantSubsidy caller id).Done e)
      ((Operation.grantSubsidy caller id).Failed e) := by
  have hs := Session.at_start e (Operation.grantSubsidy caller id).issues
  refine .map ?_
  unfold grantSubsidy
  refine .bind (ends_engine_first ?_)
  refine .bind (ends_ask_first (fun err h => ⟨hs.trail, .refused h⟩) fun granted hadmitted => ?_)
  refine .bind (ends_move hs trivial (fun err h => ⟨hs.trail, .unpaid hadmitted h⟩)
    fun s₁ hs₁ => ?_)
  refine .bind (ends_write hs₁.shows (fun err h => ⟨hs₁.trail, .unwritten hadmitted h⟩)
    fun s₂ store hwritten hs₂ => ?_)
  refine .bind (ends_emit_last hs₂ fun s₃ hs₃ => ends_pure ?_)
  exact ⟨_, .grantSubsidy hadmitted hwritten, hs₃⟩

theorem ends_submit (p : SignedProposal) :
    (Operation.submit caller id p).transaction.Ends { engine := e }
      ((Operation.submit caller id p).Done e) ((Operation.submit caller id p).Failed e) := by
  have hs := Session.at_start e (Operation.submit caller id p).issues
  refine .map ?_
  unfold submit
  refine .bind (ends_engine_first ?_)
  refine .bind (ends_ask_first (fun err h => ⟨hs.trail, .refused h⟩) fun d hadmitted => ?_)
  refine .bind (ends_write hs.shows (fun err h => ⟨hs.trail, .unwritten hadmitted h⟩)
    fun s₁ store hwritten hs₁ => ?_)
  refine ends_emit_last hs₁ fun s₂ hs₂ => ?_
  exact ⟨_, .submit hadmitted hwritten, hs₂⟩

theorem ends_counter (r : CounterRequest) :
    (Operation.counter caller id r).transaction.Ends { engine := e }
      ((Operation.counter caller id r).Done e) ((Operation.counter caller id r).Failed e) := by
  have hs := Session.at_start e (Operation.counter caller id r).issues
  refine .map ?_
  unfold counter
  refine .bind (ends_engine_first ?_)
  refine .bind (ends_ask_first (fun err h => ⟨hs.trail, .refused h⟩) fun c hadmitted => ?_)
  refine .bind (ends_move hs trivial (fun err h => ⟨hs.trail, .unpaid hadmitted h⟩)
    fun s₁ hs₁ => ?_)
  refine .bind (ends_routeExcess hs₁ (fun _ _ _ => trivial)
    (fun err h => ⟨hs₁.trail, .unrouted hadmitted h⟩)
    (fun err excess h => ⟨hs₁.trail, .unpooled hadmitted h⟩) fun s₂ routed hroutes hs₂ => ?_)
  refine .bind (ends_calculate (fun err h => ⟨hs₂.trail, .unopened hadmitted h⟩)
    fun next hopened => ?_)
  refine .bind (ends_calculate (fun err h => ⟨hs₂.trail, .undated h⟩) fun deadline hdated => ?_)
  refine .bind (ends_write hs₂.shows (fun err h => ⟨hs₂.trail, .unwritten hadmitted hopened h⟩)
    fun s₃ store hwritten hs₃ => ?_)
  refine .bind (ends_emit_last hs₃ fun s₄ hs₄ => ?_)
  refine ends_emit_last hs₄ fun s₅ hs₅ => ?_
  exact ⟨_, .counter hadmitted hroutes hopened hdated hwritten, hs₅⟩

theorem ends_retryRelease :
    (Operation.retryRelease caller id).transaction.Ends { engine := e }
      ((Operation.retryRelease caller id).Done e)
      ((Operation.retryRelease caller id).Failed e) := by
  have hs := Session.at_start e (Operation.retryRelease caller id).issues
  refine .map ?_
  unfold retryRelease
  refine .bind (ends_ask_first (fun err h => ⟨hs.trail, .refused h⟩) fun waiting hadmitted => ?_)
  obtain ⟨d, release⟩ := waiting
  have hget := (Engine.admitRetry_eq_ok_iff.1 hadmitted).1
  refine .bind (ends_tryUnfreeze hs rfl rfl ⟨d, hget, rfl⟩
    (fun err h => ends_throw ⟨hs.trail, .unfreed hadmitted h⟩) fun s₁ registry hfreed hs₁ => ?_)
  refine .bind (ends_write hs₁.shows (fun err h => ⟨hs₁.trail, .unwritten hadmitted h⟩)
    fun s₂ store hwritten hs₂ => ?_)
  refine ends_emit_last hs₂ fun s₃ hs₃ => ?_
  exact ⟨_, .retry hadmitted hfreed hwritten, hs₃⟩

theorem ends_accept (hk : e.store.Keyed) :
    (Operation.accept caller id).transaction.Ends { engine := e }
      ((Operation.accept caller id).Done e) ((Operation.accept caller id).Failed e) := by
  have hs := Session.at_start e (Operation.accept caller id).issues
  refine .map ?_
  unfold accept
  refine .bind (ends_ask_first (fun err h => ⟨hs.trail, .refused h⟩) fun a hadmitted => ?_)
  have hget := (Engine.admitAcceptance_eq_ok_iff.1 hadmitted).1
  refine .bind (ends_emit hs fun s₁ hs₁ => ?_)
  -- the acceptance changes neither the number nor the initiator
  have hid : (a.record.accept a.party).id = id := by
    rw [← hk id a.record hget]
    cases a.party <;> rfl
  have hholder : (a.record.accept a.party).initiator = a.record.initiator := by
    cases a.party <;> rfl
  cases hboth : (a.record.accept a.party).bothAccepted with
  | true =>
    refine ends_resolve (r := .agreement (a.record.accept a.party) a.text) hs₁
      (fun _ hu => hid ▸ hu)
      ⟨a.record, hid ▸ hget, hholder.symm, (hk id a.record hget).trans hid.symm⟩
      (fun err s' htrail h => ⟨htrail, .stuck hadmitted h⟩) fun s' f hresolves hs' => ?_
    exact ⟨f, .agree hadmitted hboth hresolves, hs'⟩
  | false =>
    refine ends_write hs₁.shows (fun err h => ⟨hs₁.trail, .unwritten hadmitted h⟩)
      fun s₂ store hwritten hs₂ => ?_
    exact ⟨_, .accept hadmitted hboth hwritten, hs₂⟩

theorem ends_enforce (hk : e.store.Keyed) :
    (Operation.enforce caller id).transaction.Ends { engine := e }
      ((Operation.enforce caller id).Done e) ((Operation.enforce caller id).Failed e) := by
  have hs := Session.at_start e (Operation.enforce caller id).issues
  refine .map ?_
  unfold enforce
  refine .bind (ends_ask_first (fun err h => ⟨hs.trail, .refused h⟩) fun overdue hadmitted => ?_)
  cases overdue with
  | silent d =>
    have hget := (Engine.admitEnforcement_eq_silent_iff.1 hadmitted).1
    refine .bind (ends_returnSubsidy hs (fun _ _ _ => trivial)
      (fun err h => ⟨hs.trail, .unreturned hadmitted h⟩) fun s₁ hs₁ => ?_)
    refine .bind (ends_payIncentive hs₁ (fun _ _ _ => trivial)
      (fun err h => ⟨hs₁.trail, .unowed hadmitted h⟩)
      (fun err source draw skipped hdraws h => ⟨hs₁.trail, .unpaid hadmitted hdraws h⟩)
      fun s₂ source draw skipped hdraws hs₂ => ?_)
    refine .bind (ends_resolve (r := .lapse d draw) hs₂ (fun _ hu => hk id d hget ▸ hu) ?_
      (fun err s' htrail h => ⟨htrail, .lapse hadmitted hdraws h⟩) fun s₃ f hresolves hs₃ => ?_)
    · exact ⟨d, (hk id d hget).symm ▸ hget, rfl, rfl⟩
    · exact ends_pure ⟨f, .lapse hadmitted hdraws hresolves, hs₃⟩
  | deadlocked d settlement =>
    have hget := (Engine.admitEnforcement_eq_deadlocked_iff.1 hadmitted).1
    refine .bind (ends_resolve (r := .deadlock d settlement) hs (fun _ hu => hk id d hget ▸ hu) ?_
      (fun err s' htrail h => ⟨htrail, .deadlock hadmitted h⟩) fun s₃ f hresolves hs₃ => ?_)
    · exact ⟨d, (hk id d hget).symm ▸ hget, rfl, rfl⟩
    · exact ends_pure ⟨f, .deadlock hadmitted hresolves, hs₃⟩

end Transaction

/-- **Every operation** succeeds in one of the ways listed, or stops where it can be taken back. -/
theorem Operation.ends {e : Engine} (hk : e.store.Keyed) (op : Operation) :
    op.transaction.Ends { engine := e } (op.Done e) (op.Failed e) := by
  cases op with
  | initiate caller r => exact Transaction.ends_initiate r
  | deposit caller id => exact Transaction.ends_deposit
  | grantSubsidy caller id => exact Transaction.ends_grantSubsidy
  | submit caller id p => exact Transaction.ends_submit p
  | accept caller id => exact Transaction.ends_accept hk
  | counter caller id r => exact Transaction.ends_counter r
  | enforce caller id => exact Transaction.ends_enforce hk
  | retryRelease caller id => exact Transaction.ends_retryRelease

/-! ### The engine afterwards -/

namespace Engine

variable {e e' : Engine} {op : Operation}

/-- The engine that a successful operation leaves. -/
def having (e : Engine) (f : Footprint) (ledger : Ledger) : Engine :=
  { f.after e ledger with log := e.log.extend e.now f.events }

/-- The session in which an operation stops, if it fails. -/
def stop (e : Engine) (op : Operation) : Option Session :=
  match op.transaction { engine := e } with
  | .ok _ _ => none
  | .error _ s => some s

theorem perform_ok {answer : Answer} (hk : e.store.Keyed)
    (h : e.perform op = (.ok answer, e')) :
    ∃ f ledger, Succeeds e op answer f ∧ e.ledger.Moves f.moves ledger ∧
      e.having f ledger = e' := by
  have hends := op.ends hk
  unfold Transaction.Ends at hends
  unfold perform Transaction.run at h
  split at h
  · rename_i a s hrun
    rw [hrun] at hends
    obtain ⟨f, hsucceeds, hshows⟩ := hends
    simp only [Prod.mk.injEq, Except.ok.injEq] at h
    obtain ⟨rfl, rfl⟩ := h
    refine ⟨f, s.engine.ledger, hsucceeds, hshows.moves, ?_⟩
    unfold having Session.commit
    rw [hshows.engine, hshows.events]
    rfl
  · simp only [Prod.mk.injEq, reduceCtorEq, false_and] at h

theorem perform_error {err : DisputeError} (hk : e.store.Keyed)
    (h : e.perform op = (.error err, e')) :
    ∃ s, e.stop op = some s ∧ op.Failed e err s ∧ s.rollback = e' := by
  have hends := op.ends hk
  unfold Transaction.Ends at hends
  unfold perform Transaction.run at h
  split at h
  · simp only [Prod.mk.injEq, reduceCtorEq, false_and] at h
  · rename_i err' s hrun
    rw [hrun] at hends
    simp only [Prod.mk.injEq, Except.error.injEq] at h
    obtain ⟨rfl, rfl⟩ := h
    exact ⟨s, by rw [stop, hrun], hends, rfl⟩

/-- A proposal that is admitted and can be written is put down. -/
theorem perform_submit {caller : AccountId} {id : DisputeId} {p : SignedProposal} {d : Dispute}
    {store : Store} (admitted : e.admitProposal caller id p = .ok d)
    (written : e.store.write {
      record := { d with proposal := some ⟨p.text, p.nonce, p.signature, e.now⟩ }
      nonce := some p.nonce } = .ok store) :
    e.perform (.submit caller id p) = (.ok .done, { e with
      store
      log := e.log.extend e.now
        [(id, .proposalSubmitted p.nonce (Binding.mk id p.nonce p.text).digest)] }) := by
  have hrun : (Operation.submit caller id p).transaction { engine := e } = .ok .done {
      engine := { e with store }
      events := [(id, .proposalSubmitted p.nonce (Binding.mk id p.nonce p.text).digest)] } := by
    show EStateM.map _ (Transaction.submit caller id p) _ = _
    unfold EStateM.map Transaction.submit
    simp only [bind, EStateM.bind, Transaction.engine, Transaction.ask, admitted,
      Transaction.write, written, Transaction.emit, List.nil_append]
  rw [perform, Transaction.run, hrun]
  rfl

/-- An operation that nothing blocks succeeds. -/
theorem perform_of_not_blocked (op : Operation) (hk : e.store.Keyed)
    (h : ∀ err, ¬ op.Blocked e err) :
    ∃ answer f ledger, Succeeds e op answer f ∧ e.perform op = (.ok answer, e.having f ledger) := by
  rcases hdone : e.perform op with ⟨err | answer, e'⟩
  · obtain ⟨_, -, ⟨-, hblocked⟩, -⟩ := perform_error hk hdone
    exact absurd hblocked (h err)
  · obtain ⟨f, ledger, hsucceeds, -, rfl⟩ := perform_ok hk hdone
    exact ⟨answer, f, ledger, hsucceeds, rfl⟩

end Engine

end Arbitration
