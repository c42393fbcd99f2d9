import Arbitration.Engine.Resolution
import Arbitration.Engine.Staking

/-!
# Negotiating

Once both parties have staked, the oracle proposes terms, one proposal a round. The dispute is
resolved when both parties have accepted the same proposal. Instead, either party may open
another round with new evidence, for a fee that doubles every time and a deadline that moves by
less and less.
-/

namespace Arbitration

namespace Engine

/-- The record on which an oracle's proposal may be put down. -/
def admitProposal (e : Engine) (caller : AccountId) (id : DisputeId) (p : SignedProposal) :
    Except DisputeError Dispute := do
  if caller ≠ e.oracle.account then throw (.notOracle caller)
  let d ← e.openDispute id
  if !d.fullyStaked then throw (.notFullyStaked id)
  if d.proposal.isSome then throw (.proposalAlreadySubmitted id)
  if p.text.toList.all Text.isBlank then throw .emptyProposal
  let _ ← e.resolutionDeadlineAhead d
  -- The nonce counts only once it is known to come from the oracle.
  (e.oracle.verify id p).mapError (.invalidSignature id)
  match e.store.nonce with
  | some last => if p.nonce ≤ last then throw (.staleNonce p.nonce last)
  | none => pure ()
  return d

/-- What an acceptance rests on. -/
structure Acceptance where
  record : Dispute
  party : Party
  /-- The terms that are accepted. -/
  text : String

/-- The acceptance that a caller may declare. -/
def admitAcceptance (e : Engine) (caller : AccountId) (id : DisputeId) :
    Except DisputeError Acceptance := do
  let d ← e.openDispute id
  match d.partyOf caller with
  | none => throw (.notAParty id caller)
  | some party =>
    match d.proposal with
    | none => throw (.noProposal id)
    | some p =>
      let _ ← e.resolutionDeadlineAhead d
      if d.hasAccepted party then throw (.alreadyAccepted id party)
      return ⟨d, party, p.text⟩

/-- What another round rests on. -/
structure CounterRound where
  record : Dispute
  party : Party
  fee : Amount

/-- The round that a caller may open. -/
def admitCounter (e : Engine) (caller : AccountId) (id : DisputeId) (r : CounterRequest) :
    Except DisputeError CounterRound := do
  let d ← e.openDispute id
  match d.partyOf caller with
  | none => throw (.notAParty id caller)
  | some party =>
    if !d.fullyStaked then throw (.notFullyStaked id)
    let _ ← e.resolutionDeadlineAhead d
    match Policy.counterFee e.config.counterBaseFee d.counterCount e.config.maxCounters with
    | .error (.counterLimit _ limit) => throw (.maxCountersReached id limit)
    | .error (.arithmetic err) => throw (.arithmetic err)
    | .ok fee =>
      if r.maxFee < fee then throw (.insufficientFee fee r.maxFee)
      return ⟨d, party, fee⟩

end Engine

namespace Transaction

/-- Puts the oracle's proposal down for the current round. -/
def submit (caller : AccountId) (id : DisputeId) (p : SignedProposal) : Transaction Unit := do
  let e ← engine
  let d ← ask (·.admitProposal caller id p)
  let proposal : Proposal := ⟨p.text, p.nonce, p.signature, e.now⟩
  write { record := { d with proposal := some proposal }, nonce := some p.nonce }
  emit id (.proposalSubmitted p.nonce (Binding.mk id p.nonce p.text).digest)

/-- Accepts the proposal that stands; the second acceptance resolves the dispute. -/
def accept (caller : AccountId) (id : DisputeId) : Transaction Unit := do
  let ⟨d, party, text⟩ ← ask (·.admitAcceptance caller id)
  let d := d.accept party
  emit id (.proposalAccepted party)
  if d.bothAccepted then
    resolve d {
      outcome := .acceptedProposal
      settlement := Policy.acceptedSplit d.initiatorStake d.counterpartyStake
      release := .acceptedProposal text
      applyFallback := false }
  else write { record := d }

/-- Moves what was offered above the fee to the fee pool, where the configuration says so. -/
def routeExcess (caller : AccountId) (offered fee : Amount) : Transaction Amount := do
  let e ← engine
  if e.config.routeExcessFeeToPool then
    let excess ← calculate (offered.sub fee)
    move caller e.accounts.feePool excess
    return excess
  else return .zero

/-- Opens another round. -/
def counter (caller : AccountId) (id : DisputeId) (r : CounterRequest) : Transaction Unit := do
  let e ← engine
  let ⟨d, party, fee⟩ ← ask (·.admitCounter caller id r)
  move caller e.accounts.burnSink fee
  let routed ← routeExcess caller r.maxFee fee
  let extension := Policy.counterExtension e.config.counterExtensionSecs d.cumulativeExtensionSecs
    e.config.maxTotalExtensionSecs
  let d ← calculate (d.counterRound r.evidence extension)
  let deadline ← calculate (d.resolutionDeadline e.config)
  write { record := d }
  emit id (.feeBurned caller fee routed)
  emit id (.counterProposed party d.counterCount r.evidence extension deadline)

end Transaction

end Arbitration
