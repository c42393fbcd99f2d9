import Arbitration.Engine.Transaction

/-!
# Matching the stake

The counterparty matches the initiator's stake before its window closes. Before that it may ask
for a defense subsidy: the more often the initiator filed again too soon, the larger it is. A
subsidy is held apart, counts as part of the counterparty's stake once that is posted, and never
goes to the counterparty's own account.
-/

namespace Arbitration

namespace Engine

/-- The record of a dispute that is still open. -/
def openDispute (e : Engine) (id : DisputeId) : Except DisputeError Dispute := do
  let d ← e.dispute id
  if d.resolved then throw (.alreadyResolved id d.outcome)
  return d

/-- The stake deadline of a dispute, unless it has passed. -/
def stakeDeadlineAhead (e : Engine) (d : Dispute) : Except DisputeError Timestamp := do
  let deadline ← (d.stakeDeadline e.config).mapError .arithmetic
  if deadline < e.now then throw (.stakeWindowExpired d.id deadline)
  return deadline

/-- The resolution deadline of a dispute, unless it has passed. -/
def resolutionDeadlineAhead (e : Engine) (d : Dispute) : Except DisputeError Timestamp := do
  let deadline ← (d.resolutionDeadline e.config).mapError .arithmetic
  if deadline < e.now then throw (.deadlinePassed d.id deadline)
  return deadline

/-- What a deposit rests on. -/
structure Deposit where
  record : Dispute
  resolutionDeadline : Timestamp
  /-- What the counterparty itself pays. -/
  ownShare : Amount

/-- The deposit that a caller may make. -/
def admitDeposit (e : Engine) (caller : AccountId) (id : DisputeId) :
    Except DisputeError Deposit := do
  let d ← e.openDispute id
  if caller ≠ d.counterparty then throw (.wrongParty id .counterparty caller)
  if d.fullyStaked then throw (.alreadyStaked id)
  let _ ← e.stakeDeadlineAhead d
  let deadline ← e.resolutionDeadlineAhead d
  let ownShare ← (d.initiatorStake.sub d.subsidy).mapError .arithmetic
  return ⟨d, deadline, ownShare⟩

/-- The subsidy that a caller may have. -/
def admitSubsidy (e : Engine) (caller : AccountId) (id : DisputeId) :
    Except DisputeError (Dispute × Amount) := do
  let d ← e.openDispute id
  match d.partyOf caller with
  | some .counterparty => pure ()
  | some .initiator => throw (.subsidyRefused id .initiator)
  | none => throw (.notAParty id caller)
  if d.fullyStaked then throw (.subsidyRefused id .alreadyStaked)
  if !d.subsidy.isZero then throw (.subsidyRefused id .alreadyGranted)
  let _ ← e.stakeDeadlineAhead d
  let score := e.treasury.score d.initiator
  let amount ← (Policy.subsidyAmount d.initiatorStake score e.config.subsidyBaseBps
    e.config.subsidyMaxBps).mapError .arithmetic
  if amount.isZero then throw (.subsidyRefused id .roundsToZero)
  if e.reserve < amount then throw (.subsidyRefused id .reserveShort)
  return (d, amount)

end Engine

namespace Transaction

/-- Posts the counterparty's stake. -/
def deposit (caller : AccountId) (id : DisputeId) : Transaction Unit := do
  let e ← engine
  let ⟨d, deadline, ownShare⟩ ← ask (·.admitDeposit caller id)
  move d.counterparty e.accounts.escrow ownShare
  move e.accounts.defenseFund e.accounts.escrow d.subsidy
  let d := { d with counterpartyStake := d.initiatorStake }
  let total ← calculate d.totalStake
  write { record := d }
  emit id (.staked .counterparty d.counterparty d.counterpartyStake)
  emit id (.fullyStaked total deadline)

/-- Sets a defense subsidy aside for the counterparty's stake. -/
def grantSubsidy (caller : AccountId) (id : DisputeId) : Transaction Amount := do
  let e ← engine
  let (d, amount) ← ask (·.admitSubsidy caller id)
  move e.treasury.reserve e.accounts.defenseFund amount
  write { record := { d with subsidy := amount } }
  emit id (.subsidyGranted d.counterparty amount)
  return amount

end Transaction

end Arbitration
