import Arbitration.Engine.Transaction

/-!
# Filing a dispute

The initiator posts a stake, which is raised if the same pair met in a dispute not long ago, and
the disputed asset is frozen. Where incentives are earmarked, the one for this dispute is set
aside now, in full or not at all.
-/

namespace Arbitration

/-- The stake that a filing costs, if it is admitted. -/
def Engine.admitFiling (e : Engine) (caller : AccountId) (r : InitiateRequest) :
    Except DisputeError Policy.Escalation := do
  if r.counterparty = caller then throw (.invalidCounterparty (.self caller))
  if caller.isSystem || r.counterparty.isSystem then throw (.invalidCounterparty .protocolAccount)
  if r.stake.isZero then throw .zeroStake
  r.fallback.validate.mapError .license
  let last := e.store.lastBetween caller r.counterparty
  (Policy.escalatedStake r.stake last e.now e.config.cooldownSecs
    e.config.escalationMultiplierBps).mapError .arithmetic

namespace Transaction

/-- Sets the incentive on a stake aside, if the reserve covers it. -/
def earmarkIncentive (stake : Amount) : Transaction Amount := do
  let e ← engine
  let owed ← calculate (Policy.incentiveAmount stake e.config.incentiveBps)
  let draw := Policy.incentiveDraw owed e.reserve
  move e.treasury.reserve e.accounts.incentiveEarmark draw
  return draw

/-- What is set aside at filing: nothing where all disputes share the reserve. -/
def reserveIncentive (stake : Amount) : Transaction Amount := do
  match (← engine).config.reservePolicy with
  | .earmarked => earmarkIncentive stake
  | .sharedFirstCome => return .zero

/-- Files a dispute. -/
def initiate (caller : AccountId) (r : InitiateRequest) : Transaction DisputeId := do
  let e ← engine
  let ⟨stake, escalated⟩ ← ask (·.admitFiling caller r)
  let id := e.store.nextId
  move caller e.accounts.escrow stake
  let earmarked ← reserveIncentive stake
  if escalated then recordHarassment caller
  freeze id caller
  let d := Dispute.opened {
    id
    initiator := caller
    counterparty := r.counterparty
    baseStake := r.stake
    stake
    escalated
    now := e.now
    evidence := r.evidence
    fallback := r.fallback
    earmarkedIncentive := earmarked }
  -- A deadline beyond the calendar stops the filing, so it comes before the record is written.
  let deadline ← calculate (d.stakeDeadline e.config)
  write { record := d, encounter := some ⟨caller, r.counterparty, e.now⟩ }
  emit id (.disputeCreated caller r.counterparty r.stake stake escalated r.evidence deadline)
  emit id (.staked .initiator caller stake)
  return id

end Transaction

end Arbitration
