import Arbitration.Engine.Resolution
import Arbitration.Engine.Staking

/-!
# When time runs out

After its deadline anyone may force a dispute to its end. If the counterparty did not stake, the
initiator gets its stake back and an incentive beside it, as far as the reserve allows. If both
staked, part of the stakes is burned. Anyone may also repeat a release that the registry refused
at the time.
-/

namespace Arbitration

namespace Engine

/-- A dispute whose time is up: the counterparty stayed silent, or the parties did not agree. -/
inductive Overdue where
  | silent (d : Dispute)
  | deadlocked (d : Dispute) (settlement : Settlement)

/-- The dispute, if its time is up. -/
def admitEnforcement (e : Engine) (id : DisputeId) : Except DisputeError Overdue := do
  let d ← e.openDispute id
  if d.fullyStaked then
    let deadline ← (d.resolutionDeadline e.config).mapError .arithmetic
    if e.now ≤ deadline then throw (.tooEarly id deadline)
    let settlement ← (Policy.timeoutSplit d.initiatorStake d.counterpartyStake
      e.config.timeoutBurnBps).mapError .arithmetic
    return .deadlocked d settlement
  else
    let deadline ← (d.stakeDeadline e.config).mapError .arithmetic
    if e.now ≤ deadline then throw (.tooEarly id deadline)
    return .silent d

/-- The record of a dispute and the release that it is waiting for. -/
def admitRetry (e : Engine) (id : DisputeId) : Except DisputeError (Dispute × Release) := do
  let d ← e.dispute id
  match d.pendingRelease with
  | some r => if d.resolved then return (d, r) else throw (.noPendingRelease id)
  | none => throw (.noPendingRelease id)

/-- From where an incentive is paid, how much of it, and how much there is for it. -/
def incentiveSource (e : Engine) (d : Dispute) (owed : Amount) : AccountId × Amount × Amount :=
  match e.config.reservePolicy with
  | .sharedFirstCome => (e.treasury.reserve, Policy.incentiveDraw owed e.reserve, e.reserve)
  | .earmarked => (e.accounts.incentiveEarmark, d.earmarkedIncentive, d.earmarkedIncentive)

end Engine

namespace Transaction

/-- Returns a subsidy that was not used to the reserve. -/
def returnSubsidy (d : Dispute) : Transaction Unit := do
  let e ← engine
  if !d.subsidy.isZero then
    move e.accounts.defenseFund e.treasury.reserve d.subsidy
    emit d.id (.subsidyReturned d.subsidy)

/-- Pays the incentive, in full or not at all, and gives what was paid. -/
def payIncentive (d : Dispute) : Transaction Amount := do
  let e ← engine
  let owed ← calculate (Policy.incentiveAmount d.initiatorStake e.config.incentiveBps)
  let (source, draw, available) := e.incentiveSource d owed
  -- A draw of nothing is worth an event only if something was owed.
  if draw.isZero then
    if !owed.isZero then emit d.id (.incentiveSkipped owed available)
    return .zero
  else
    move source d.initiator draw
    return draw

/-- Forces a dispute to its end and gives the outcome. -/
def enforce (id : DisputeId) : Transaction Outcome := do
  match ← ask (·.admitEnforcement id) with
  | .silent d =>
    returnSubsidy d
    let incentive ← payIncentive d
    resolve d {
      outcome := .defaultLicenseApplied
      settlement := Policy.defaultLicenseSplit d.initiatorStake incentive
      release := .defaultLicense d.fallback.termsRef
      applyFallback := true }
    return .defaultLicenseApplied
  | .deadlocked d settlement =>
    resolve d {
      outcome := .timeoutWithBurn
      settlement
      release := .timeoutWithBurn d.fallback.termsRef
      applyFallback := true }
    return .timeoutWithBurn

/-- Repeats a release that the registry refused. -/
def retryRelease (id : DisputeId) : Transaction Unit := do
  let (d, r) ← ask (·.admitRetry id)
  match ← tryUnfreeze id d.initiator r with
  | some err => throw (.registry err)
  | none =>
    write { record := { d with pendingRelease := none } }
    emit id .releaseCompleted

end Transaction

end Arbitration
