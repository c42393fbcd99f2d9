import Arbitration.Engine.Transaction

/-!
# Resolving a dispute

A resolution pays the stakes out of escrow, burns what is to be burned, returns an earmarked
incentive that is not due, releases the asset and marks the record. The fallback license comes
last, because it alone cannot be taken back: if it fails, everything before it is undone and the
dispute stays open.
-/

namespace Arbitration

/-- A decision that is ready to be carried out. -/
structure Resolution where
  outcome : Outcome
  settlement : Settlement
  release : Release
  /-- Whether the fallback license applies to the asset. It does not where the parties agreed. -/
  applyFallback : Bool
  deriving DecidableEq

/-- What the burn sink takes, if the settlement moves exactly the stakes of the dispute. -/
def Resolution.toBurn (r : Resolution) (d : Dispute) : Except DisputeError Amount := do
  let total ← d.totalStake.mapError .arithmetic
  if !r.settlement.conserves total then
    throw (.conservationViolated d.id total (← r.settlement.outflow.mapError .arithmetic))
  r.settlement.totalBurned.mapError .arithmetic

namespace Transaction

/-- Pays the stakes out of escrow. -/
def payOut (d : Dispute) (s : Settlement) (burned : Amount) : Transaction Unit := do
  let accounts := (← engine).accounts
  move accounts.escrow d.initiator s.toInitiator
  move accounts.escrow d.counterparty s.toCounterparty
  move accounts.escrow accounts.burnSink burned

/-- Returns an earmarked incentive to the reserve, unless the outcome is the one that it is for. -/
def returnEarmark (d : Dispute) (outcome : Outcome) : Transaction Unit := do
  let e ← engine
  if outcome ≠ .defaultLicenseApplied then
    move e.accounts.incentiveEarmark e.treasury.reserve d.earmarkedIncentive

/-- Releases the asset. Where the configuration allows it, a release that the registry refuses
is kept in the record for later. -/
def release (d : Dispute) (r : Release) : Transaction Dispute := do
  match ← tryUnfreeze d.id d.initiator r with
  | none => return d
  | some err =>
    match (← engine).config.unfreezePolicy with
    | .strict => throw (.registry err)
    | .bestEffort =>
      emit d.id (.releasePending err.message)
      return { d with pendingRelease := some r }

/-- Carries a resolution out. -/
def resolve (d : Dispute) (r : Resolution) : Transaction Unit := do
  let burned ← ask fun _ => r.toBurn d
  payOut d r.settlement burned
  returnEarmark d r.outcome
  let released ← release d r.release
  let e ← engine
  -- What is put back on a failure is the record in the store, not the one that was handed in.
  let previous ← ask (·.dispute d.id)
  replace previous (released.resolve r.outcome r.settlement e.now)
  if !burned.isZero then emit d.id (.burned r.settlement.burned r.settlement.dust)
  if !r.settlement.incentive.isZero then
    emit d.id (.incentivePaid d.initiator r.settlement.incentive)
  if r.applyFallback then
    applyFallback d.id d.fallback.termsRef
    emit d.id (.fallbackLicenseApplied d.fallback.termsRef)
  emit d.id (.resolved r.outcome r.settlement.toInitiator r.settlement.toCounterparty
    r.settlement.burned r.settlement.dust r.settlement.incentive)

end Transaction

end Arbitration
