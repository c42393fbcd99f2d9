import Arbitration.Config.Basic
import Arbitration.Dispute.Basic
import Arbitration.Table
import Arbitration.Text.Quoted

/-!
# Scenarios

A scenario is a script for an engine of its own: opening balances, steps in order, and what is
expected of the state after the last one. A step calls the engine as one of the accounts or
moves the clock, and may be expected to fail. Account names in a scenario are texts; whether
they can name accounts shows when it runs.
-/

namespace Arbitration

/-- What a step does. -/
inductive Action where
  | initiate (initiator counterparty : String) (stake : Amount) (evidence : String)
    (fallback : Option FallbackLicense)
  | deposit (caller : String) (dispute : DisputeId)
  /-- The oracle proposes terms, under the next unused nonce if none is given. -/
  | propose (dispute : DisputeId) (text : String) (nonce : Option UInt64)
  | accept (caller : String) (dispute : DisputeId)
  | counter (caller : String) (dispute : DisputeId) (maxFee : Amount) (evidence : String)
  | subsidy (caller : String) (dispute : DisputeId)
  | enforce (caller : String) (dispute : DisputeId)
  | retryRelease (caller : String) (dispute : DisputeId)
  | advance (days secs : UInt64)
  deriving DecidableEq, Repr

namespace Action

/-- The name of an action. -/
def label : Action → String
  | initiate .. => "initiate"
  | deposit .. => "deposit"
  | propose .. => "propose"
  | accept .. => "accept"
  | counter .. => "counter"
  | subsidy .. => "subsidy"
  | enforce .. => "enforce"
  | retryRelease .. => "retry_release"
  | advance .. => "advance"

/-- The names of all actions. -/
def labels : List String := [
  "initiate", "deposit", "propose", "accept", "counter", "subsidy", "enforce", "retry_release",
  "advance"]

/-- The evidence of a filing or a counter round that names none. -/
def defaultEvidence : String := "evidence"

/-- By how many seconds some days and seconds move the clock, if 64 bits hold them. -/
def clockSeconds? (days secs : UInt64) : Option UInt64 :=
  let total := days.toNat * Config.daySecs.toNat + secs.toNat
  if total < UInt64.size then some (UInt64.ofNat total) else none

end Action

/-- A step of a scenario. -/
structure Step where
  action : Action
  /-- A part of the message with which the step has to fail; without it the step has to succeed. -/
  expectedError : Option String := none
  deriving DecidableEq, Repr

/-- What is expected of the state after the last step. -/
structure Expectations where
  balances : Table String Amount := {}
  outcomes : Table DisputeId Outcome := {}
  /-- What the burn sink holds. -/
  burned : Option Amount := none
  /-- What the incentive reserve holds. -/
  reserve : Option Amount := none
  /-- What is in escrow. -/
  escrow : Option Amount := none
  deriving DecidableEq, Repr

/-- A script for an engine. -/
structure Scenario where
  name : String
  description : Option String := none
  /-- The time at which the clock starts. -/
  start : String
  /-- The opening balance of the incentive reserve. -/
  reserve : Amount := .zero
  /-- The opening balances of the accounts. -/
  accounts : Table String Amount
  /-- The configuration of the engine, if it is not the default. -/
  config : Option Config := none
  steps : List Step
  expect : Expectations := {}
  deriving DecidableEq, Repr

namespace Scenario

/-- The start of the clock where none is given. -/
def defaultStart : String := "2026-01-01T00:00:00Z"

end Scenario

end Arbitration
