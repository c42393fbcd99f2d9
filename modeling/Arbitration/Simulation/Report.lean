import Arbitration.Record.Event
import Arbitration.Record.Scenario
import Arbitration.Simulation.Basic
import Arbitration.Text.Search

/-!
# What comes of a scenario

A run ends after the last step, or with the first step that fails without being expected to. The
report holds the state that the run ended in and everything that was not as the scenario expects
it: a scenario passes if there is nothing of this kind.
-/

namespace Arbitration

/-! ### Failures -/

/-- The totals that a scenario can expect. -/
inductive Total where
  | burned
  | reserve
  | escrow
  deriving DecidableEq, Repr

/-- The name of a total. -/
def Total.name : Total → String
  | burned => "burned"
  | reserve => "reserve"
  | escrow => "escrow"

/-- A place in a scenario, for messages. -/
structure StepPlace where
  /-- The number of the step, counted from one. -/
  number : Nat
  label : String
  deriving DecidableEq, Repr

/-- The text of a place. -/
def StepPlace.text (p : StepPlace) : String :=
  "step " ++ toString p.number ++ " (" ++ p.label ++ "): "

/-- What is not as a scenario expects it. -/
inductive Failure where
  /-- A step succeeded that had to fail. -/
  | success (place : StepPlace) (expected : String)
  /-- A step failed with another message than it had to. -/
  | otherError (place : StepPlace) (message expected : String)
  /-- A step failed that had to succeed. -/
  | error (place : StepPlace) (message : String)
  | balance (account : String) (expected actual : Amount)
  | outcome (dispute : DisputeId) (expected actual : Outcome)
  | noDispute (dispute : DisputeId) (expected : Outcome)
  | total (total : Total) (expected actual : Amount)
  | supply
  deriving DecidableEq, Repr

/-- What is said about a value that is not the expected one. -/
def differs (subject expected actual : String) : String :=
  subject ++ ": expected " ++ expected ++ ", got " ++ actual

/-- The message of a failure. -/
def Failure.message : Failure → String
  | success place expected =>
    place.text ++ "succeeded, expected error containing " ++ Text.quoted expected
  | otherError place message expected =>
    place.text ++ "error " ++ Text.quoted message ++ " does not contain " ++ Text.quoted expected
  | error place message => place.text ++ message
  | balance account expected actual => differs ("balance of " ++ account) expected.text actual.text
  | outcome dispute expected actual =>
    differs ("outcome of dispute #" ++ toString dispute.toNat) expected.name actual.name
  | noDispute dispute expected =>
    "outcome of dispute #" ++ toString dispute.toNat ++ ": expected " ++ expected.name ++
      ", dispute does not exist"
  | total t expected actual => differs t.name expected.text actual.text
  | supply => "total supply changed"

/-! ### Running -/

/-- What the result of a step means for the run. -/
inductive Verdict where
  /-- The result is the expected one. -/
  | met
  /-- It is not, but the run goes on. -/
  | unmet (failure : Failure)
  /-- The run ends. -/
  | fatal (failure : Failure)

/-- The verdict on the result of a step with a number. -/
def Step.verdict (s : Step) (number : Nat) (result : Except StepError Unit) : Verdict :=
  let place : StepPlace := ⟨number, s.action.label⟩
  match result, s.expectedError with
  | .ok (), none => .met
  | .ok (), some expected => .unmet (.success place expected)
  | .error e, some expected =>
    if Text.mentions e.chain expected then .met else .unmet (.otherError place e.chain expected)
  | .error e, none => .fatal (.error place e.chain)

/-- A run that ended. -/
structure Run where
  /-- The number of steps that were carried out. -/
  steps : Nat
  failures : List Failure
  final : Simulation

/-- Carries the steps out after some earlier ones. -/
def Simulation.run (sim : Simulation) (done : Nat) : List Step → Run
  | [] => ⟨done, [], sim⟩
  | s :: rest =>
    let (result, sim') := sim.execute s.action
    match s.verdict (done + 1) result with
    | .met => sim'.run (done + 1) rest
    | .unmet failure =>
      let r := sim'.run (done + 1) rest
      { r with failures := failure :: r.failures }
    | .fatal failure => ⟨done + 1, [failure], sim'⟩

/-! ### The report -/

/-- The state in which a run ended, and what is not as expected. -/
structure Report where
  name : String
  /-- The number of steps that were carried out. -/
  steps : Nat
  events : List EventRecord
  /-- The balances of the accounts that the scenario declares. -/
  balances : Table String Amount
  outcomes : Table DisputeId Outcome
  burned : Amount
  reserve : Amount
  escrow : Amount
  failures : List Failure
  deriving DecidableEq

namespace Report

/-- Whether all is as expected. -/
def passed (r : Report) : Bool := r.failures.isEmpty

/-- A total of the report. -/
def total (r : Report) : Total → Amount
  | .burned => r.burned
  | .reserve => r.reserve
  | .escrow => r.escrow

/-- The balances that are not as expected. What the report does not hold counts as nothing. -/
def balanceFailures (r : Report) (expected : Table String Amount) : List Failure :=
  expected.toList.filterMap fun (name, want) =>
    let got := (r.balances.get? name).getD .zero
    if got = want then none else some (.balance name want got)

/-- The outcomes that are not as expected. -/
def outcomeFailures (r : Report) (expected : Table DisputeId Outcome) : List Failure :=
  expected.toList.filterMap fun (dispute, want) =>
    match r.outcomes.get? dispute with
    | some got => if got = want then none else some (.outcome dispute want got)
    | none => some (.noDispute dispute want)

/-- A total that is not as expected. -/
def totalFailure (r : Report) (t : Total) (expected : Option Amount) : Option Failure :=
  expected.bind fun want => if want = r.total t then none else some (.total t want (r.total t))

/-- All that is not as expected in the final state. -/
def stateFailures (r : Report) (e : Expectations) : List Failure :=
  r.balanceFailures e.balances ++ r.outcomeFailures e.outcomes ++
    [r.totalFailure .burned e.burned, r.totalFailure .reserve e.reserve,
      r.totalFailure .escrow e.escrow].filterMap id

end Report

/-- The report on the state in which a run ended, with the failures of its steps. -/
def Run.report (r : Run) (s : Scenario) : Report :=
  let e := r.final.engine
  { name := s.name
    steps := r.steps
    events := e.log.records
    balances := ⟨s.accounts.keys.map fun name => (name, e.ledger.balance ⟨name⟩)⟩
    outcomes := ⟨e.store.toList.map fun d => (d.id, d.outcome)⟩
    burned := e.ledger.balance e.accounts.burnSink
    reserve := e.reserve
    escrow := e.ledger.balance e.accounts.escrow
    failures := r.failures }

/-- The failure of a run that did not keep the total supply. -/
def supplyFailure (before after : Engine) : List Failure :=
  if after.ledger.totalSupply = before.ledger.totalSupply then [] else [.supply]

/-- Runs a scenario, under another configuration than its own if one is given. -/
def Scenario.simulate (s : Scenario) (override : Option Config) : Except SetupError Report := do
  let start ← Simulation.start s override
  let run := start.run 0 s.steps
  let report := run.report s
  return { report with
    failures := report.failures ++ report.stateFailures s.expect ++
      supplyFailure start.engine run.final.engine }

/-! ### Records -/

/-- The report as JSON. -/
def Report.toJson (r : Report) : Json := .obj [
  ("name", Arbitration.toJson r.name),
  ("steps_run", .nat r.steps),
  ("events", Arbitration.toJson r.events),
  ("balances", Arbitration.toJson r.balances),
  ("outcomes", Arbitration.toJson r.outcomes),
  ("burned", Arbitration.toJson r.burned),
  ("reserve", Arbitration.toJson r.reserve),
  ("escrow", Arbitration.toJson r.escrow),
  ("failures", .arr (r.failures.map fun f => .str f.message))]

end Arbitration
