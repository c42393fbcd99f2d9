import Arbitration.Config.Document
import Arbitration.Record.Scenario

/-!
# Scenarios as YAML texts

A scenario is a mapping with the fields of its record. What is asked for is known for all of
them but for what an action needs: there a scalar has to say by itself what it is, so that the
name of an account that looks like a number has to be quoted.
-/

namespace Arbitration

namespace Scenario

/-- What is asked for in the terms of a fallback license. -/
def fallbackShape : Yaml.Shape := .record [
  ("terms_ref", .text),
  ("duration_secs", .natural),
  ("royalty_cap_bps", .natural),
  ("exclusive", .boolean)]

/-- What is asked for where an action needs no more than the one who acts and a dispute. -/
def callShape : Yaml.Shape := .record [("caller", .text), ("dispute", .natural)]

/-- What is asked for under the names of the actions. -/
def actionShapes : List (String × Yaml.Shape) := [
  ("initiate", .record [
    ("initiator", .text),
    ("counterparty", .text),
    ("stake", .natural),
    ("evidence", .text),
    ("fallback", .optional fallbackShape)]),
  ("deposit", callShape),
  ("propose", .record [("dispute", .natural), ("text", .text), ("nonce", .optional .natural)]),
  ("accept", callShape),
  ("counter", .record [
    ("caller", .text),
    ("dispute", .natural),
    ("max_fee", .natural),
    ("evidence", .text)]),
  ("subsidy", callShape),
  ("enforce", callShape),
  ("retry_release", callShape),
  ("advance", .record [("days", .natural), ("secs", .natural)])]

/-- The number of collections that may be inside one another in a step: of 128 in all, three are
around it. -/
def stepDepth : Nat := 125

/-- What is asked for in a step. -/
def stepShape : Yaml.Shape :=
  .choice stepDepth [("expect_error", .optional .text)] actionShapes

/-- What is asked for in the expectations. -/
def expectShape : Yaml.Shape := .record [
  ("balances", .table false .natural),
  ("outcomes", .table true .word),
  ("burned", .optional .natural),
  ("reserve", .optional .natural),
  ("escrow", .optional .natural)]

/-- What is asked for in the text of a scenario. -/
def shape : Yaml.Shape := .record [
  ("name", .text),
  ("description", .optional .text),
  ("start", .text),
  ("reserve", .natural),
  ("accounts", .table false .natural),
  ("config", .optional Config.shape),
  ("steps", .list stepShape),
  ("expect", expectShape)]

/-- Why a text does not give a scenario that can run. -/
inductive DocumentError where
  /-- It is no YAML text of a scenario. -/
  | malformed
  | noAccounts (name : String)
  deriving DecidableEq, Repr

/-- The messages of a refusal and of what is behind it, outermost first. -/
def DocumentError.causes : DocumentError → List String
  | malformed => ["malformed scenario", "not a mapping with the fields of a scenario"]
  | noAccounts name => ["scenario " ++ Text.quoted name ++ " declares no accounts"]

/-- The scenario of a YAML text. It has to have an account. -/
def ofYaml (text : String) : Except DocumentError Scenario :=
  match (Yaml.read? shape text).bind ofJson? with
  | none => .error .malformed
  | some (s : Scenario) =>
    if s.accounts.size = 0 then .error (.noAccounts s.name) else .ok s

end Scenario

end Arbitration
