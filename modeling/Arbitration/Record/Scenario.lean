import Arbitration.Json.Canonical
import Arbitration.Json.Reader
import Arbitration.Record.Config
import Arbitration.Record.Dispute
import Arbitration.Scenario.Basic

/-!
# Scenarios in records

An action stands in its step under its own name. The first name of an action in a step counts;
what stands under any other name is passed over. Tables are objects, and their entries are kept
in ascending order of the keys, of repeated keys the last one.
-/

namespace Arbitration

/-! ### Tables -/

instance {α : Type} [Recorded α] : Recorded (Table String α) where
  toJson t := .obj (t.toList.map fun e => (e.1, toJson e.2))
  ofJson? j := do
    let entries ← (← j.members?).mapM fun m => do return (m.1, ← ofJson? m.2)
    return ⟨Json.sortByKey (Table.ofList entries).toList⟩

/-- The number of a dispute as the key of an object: its digits, the first of which is no
needless zero. -/
def DisputeId.ofKey? (key : String) : Option DisputeId := do
  let digits := key.toList
  if digits.isEmpty || !digits.all Char.isDigit then none
  if digits.head? = some '0' ∧ digits.length ≠ 1 then none
  let n := Json.natOfDigits digits
  if n < UInt64.size then return ⟨UInt64.ofNat n⟩ else none

/-- Entries in ascending order of the numbers of disputes. -/
def sortByDispute {α : Type} (entries : List (DisputeId × α)) : List (DisputeId × α) :=
  entries.mergeSort fun a b => decide (a.1.toNat ≤ b.1.toNat)

instance {α : Type} [Recorded α] : Recorded (Table DisputeId α) where
  toJson t := .obj (t.toList.map fun e => (toString e.1.toNat, toJson e.2))
  ofJson? j := do
    let entries ← (← j.members?).mapM fun m => do
      return (← DisputeId.ofKey? m.1, ← ofJson? m.2)
    return ⟨sortByDispute (Table.ofList entries).toList⟩

/-! ### Actions and steps -/

namespace Action

/-- What an action needs, with the names under which it stands. -/
def details : Action → List (String × Json)
  | initiate initiator counterparty stake evidence fallback => [
    ("initiator", toJson initiator),
    ("counterparty", toJson counterparty),
    ("stake", toJson stake),
    ("evidence", toJson evidence),
    ("fallback", toJson fallback)]
  | propose dispute text nonce => [
    ("dispute", toJson dispute),
    ("text", toJson text),
    ("nonce", toJson nonce)]
  | counter caller dispute maxFee evidence => [
    ("caller", toJson caller),
    ("dispute", toJson dispute),
    ("max_fee", toJson maxFee),
    ("evidence", toJson evidence)]
  | advance days secs => [("days", toJson days), ("secs", toJson secs)]
  | deposit caller dispute | accept caller dispute | subsidy caller dispute
  | enforce caller dispute | retryRelease caller dispute => [
    ("caller", toJson caller),
    ("dispute", toJson dispute)]

/-- The action with a name and what it needs. -/
def ofDetails? (m : List (String × Json)) (label : String) : Option Action :=
  match label with
  | "initiate" => do
    return initiate
      (← Json.required m "initiator") (← Json.required m "counterparty")
      (← Json.required m "stake") (← Json.withDefault m "evidence" defaultEvidence)
      (← Json.optional m "fallback")
  | "deposit" => return deposit (← Json.required m "caller") (← Json.required m "dispute")
  | "propose" => do
    return propose
      (← Json.required m "dispute") (← Json.required m "text") (← Json.optional m "nonce")
  | "accept" => return accept (← Json.required m "caller") (← Json.required m "dispute")
  | "counter" => do
    return counter
      (← Json.required m "caller") (← Json.required m "dispute") (← Json.required m "max_fee")
      (← Json.withDefault m "evidence" defaultEvidence)
  | "subsidy" => return subsidy (← Json.required m "caller") (← Json.required m "dispute")
  | "enforce" => return enforce (← Json.required m "caller") (← Json.required m "dispute")
  | "retry_release" => do
    return retryRelease (← Json.required m "caller") (← Json.required m "dispute")
  | "advance" => do
    return advance (← Json.withDefault m "days" 0) (← Json.withDefault m "secs" 0)
  | _ => none

end Action

instance : Recorded Step where
  toJson s := .obj (
    (s.action.label, .obj s.action.details) ::
    match s.expectedError with
    | some text => [("expect_error", toJson text)]
    | none => [])
  ofJson? j := do
    let members ← j.members?
    let expectedError ← Json.optional members "expect_error"
    let (label, payload) ← members.find? (Action.labels.contains ·.1)
    return { action := ← Action.ofDetails? (← payload.members?) label, expectedError }

/-! ### Scenarios -/

instance : Recorded Expectations where
  toJson e := .obj [
    ("balances", toJson e.balances),
    ("outcomes", toJson e.outcomes),
    ("burned", toJson e.burned),
    ("reserve", toJson e.reserve),
    ("escrow", toJson e.escrow)]
  ofJson? j := do
    let members ← j.members?
    return {
      balances := ← Json.withDefault members "balances" {}
      outcomes := ← Json.withDefault members "outcomes" {}
      burned := ← Json.optional members "burned"
      reserve := ← Json.optional members "reserve"
      escrow := ← Json.optional members "escrow" }

instance : Recorded Scenario where
  toJson s := .obj [
    ("name", toJson s.name),
    ("description", toJson s.description),
    ("start", toJson s.start),
    ("reserve", toJson s.reserve),
    ("accounts", toJson s.accounts),
    ("config", toJson s.config),
    ("steps", toJson s.steps),
    ("expect", toJson s.expect)]
  ofJson? j := do
    let members ← j.members?
    return {
      name := ← Json.required members "name"
      description := ← Json.optional members "description"
      start := ← Json.withDefault members "start" Scenario.defaultStart
      reserve := ← Json.withDefault members "reserve" .zero
      accounts := ← Json.required members "accounts"
      config := ← Json.optional members "config"
      steps := ← Json.required members "steps"
      expect := ← Json.withDefault members "expect" {} }

end Arbitration
