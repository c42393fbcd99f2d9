import Arbitration.Event
import Arbitration.Record.Dispute

/-!
# Events in records

An event carries its name under `type` and its details beside it. In the log an event has no
object of its own: its fields follow those of its place in the log.
-/

namespace Arbitration

namespace Event

/-- The details of an event, in order. -/
def details : Event → List (String × Json)
  | disputeCreated initiator counterparty baseStake stake escalated evidence stakeDeadline => [
    ("initiator", toJson initiator),
    ("counterparty", toJson counterparty),
    ("base_stake", toJson baseStake),
    ("stake", toJson stake),
    ("escalated", toJson escalated),
    ("evidence", toJson evidence),
    ("stake_deadline", toJson stakeDeadline)]
  | staked party account amount => [
    ("party", toJson party),
    ("account", toJson account),
    ("amount", toJson amount)]
  | fullyStaked total resolutionDeadline => [
    ("total", toJson total),
    ("resolution_deadline", toJson resolutionDeadline)]
  | proposalSubmitted nonce binding => [("nonce", toJson nonce), ("binding", toJson binding)]
  | proposalAccepted party => [("party", toJson party)]
  | feeBurned account amount routedToPool => [
    ("account", toJson account),
    ("amount", toJson amount),
    ("routed_to_pool", toJson routedToPool)]
  | counterProposed party round evidence extensionSecs resolutionDeadline => [
    ("party", toJson party),
    ("round", toJson round),
    ("evidence", toJson evidence),
    ("extension_secs", toJson extensionSecs),
    ("resolution_deadline", toJson resolutionDeadline)]
  | subsidyGranted account amount => [("account", toJson account), ("amount", toJson amount)]
  | subsidyReturned amount => [("amount", toJson amount)]
  | burned amount dust => [("amount", toJson amount), ("dust", toJson dust)]
  | incentivePaid account amount => [("account", toJson account), ("amount", toJson amount)]
  | incentiveSkipped owed available => [("owed", toJson owed), ("available", toJson available)]
  | releasePending reason => [("reason", toJson reason)]
  | releaseCompleted => []
  | fallbackLicenseApplied termsRef => [("terms_ref", toJson termsRef)]
  | resolved outcome toInitiator toCounterparty burnt dust incentive => [
    ("outcome", toJson outcome),
    ("to_initiator", toJson toInitiator),
    ("to_counterparty", toJson toCounterparty),
    ("burned", toJson burnt),
    ("dust", toJson dust),
    ("incentive", toJson incentive)]

/-- The name of an event and its details. -/
def members (e : Event) : List (String × Json) := ("type", .str e.name) :: e.details

/-- All names of events, in the order in which they are numbered. -/
def names : List String := [
  "dispute_created", "staked", "fully_staked", "proposal_submitted", "proposal_accepted",
  "fee_burned", "counter_proposed", "subsidy_granted", "subsidy_returned", "burned",
  "incentive_paid", "incentive_skipped", "release_pending", "release_completed",
  "fallback_license_applied", "resolved"]

/-- The event with a name and some details. -/
def ofDetails? (m : List (String × Json)) (name : String) : Option Event :=
  match name with
  | "dispute_created" => do
    return disputeCreated
      (← Json.required m "initiator") (← Json.required m "counterparty")
      (← Json.required m "base_stake") (← Json.required m "stake")
      (← Json.required m "escalated") (← Json.required m "evidence")
      (← Json.required m "stake_deadline")
  | "staked" => do
    return staked
      (← Json.required m "party") (← Json.required m "account") (← Json.required m "amount")
  | "fully_staked" => do
    return fullyStaked
      (← Json.required m "total") (← Json.required m "resolution_deadline")
  | "proposal_submitted" => do
    return proposalSubmitted
      (← Json.required m "nonce") (← Json.required m "binding")
  | "proposal_accepted" => return proposalAccepted (← Json.required m "party")
  | "fee_burned" => do
    return feeBurned
      (← Json.required m "account") (← Json.required m "amount")
      (← Json.required m "routed_to_pool")
  | "counter_proposed" => do
    return counterProposed
      (← Json.required m "party") (← Json.required m "round") (← Json.required m "evidence")
      (← Json.required m "extension_secs") (← Json.required m "resolution_deadline")
  | "subsidy_granted" => do
    return subsidyGranted
      (← Json.required m "account") (← Json.required m "amount")
  | "subsidy_returned" => return subsidyReturned (← Json.required m "amount")
  | "burned" => return burned (← Json.required m "amount") (← Json.required m "dust")
  | "incentive_paid" => do
    return incentivePaid
      (← Json.required m "account") (← Json.required m "amount")
  | "incentive_skipped" => do
    return incentiveSkipped
      (← Json.required m "owed") (← Json.required m "available")
  | "release_pending" => return releasePending (← Json.required m "reason")
  | "release_completed" => return releaseCompleted
  | "fallback_license_applied" => return fallbackLicenseApplied (← Json.required m "terms_ref")
  | "resolved" => do
    return resolved
      (← Json.required m "outcome") (← Json.required m "to_initiator")
      (← Json.required m "to_counterparty") (← Json.required m "burned")
      (← Json.required m "dust") (← Json.required m "incentive")
  | _ => none

end Event

instance : Recorded Event where
  toJson e := .obj e.members
  ofJson? j := do
    let members ← j.members?
    Event.ofDetails? members (← (← (← Json.field? members "type")).text?)

/-- The name of an event in the log, where its number may stand in its place. -/
def Event.tag? : Json → Option String
  | .str name => some name
  | .int n => if n < 0 then none else Event.names[n.toNat]?
  | _ => none

/-- The fields of a place in the log. -/
def EventRecord.fields : List String := ["sequence", "dispute_id", "at"]

instance : Recorded EventRecord where
  toJson r := .obj (
    ("sequence", .nat r.sequence) ::
    ("dispute_id", toJson r.dispute) ::
    ("at", toJson r.time) ::
    r.event.members)
  ofJson? j := do
    let members ← j.members?
    let sequence : UInt64 ← Json.required members "sequence"
    let details := members.filter (!EventRecord.fields.contains ·.1)
    let name ← Event.tag? (← (← Json.field? details "type"))
    return {
      sequence := sequence.toNat
      dispute := ← Json.required members "dispute_id"
      time := ← Json.required members "at"
      event := ← Event.ofDetails? details name }

end Arbitration
