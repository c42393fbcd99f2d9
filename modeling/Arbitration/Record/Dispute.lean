import Arbitration.Dispute.Basic
import Arbitration.Record.Basic

/-!
# Disputes in records

Roles and outcomes are written by name. A release carries its kind under `kind`, a stage its
name under `stage`, and beside it the outcome once the dispute is resolved.
-/

namespace Arbitration

instance : Recorded Outcome where
  toJson o := .str o.name
  ofJson? := Json.choice? (Outcome.all.map fun o => (o.name, o))

instance : Recorded Party where
  toJson p := .str p.name
  ofJson? := Json.choice? (Party.all.map fun p => (p.name, p))

instance : Recorded Roles where
  toJson r := .obj [("initiator", toJson r.initiator), ("counterparty", toJson r.counterparty)]
  ofJson? j := do
    let members ← j.members?
    return {
      initiator := ← Json.required members "initiator"
      counterparty := ← Json.required members "counterparty" }

/-! ### Stages -/

/-- What the name of a stage leaves open: whether an outcome belongs to it. -/
inductive StageKind where
  | plain (s : Stage)
  | resolved

/-- All names of stages. -/
def StageKind.all : List (String × StageKind) := [
  (Stage.staked.name, plain .staked),
  (Stage.proposalPending.name, plain .proposalPending),
  (Stage.proposalReady.name, plain .proposalReady),
  ((Stage.resolved .pending).name, resolved)]

instance : Recorded Stage where
  toJson
    | .resolved outcome =>
      .obj [("stage", .str (Stage.resolved outcome).name), ("outcome", toJson outcome)]
    | s => .obj [("stage", .str s.name)]
  ofJson? j := do
    let members ← j.members?
    let outcome ← Json.field? members "outcome"
    match ← Json.choice? StageKind.all (← (← Json.field? members "stage")) with
    | .resolved => return .resolved (← outcome.bind ofJson?)
    | .plain s =>
      match outcome with
      | none | some .null => return s
      | some _ => none

/-! ### Licenses, settlements and releases -/

instance : Recorded FallbackLicense where
  toJson l := .obj [
    ("terms_ref", toJson l.termsRef),
    ("duration_secs", toJson l.durationSecs),
    ("royalty_cap_bps", toJson l.royaltyCapBps),
    ("exclusive", toJson l.exclusive)]
  ofJson? j := do
    let members ← j.members?
    return {
      termsRef := ← Json.required members "terms_ref"
      durationSecs := ← Json.required members "duration_secs"
      royaltyCapBps := ← Json.required members "royalty_cap_bps"
      exclusive := ← Json.withDefault members "exclusive" false }

instance : Recorded Settlement where
  toJson s := .obj [
    ("to_initiator", toJson s.toInitiator),
    ("to_counterparty", toJson s.toCounterparty),
    ("burned", toJson s.burned),
    ("dust", toJson s.dust),
    ("incentive", toJson s.incentive)]
  ofJson? j := do
    let members ← j.members?
    return {
      toInitiator := ← Json.required members "to_initiator"
      toCounterparty := ← Json.required members "to_counterparty"
      burned := ← Json.required members "burned"
      dust := ← Json.required members "dust"
      incentive := ← Json.required members "incentive" }

instance : Recorded Release where
  toJson r :=
    .obj (("kind", .str r.kind) ::
      match r with
      | .acceptedProposal text => [("text", toJson text)]
      | .timeoutWithBurn termsRef => [("terms_ref", toJson termsRef)]
      | .defaultLicense termsRef => [("terms_ref", toJson termsRef)]
      | .aborted => [])
  ofJson? j := do
    let members ← j.members?
    match ← (← Json.field? members "kind") with
    | .str "accepted_proposal" => return .acceptedProposal (← Json.required members "text")
    | .str "timeout_with_burn" => return .timeoutWithBurn (← Json.required members "terms_ref")
    | .str "default_license" => return .defaultLicense (← Json.required members "terms_ref")
    | .str "aborted" => return .aborted
    | _ => none

instance : Recorded Proposal where
  toJson p := .obj [
    ("text", toJson p.text),
    ("nonce", toJson p.nonce),
    ("signature", toJson p.signature),
    ("submitted_at", toJson p.submittedAt)]
  ofJson? j := do
    let members ← j.members?
    return {
      text := ← Json.required members "text"
      nonce := ← Json.required members "nonce"
      signature := ← Json.required members "signature"
      submittedAt := ← Json.required members "submitted_at" }

/-! ### The whole record -/

instance : Recorded Dispute where
  toJson d := .obj [
    ("id", toJson d.id),
    ("initiator", toJson d.initiator),
    ("counterparty", toJson d.counterparty),
    ("base_stake", toJson d.baseStake),
    ("initiator_stake", toJson d.initiatorStake),
    ("counterparty_stake", toJson d.counterpartyStake),
    ("escalated", toJson d.escalated),
    ("created_at", toJson d.createdAt),
    ("start_time", toJson d.startTime),
    ("cumulative_extension_secs", toJson d.cumulativeExtensionSecs),
    ("evidence", toJson d.evidence),
    ("proposal", toJson d.proposal),
    ("initiator_accepted", toJson d.initiatorAccepted),
    ("counterparty_accepted", toJson d.counterpartyAccepted),
    ("counter_count", toJson d.counterCount),
    ("fallback", toJson d.fallback),
    ("earmarked_incentive", toJson d.earmarkedIncentive),
    ("subsidy", toJson d.subsidy),
    ("resolved", toJson d.resolved),
    ("outcome", toJson d.outcome),
    ("settlement", toJson d.settlement),
    ("resolved_at", toJson d.resolvedAt),
    ("pending_release", toJson d.pendingRelease)]
  ofJson? j := do
    let members ← j.members?
    return {
      id := ← Json.required members "id"
      initiator := ← Json.required members "initiator"
      counterparty := ← Json.required members "counterparty"
      baseStake := ← Json.required members "base_stake"
      initiatorStake := ← Json.required members "initiator_stake"
      counterpartyStake := ← Json.required members "counterparty_stake"
      escalated := ← Json.required members "escalated"
      createdAt := ← Json.required members "created_at"
      startTime := ← Json.required members "start_time"
      cumulativeExtensionSecs := ← Json.required members "cumulative_extension_secs"
      evidence := ← Json.required members "evidence"
      proposal := ← Json.optional members "proposal"
      initiatorAccepted := ← Json.required members "initiator_accepted"
      counterpartyAccepted := ← Json.required members "counterparty_accepted"
      counterCount := ← Json.required members "counter_count"
      fallback := ← Json.required members "fallback"
      earmarkedIncentive := ← Json.required members "earmarked_incentive"
      subsidy := ← Json.required members "subsidy"
      resolved := ← Json.required members "resolved"
      outcome := ← Json.required members "outcome"
      settlement := ← Json.optional members "settlement"
      resolvedAt := ← Json.optional members "resolved_at"
      pendingRelease := ← Json.optional members "pending_release" }

end Arbitration
