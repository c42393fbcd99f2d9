import Arbitration.Engine.State
import Arbitration.Record.Dispute

/-!
# Requests, accounts of the protocol and registry calls in records
-/

namespace Arbitration

instance : Recorded SystemAccounts where
  toJson a := .obj [
    ("escrow", toJson a.escrow),
    ("burn_sink", toJson a.burnSink),
    ("fee_pool", toJson a.feePool),
    ("incentive_earmark", toJson a.incentiveEarmark),
    ("defense_fund", toJson a.defenseFund)]
  ofJson? j := do
    let members ← j.members?
    return {
      escrow := ← Json.required members "escrow"
      burnSink := ← Json.required members "burn_sink"
      feePool := ← Json.required members "fee_pool"
      incentiveEarmark := ← Json.required members "incentive_earmark"
      defenseFund := ← Json.required members "defense_fund" }

instance : Recorded RegistryCall where
  toJson
    | .freeze dispute => .obj [("call", .str "freeze"), ("dispute_id", toJson dispute)]
    | .unfreeze dispute kind =>
      .obj [("call", .str "unfreeze"), ("dispute_id", toJson dispute), ("payload", .str kind)]
    | .applyFallback dispute =>
      .obj [("call", .str "apply_fallback"), ("dispute_id", toJson dispute)]
  ofJson? j := do
    let members ← j.members?
    match ← (← Json.field? members "call") with
    | .str "freeze" => return .freeze (← Json.required members "dispute_id")
    | .str "unfreeze" =>
      return .unfreeze (← Json.required members "dispute_id") (← Json.required members "payload")
    | .str "apply_fallback" => return .applyFallback (← Json.required members "dispute_id")
    | _ => none

instance : Recorded SignedProposal where
  toJson p := .obj [
    ("text", toJson p.text),
    ("nonce", toJson p.nonce),
    ("signature", toJson p.signature)]
  ofJson? j := do
    let members ← j.members?
    return {
      text := ← Json.required members "text"
      nonce := ← Json.required members "nonce"
      signature := ← Json.required members "signature" }

instance : Recorded OracleIdentity where
  toJson o := .obj [("account", toJson o.account), ("public_key", toJson o.publicKey)]
  ofJson? j := do
    let members ← j.members?
    return {
      account := ← Json.required members "account"
      publicKey := ← Json.required members "public_key" }

instance : Recorded InitiateRequest where
  toJson r := .obj [
    ("counterparty", toJson r.counterparty),
    ("stake", toJson r.stake),
    ("evidence", toJson r.evidence),
    ("fallback", toJson r.fallback)]
  ofJson? j := do
    let members ← j.members?
    return {
      counterparty := ← Json.required members "counterparty"
      stake := ← Json.required members "stake"
      evidence := ← Json.required members "evidence"
      fallback := ← Json.required members "fallback" }

instance : Recorded CounterRequest where
  toJson r := .obj [("evidence", toJson r.evidence), ("max_fee", toJson r.maxFee)]
  ofJson? j := do
    let members ← j.members?
    return {
      evidence := ← Json.required members "evidence"
      maxFee := ← Json.required members "max_fee" }

end Arbitration
