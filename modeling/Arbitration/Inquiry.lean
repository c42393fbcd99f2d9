import Arbitration.Config.Basic
import Arbitration.Policy
import Arbitration.Record.Dispute
import Arbitration.Timestamp.Text

/-!
# Asking for the arithmetic

Questions about what the rules would decide under a configuration, without a dispute. The
question about a raised stake looks at a made-up pair of filings, one second apart, as many
seconds after the first of January 1970 as the cooldown lasts.
-/

namespace Arbitration

/-- A question about the rules. -/
inductive Inquiry where
  /-- What a deadlock would do to these stakes; the counterparty's is the same if it is not
  given. -/
  | timeoutSplit (stake : Amount) (counterpartyStake : Option Amount)
  /-- What a counter round, counted from zero, would cost. -/
  | counterFee (round : UInt32)
  /-- What a filing would cost, be it soon after another one or not. -/
  | escalate (stake : Amount) (recent : Bool)
  /-- What a counterparty would get as a defense subsidy. -/
  | subsidy (stake : Amount) (score : UInt32)
  deriving DecidableEq, Repr

/-- What the rules say. -/
inductive Finding where
  | timeoutSplit (burnBps : UInt64) (settlement : Settlement)
  | counterFee (round : UInt32) (fee : Amount) (cumulativeExtensionSecs : UInt64)
  | escalate (baseStake : Amount) (escalation : Policy.Escalation) (multiplierBps : UInt64)
  | subsidy (stake : Amount) (score : UInt32) (subsidy : Amount)
  deriving DecidableEq, Repr

/-- Why a question has no answer. -/
inductive InquiryError where
  | timeoutSplit (e : ArithmeticError)
  | policy (e : PolicyError)
  | instant (e : Timestamp.Error)
  deriving DecidableEq, Repr

/-- The message of a failure, causes included. -/
def InquiryError.message : InquiryError → String
  | timeoutSplit e => "timeout split overflowed: " ++ e.message
  | policy e => e.message
  | instant e => e.message

/-- The extension that is reached after some rounds. -/
def Config.extensionAfter (c : Config) : Nat → UInt64
  | 0 => 0
  | rounds + 1 =>
    let before := c.extensionAfter rounds
    before + Policy.counterExtension c.counterExtensionSecs before c.maxTotalExtensionSecs

namespace Inquiry

/-- The instants of a filing and of the one before it. Seconds are counted in 64 bits with a
sign. -/
def filings (cooldown : UInt64) : Int64 × Int64 := (cooldown.toInt64 + 1, cooldown.toInt64)

/-- The whole second with a number. -/
def instant (seconds : Int64) : Except InquiryError Timestamp :=
  (Timestamp.ofEpoch seconds.toInt).mapError .instant

/-- What the rules say under a configuration. -/
def answer (c : Config) : Inquiry → Except InquiryError Finding
  | timeoutSplit stake counterpartyStake => do
    let split := Policy.timeoutSplit stake (counterpartyStake.getD stake) c.timeoutBurnBps
    return .timeoutSplit c.timeoutBurnBps (← split.mapError .timeoutSplit)
  | counterFee round => do
    let fee ← (Policy.counterFee c.counterBaseFee round c.maxCounters).mapError .policy
    return .counterFee round fee (c.extensionAfter (round.toNat + 1))
  | escalate stake recent => do
    let (now, earlier) := filings c.cooldownSecs
    let now ← instant now
    let last ← if recent then some <$> instant earlier else pure none
    let escalation ← (Policy.escalatedStake stake last now c.cooldownSecs
      c.escalationMultiplierBps).mapError (.policy ∘ .arithmetic)
    return .escalate stake escalation c.escalationMultiplierBps
  | subsidy stake score => do
    let amount ← (Policy.subsidyAmount stake score c.subsidyBaseBps
      c.subsidyMaxBps).mapError (.policy ∘ .arithmetic)
    return .subsidy stake score amount

end Inquiry

/-- An answer as JSON. -/
def Finding.toJson : Finding → Json
  | timeoutSplit burnBps settlement => .obj [
    ("burn_bps", Arbitration.toJson burnBps),
    ("settlement", Arbitration.toJson settlement)]
  | counterFee round fee extension => .obj [
    ("round", Arbitration.toJson round),
    ("fee", Arbitration.toJson fee),
    ("cumulative_extension_secs", Arbitration.toJson extension)]
  | escalate baseStake escalation multiplierBps => .obj [
    ("base_stake", Arbitration.toJson baseStake),
    ("stake", Arbitration.toJson escalation.stake),
    ("escalated", Arbitration.toJson escalation.escalated),
    ("multiplier_bps", Arbitration.toJson multiplierBps)]
  | subsidy stake score amount => .obj [
    ("initiator_stake", Arbitration.toJson stake),
    ("harassment_score", Arbitration.toJson score),
    ("subsidy", Arbitration.toJson amount)]

end Arbitration
