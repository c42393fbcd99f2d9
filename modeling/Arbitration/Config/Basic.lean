import Arbitration.Amount

/-!
# Engine configuration

The numbers and choices that an engine runs under. A configuration is checked once, before an engine
takes it on; the first field found out of its range is reported.
-/

namespace Arbitration

/-- Where the incentive for filers with a silent counterparty comes from. -/
inductive ReservePolicy where
  /-- It is drawn when the dispute is resolved, if the reserve still covers it. -/
  | sharedFirstCome
  /-- It is set aside when the dispute is filed. -/
  | earmarked
  deriving DecidableEq, Repr

/-- What a registry that fails to release an asset means for the resolution. -/
inductive UnfreezePolicy where
  /-- The resolution fails too. -/
  | strict
  /-- The resolution stands, and the release is tried again later. -/
  | bestEffort
  deriving DecidableEq, Repr

/-- The parameters of an engine. Durations are in seconds and rates in basis points. -/
structure Config where
  /-- How long the counterparty may take to post its stake. -/
  stakeWindowSecs : UInt64
  /-- How long a dispute may stay open. -/
  resolutionTimeoutSecs : UInt64
  /-- How long after a filing the next one by the same pair costs more. -/
  cooldownSecs : UInt64
  /-- By how much it costs more. -/
  escalationMultiplierBps : UInt64
  /-- The greatest number of counter rounds. -/
  maxCounters : UInt32
  /-- The fee for the first counter round. -/
  counterBaseFee : Amount
  /-- By how much a counter round moves the deadline. -/
  counterExtensionSecs : UInt64
  /-- By how much all counter rounds together may move it. -/
  maxTotalExtensionSecs : UInt64
  /-- The part of the stakes that a deadlock burns. -/
  timeoutBurnBps : UInt64
  /-- The incentive, as a part of the initiator's stake. -/
  incentiveBps : UInt64
  /-- Whether what is offered above the fee goes to the fee pool. -/
  routeExcessFeeToPool : Bool
  reservePolicy : ReservePolicy
  unfreezePolicy : UnfreezePolicy
  /-- The defense subsidy against a first-time filer. -/
  subsidyBaseBps : UInt64
  /-- The greatest defense subsidy. -/
  subsidyMaxBps : UInt64
  deriving DecidableEq, Repr

namespace Config

/-- The seconds of a day. -/
def daySecs : UInt64 := 86400

/-- The parameters that hold where none are given. -/
def default : Config where
  stakeWindowSecs := 7 * daySecs
  resolutionTimeoutSecs := 14 * daySecs
  cooldownSecs := 30 * daySecs
  escalationMultiplierBps := 15000
  maxCounters := 3
  counterBaseFee := ⟨10⟩
  counterExtensionSecs := 2 * daySecs
  maxTotalExtensionSecs := 3 * daySecs
  timeoutBurnBps := 5000
  incentiveBps := 1000
  routeExcessFeeToPool := false
  reservePolicy := .sharedFirstCome
  unfreezePolicy := .strict
  subsidyBaseBps := 500
  subsidyMaxBps := 5000

instance : Inhabited Config := ⟨default⟩

/-- More counter rounds than this are never allowed. -/
def counterRoundLimit : UInt32 := 32

/-! ### Validity -/

/-- The rates that may not exceed the whole. -/
inductive Share where
  | timeoutBurn
  | incentive
  | subsidyBase
  | subsidyMax
  deriving DecidableEq, Repr

/-- The name of the rate's field. -/
def Share.field : Share → String
  | timeoutBurn => "timeout_burn_bps"
  | incentive => "incentive_bps"
  | subsidyBase => "subsidy_base_bps"
  | subsidyMax => "subsidy_max_bps"

/-- What is wrong with a configuration. -/
inductive Fault where
  | noStakeWindow
  | noResolutionTimeout
  | timeoutWithinWindow (window timeout : UInt64)
  | multiplierBelowOne (bps : UInt64)
  | tooManyCounters (count : UInt32)
  | extensionAboveCap (perRound cap : UInt64)
  | shareAboveWhole (share : Share) (bps : UInt64)
  | subsidyBaseAboveMax
  deriving DecidableEq, Repr

/-- The name of the field at fault. -/
def Fault.field : Fault → String
  | noStakeWindow => "stake_window_secs"
  | noResolutionTimeout => "resolution_timeout_secs"
  | timeoutWithinWindow _ _ => "resolution_timeout_secs"
  | multiplierBelowOne _ => "escalation_multiplier_bps"
  | tooManyCounters _ => "max_counters"
  | extensionAboveCap _ _ => "counter_extension_secs"
  | shareAboveWhole share _ => share.field
  | subsidyBaseAboveMax => "subsidy_base_bps"

/-- What is wrong with it. -/
def Fault.reason : Fault → String
  | noStakeWindow => "must be greater than zero"
  | noResolutionTimeout => "must be greater than zero"
  | timeoutWithinWindow window timeout =>
    "must exceed stake_window_secs (" ++ toString window ++ "), got " ++ toString timeout
  | multiplierBelowOne bps =>
    "must be at least " ++ toString wholeBps ++ " (1x), got " ++ toString bps
  | tooManyCounters count =>
    "must be at most " ++ toString counterRoundLimit ++ ", got " ++ toString count
  | extensionAboveCap perRound cap =>
    "per-round extension " ++ toString perRound ++ " exceeds the total cap " ++ toString cap
  | shareAboveWhole _ bps => toString bps ++ " bps exceeds " ++ toString wholeBps
  | subsidyBaseAboveMax => "must not exceed subsidy_max_bps"

/-- The message of a refusal. -/
def Fault.message (f : Fault) : String :=
  "invalid config field `" ++ f.field ++ "`: " ++ f.reason

/-- A rate that may not exceed the whole. -/
def checkShare (share : Share) (bps : UInt64) : Except Fault Unit :=
  if wholeBps < bps.toNat then .error (.shareAboveWhole share bps) else .ok ()

/-- Whether an engine may run under the configuration. -/
def validate (c : Config) : Except Fault Unit := do
  if c.stakeWindowSecs = 0 then throw .noStakeWindow
  if c.resolutionTimeoutSecs = 0 then throw .noResolutionTimeout
  if c.resolutionTimeoutSecs ≤ c.stakeWindowSecs then
    throw (.timeoutWithinWindow c.stakeWindowSecs c.resolutionTimeoutSecs)
  if c.escalationMultiplierBps.toNat < wholeBps then
    throw (.multiplierBelowOne c.escalationMultiplierBps)
  if counterRoundLimit < c.maxCounters then throw (.tooManyCounters c.maxCounters)
  if c.maxTotalExtensionSecs < c.counterExtensionSecs then
    throw (.extensionAboveCap c.counterExtensionSecs c.maxTotalExtensionSecs)
  checkShare .timeoutBurn c.timeoutBurnBps
  checkShare .incentive c.incentiveBps
  checkShare .subsidyBase c.subsidyBaseBps
  checkShare .subsidyMax c.subsidyMaxBps
  if c.subsidyMaxBps < c.subsidyBaseBps then throw .subsidyBaseAboveMax

end Config

end Arbitration
