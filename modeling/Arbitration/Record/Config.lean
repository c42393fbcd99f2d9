import Arbitration.Config.Basic
import Arbitration.Record.Basic

/-!
# Configurations in records

A configuration may leave any field out, and the default holds for it. It is the only record
that may not have fields of any other name: a misspelled parameter is not passed over.
-/

namespace Arbitration

/-- The choices for where incentives come from, by name. -/
def ReservePolicy.named : List (String × ReservePolicy) :=
  [("shared_first_come", .sharedFirstCome), ("earmarked", .earmarked)]

/-- The choices for a registry that fails to release an asset, by name. -/
def UnfreezePolicy.named : List (String × UnfreezePolicy) :=
  [("strict", .strict), ("best_effort", .bestEffort)]

/-- The name of a value among named values. -/
def nameAmong {α : Type} [DecidableEq α] (alternatives : List (String × α)) (a : α) : String :=
  ((alternatives.find? (·.2 = a)).map (·.1)).getD ""

instance : Recorded ReservePolicy where
  toJson p := .str (nameAmong ReservePolicy.named p)
  ofJson? := Json.choice? ReservePolicy.named

instance : Recorded UnfreezePolicy where
  toJson p := .str (nameAmong UnfreezePolicy.named p)
  ofJson? := Json.choice? UnfreezePolicy.named

namespace Config

/-- The parameters with their names, in order. -/
def members (c : Config) : List (String × Json) := [
  ("stake_window_secs", toJson c.stakeWindowSecs),
  ("resolution_timeout_secs", toJson c.resolutionTimeoutSecs),
  ("cooldown_secs", toJson c.cooldownSecs),
  ("escalation_multiplier_bps", toJson c.escalationMultiplierBps),
  ("max_counters", toJson c.maxCounters),
  ("counter_base_fee", toJson c.counterBaseFee),
  ("counter_extension_secs", toJson c.counterExtensionSecs),
  ("max_total_extension_secs", toJson c.maxTotalExtensionSecs),
  ("timeout_burn_bps", toJson c.timeoutBurnBps),
  ("incentive_bps", toJson c.incentiveBps),
  ("route_excess_fee_to_pool", toJson c.routeExcessFeeToPool),
  ("reserve_policy", toJson c.reservePolicy),
  ("unfreeze_policy", toJson c.unfreezePolicy),
  ("subsidy_base_bps", toJson c.subsidyBaseBps),
  ("subsidy_max_bps", toJson c.subsidyMaxBps)]

/-- The names of all parameters. -/
def fields : List String := default.members.map (·.1)

/-- The parameters that some members give, with the defaults for the others. -/
def ofMembers? (m : List (String × Json)) : Option Config :=
  if !m.all (fields.contains ·.1) then none
  else return {
    stakeWindowSecs := ← Json.withDefault m "stake_window_secs" default.stakeWindowSecs
    resolutionTimeoutSecs :=
      ← Json.withDefault m "resolution_timeout_secs" default.resolutionTimeoutSecs
    cooldownSecs := ← Json.withDefault m "cooldown_secs" default.cooldownSecs
    escalationMultiplierBps :=
      ← Json.withDefault m "escalation_multiplier_bps" default.escalationMultiplierBps
    maxCounters := ← Json.withDefault m "max_counters" default.maxCounters
    counterBaseFee := ← Json.withDefault m "counter_base_fee" default.counterBaseFee
    counterExtensionSecs :=
      ← Json.withDefault m "counter_extension_secs" default.counterExtensionSecs
    maxTotalExtensionSecs :=
      ← Json.withDefault m "max_total_extension_secs" default.maxTotalExtensionSecs
    timeoutBurnBps := ← Json.withDefault m "timeout_burn_bps" default.timeoutBurnBps
    incentiveBps := ← Json.withDefault m "incentive_bps" default.incentiveBps
    routeExcessFeeToPool :=
      ← Json.withDefault m "route_excess_fee_to_pool" default.routeExcessFeeToPool
    reservePolicy := ← Json.withDefault m "reserve_policy" default.reservePolicy
    unfreezePolicy := ← Json.withDefault m "unfreeze_policy" default.unfreezePolicy
    subsidyBaseBps := ← Json.withDefault m "subsidy_base_bps" default.subsidyBaseBps
    subsidyMaxBps := ← Json.withDefault m "subsidy_max_bps" default.subsidyMaxBps }

end Config

instance : Recorded Config where
  toJson c := .obj c.members
  ofJson? j := j.members?.bind Config.ofMembers?

end Arbitration
