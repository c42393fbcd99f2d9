import Arbitration.Settlement
import Arbitration.Timestamp.Basic

/-!
# The arithmetic of the rules

Every amount and every deadline extension that the engine decides on is computed here, from numbers
alone. All divisions round down, and the odd unit that halving leaves over goes to the burn sink:
the parts of a settlement always add up to the stakes it settles.
-/

namespace Arbitration

/-- Why a rule gives no answer. -/
inductive PolicyError where
  | arithmetic (e : ArithmeticError)
  /-- The round, counted from zero, is not below the limit. -/
  | counterLimit (round limit : UInt32)
  deriving DecidableEq, Repr

/-- The message of a refusal. -/
def PolicyError.message : PolicyError → String
  | arithmetic e => e.message
  | counterLimit round limit =>
    "counter round " ++ toString round ++ " exceeds the cap of " ++ toString limit

namespace Policy

/-! ### Filing -/

/-- Whether a filing at `now` comes less than `cooldown` seconds after the last one. -/
def inCooldown (last : Option Timestamp) (now : Timestamp) (cooldown : UInt64) : Bool :=
  match last with
  | some last => now.secondsSince last < cooldown.toNat
  | none => false

/-- The stake that a filing costs, and whether it was raised. -/
structure Escalation where
  stake : Amount
  escalated : Bool
  deriving DecidableEq, Repr

/-- The stake of a filing: within the cooldown of the last one it is scaled by the multiplier. -/
def escalatedStake (base : Amount) (last : Option Timestamp) (now : Timestamp)
    (cooldown multiplier : UInt64) : Except ArithmeticError Escalation :=
  if inCooldown last now cooldown then do
    return ⟨← base.mulBps multiplier, true⟩
  else .ok ⟨base, false⟩

/-! ### Counter rounds -/

/-- The fee for a round, counted from zero: it doubles every round. -/
def counterFee (base : Amount) (round limit : UInt32) : Except PolicyError Amount :=
  if limit ≤ round then .error (.counterLimit round limit)
  else if 64 ≤ round then .error (.arithmetic .counterFee)
  else
    match base.mul (UInt64.ofNat (Nat.pow 2 round.toNat)) with
    | .ok fee => .ok fee
    | .error e => .error (.arithmetic e)

/-- The extension that a round grants: the usual one, or what is left up to the cap. -/
def counterExtension (perRound cumulative cap : UInt64) : UInt64 :=
  min perRound (if cumulative ≤ cap then cap - cumulative else 0)

/-! ### Splits -/

/-- A deadlock: part of the combined stake is burned and the rest halved, the odd unit going to the
sink. -/
def timeoutSplit (initiatorStake counterpartyStake : Amount) (burnBps : UInt64) :
    Except ArithmeticError Settlement :=
  if wholeBps < burnBps.toNat then .error .burnRatio
  else do
    let total ← initiatorStake.add counterpartyStake
    let burned ← total.mulBps burnBps
    let remaining ← total.sub burned
    let (share, dust) ← remaining.splitEven 2
    return ⟨share, share, burned, dust, .zero⟩

/-- Agreement: both stakes go back in full. -/
def acceptedSplit (initiatorStake counterpartyStake : Amount) : Settlement :=
  ⟨initiatorStake, counterpartyStake, .zero, .zero, .zero⟩

/-- A silent counterparty: the stake goes back, and the incentive with it. -/
def defaultLicenseSplit (initiatorStake incentive : Amount) : Settlement :=
  ⟨initiatorStake, .zero, .zero, .zero, incentive⟩

/-! ### Incentive and subsidy -/

/-- What a filer whose counterparty stays silent is owed. -/
def incentiveAmount (initiatorStake : Amount) (incentiveBps : UInt64) :
    Except ArithmeticError Amount :=
  initiatorStake.mulBps incentiveBps

/-- What is paid of it: all, or nothing if not all is available. -/
def incentiveDraw (owed available : Amount) : Amount :=
  if owed ≤ available then owed else .zero

/-- The rate of the defense subsidy: it grows with the filer's score, up to a ceiling. -/
def subsidyRate (score : UInt32) (baseBps maxBps : UInt64) : UInt64 :=
  let rate := baseBps.toNat * (score.toNat + 1)
  if rate < UInt64.size then min (UInt64.ofNat rate) maxBps else maxBps

/-- What the reserve adds to the stake of a counterparty that faces a repeated filer. -/
def subsidyAmount (initiatorStake : Amount) (score : UInt32) (baseBps maxBps : UInt64) :
    Except ArithmeticError Amount :=
  initiatorStake.mulBps (subsidyRate score baseBps maxBps)

end Policy

end Arbitration
