import Arbitration.Amount

/-!
# Settlements

A `Settlement` says how the stakes of a dispute leave escrow when it is resolved: what goes back
to either party, what is burned, and the odd unit left over by halving, which is burned too. The
incentive beside it comes from the reserve and is no part of the stakes.
-/

namespace Arbitration

/-- The payout of a resolved dispute. -/
structure Settlement where
  /-- Stake returned to the initiator. -/
  toInitiator : Amount
  /-- Stake returned to the counterparty. -/
  toCounterparty : Amount
  /-- Stake burned by rule. -/
  burned : Amount
  /-- Stake burned because it could not be split evenly. -/
  dust : Amount
  /-- What the reserve adds for the initiator. -/
  incentive : Amount
  deriving DecidableEq, Repr

namespace Settlement

/-- Everything that leaves escrow. -/
def outflow (s : Settlement) : Except ArithmeticError Amount := do
  let parties ← s.toInitiator.add s.toCounterparty
  let kept ← parties.add s.burned
  kept.add s.dust

/-- Whether exactly `total` leaves escrow. -/
def conserves (s : Settlement) (total : Amount) : Bool :=
  match s.outflow with
  | .ok out => out == total
  | .error _ => false

/-- Everything that is burned. -/
def totalBurned (s : Settlement) : Except ArithmeticError Amount := s.burned.add s.dust

end Settlement

end Arbitration
