import Arbitration.Engine.Enforcement
import Arbitration.Engine.Filing
import Arbitration.Engine.Negotiation

/-!
# The operations of the engine

All that a party, the oracle or a bystander can do to an engine. An operation either has all its
effects and reports its events, or its effects are taken back and the log stays as it was.
-/

namespace Arbitration

/-- A call to the engine by an account. -/
inductive Operation where
  | initiate (caller : AccountId) (request : InitiateRequest)
  | deposit (caller : AccountId) (dispute : DisputeId)
  | grantSubsidy (caller : AccountId) (dispute : DisputeId)
  | submit (caller : AccountId) (dispute : DisputeId) (proposal : SignedProposal)
  | accept (caller : AccountId) (dispute : DisputeId)
  | counter (caller : AccountId) (dispute : DisputeId) (request : CounterRequest)
  | enforce (caller : AccountId) (dispute : DisputeId)
  | retryRelease (caller : AccountId) (dispute : DisputeId)
  deriving DecidableEq

/-- What a successful call gives back. -/
inductive Answer where
  | opened (dispute : DisputeId)
  | granted (amount : Amount)
  | ended (outcome : Outcome)
  | done
  deriving DecidableEq, Repr

/-- The steps of a call. -/
def Operation.transaction : Operation → Transaction Answer
  | initiate caller request => .opened <$> Transaction.initiate caller request
  | deposit caller dispute => (fun _ => .done) <$> Transaction.deposit caller dispute
  | grantSubsidy caller dispute => .granted <$> Transaction.grantSubsidy caller dispute
  | submit caller dispute proposal =>
    (fun _ => .done) <$> Transaction.submit caller dispute proposal
  | accept caller dispute => (fun _ => .done) <$> Transaction.accept caller dispute
  | counter caller dispute request =>
    (fun _ => .done) <$> Transaction.counter caller dispute request
  | enforce _ dispute => .ended <$> Transaction.enforce dispute
  | retryRelease _ dispute => (fun _ => .done) <$> Transaction.retryRelease dispute

namespace Engine

/-- Carries a call out: its answer, and the engine after it. -/
def perform (e : Engine) (op : Operation) : Except DisputeError Answer × Engine :=
  op.transaction.run e

/-- The engine with its clock moved. -/
def setClock (e : Engine) (now : Timestamp) : Engine := { e with now }

end Engine

end Arbitration
