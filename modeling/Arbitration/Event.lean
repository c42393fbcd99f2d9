import Arbitration.Dispute.Basic

/-!
# Events

Every committed operation says what it did as a list of events. The log keeps them in one order
over all disputes, numbered from one without a gap; a failed operation adds nothing.
-/

namespace Arbitration

/-- Something that happened to a dispute. -/
inductive Event where
  | disputeCreated (initiator counterparty : AccountId) (baseStake stake : Amount)
    (escalated : Bool) (evidence : ContentDigest) (stakeDeadline : Timestamp)
  | staked (party : Party) (account : AccountId) (amount : Amount)
  | fullyStaked (total : Amount) (resolutionDeadline : Timestamp)
  | proposalSubmitted (nonce : UInt64) (binding : ContentDigest)
  | proposalAccepted (party : Party)
  | feeBurned (account : AccountId) (amount routedToPool : Amount)
  | counterProposed (party : Party) (round : UInt32) (evidence : ContentDigest)
    (extensionSecs : UInt64) (resolutionDeadline : Timestamp)
  | subsidyGranted (account : AccountId) (amount : Amount)
  | subsidyReturned (amount : Amount)
  | burned (amount dust : Amount)
  | incentivePaid (account : AccountId) (amount : Amount)
  | incentiveSkipped (owed available : Amount)
  | releasePending (reason : String)
  | releaseCompleted
  | fallbackLicenseApplied (termsRef : String)
  | resolved (outcome : Outcome) (toInitiator toCounterparty burned dust incentive : Amount)
  deriving DecidableEq

/-- The name of an event in records. -/
def Event.name : Event → String
  | disputeCreated .. => "dispute_created"
  | staked .. => "staked"
  | fullyStaked .. => "fully_staked"
  | proposalSubmitted .. => "proposal_submitted"
  | proposalAccepted .. => "proposal_accepted"
  | feeBurned .. => "fee_burned"
  | counterProposed .. => "counter_proposed"
  | subsidyGranted .. => "subsidy_granted"
  | subsidyReturned .. => "subsidy_returned"
  | burned .. => "burned"
  | incentivePaid .. => "incentive_paid"
  | incentiveSkipped .. => "incentive_skipped"
  | releasePending .. => "release_pending"
  | releaseCompleted => "release_completed"
  | fallbackLicenseApplied .. => "fallback_license_applied"
  | resolved .. => "resolved"

/-- An event in the log. -/
structure EventRecord where
  /-- The position in the log, counted from one. -/
  sequence : Nat
  dispute : DisputeId
  /-- The time of the operation. -/
  time : Timestamp
  event : Event
  deriving DecidableEq

/-- The events of all committed operations, oldest first. -/
structure EventLog where
  records : List EventRecord := []
  deriving DecidableEq

namespace EventLog

/-- The number of events. -/
def size (l : EventLog) : Nat := l.records.length

/-- The log with another event at its end. -/
def append (l : EventLog) (dispute : DisputeId) (time : Timestamp) (event : Event) : EventLog :=
  ⟨l.records ++ [⟨l.size + 1, dispute, time, event⟩]⟩

/-- The log with the events of one operation at its end. -/
def extend (l : EventLog) (time : Timestamp) (events : List (DisputeId × Event)) : EventLog :=
  events.foldl (fun l e => l.append e.1 time e.2) l

/-- The events of one dispute. -/
def ofDispute (l : EventLog) (dispute : DisputeId) : List EventRecord :=
  l.records.filter (·.dispute = dispute)

/-- The events after a position. -/
def since (l : EventLog) (sequence : Nat) : List EventRecord := l.records.drop sequence

end EventLog

end Arbitration
