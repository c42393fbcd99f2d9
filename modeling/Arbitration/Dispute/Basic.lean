import Arbitration.Account
import Arbitration.Config.Basic
import Arbitration.Digest
import Arbitration.Ed25519.Signature
import Arbitration.Settlement
import Arbitration.Timestamp.Text

/-!
# Disputes

A dispute is between an initiator, who files it with a stake and some evidence, and a
counterparty, who matches the stake or lets the window for it pass. Once both have staked an
oracle proposes terms. Both parties accept them, or one of them opens another round against a
fee, or time runs out.

The stage of a dispute is read off its record and not kept in it, so the two cannot disagree.
Resolution is final: a record that is resolved carries its outcome, its settlement and the time
of the resolution.
-/

namespace Arbitration

/-! ### Roles and outcomes -/

/-- How a dispute ended. -/
inductive Outcome where
  /-- It has not. -/
  | pending
  /-- Both parties accepted the oracle's proposal. -/
  | acceptedProposal
  /-- Both had staked, and the resolution deadline passed. -/
  | timeoutWithBurn
  /-- The counterparty did not stake in time. -/
  | defaultLicenseApplied
  deriving DecidableEq, Repr

namespace Outcome

/-- The name of an outcome in records and messages. -/
def name : Outcome → String
  | pending => "pending"
  | acceptedProposal => "accepted_proposal"
  | timeoutWithBurn => "timeout_with_burn"
  | defaultLicenseApplied => "default_license_applied"

/-- All outcomes. -/
def all : List Outcome := [pending, acceptedProposal, timeoutWithBurn, defaultLicenseApplied]

/-- Whether the outcome is an end. -/
def isTerminal (o : Outcome) : Bool := o != pending

instance : ToString Outcome := ⟨name⟩

end Outcome

/-- A role in a dispute. -/
inductive Party where
  | initiator
  | counterparty
  deriving DecidableEq, Repr

namespace Party

/-- The name of a role in records and messages. -/
def name : Party → String
  | initiator => "initiator"
  | counterparty => "counterparty"

/-- Both roles. -/
def all : List Party := [initiator, counterparty]

instance : ToString Party := ⟨name⟩

end Party

/-- Who plays the roles. -/
structure Roles where
  initiator : AccountId
  counterparty : AccountId
  deriving DecidableEq, Repr

/-- How far a dispute has come. -/
inductive Stage where
  /-- Only the initiator has staked. -/
  | staked
  /-- Both have staked, and no proposal stands. -/
  | proposalPending
  /-- A proposal stands. -/
  | proposalReady
  | resolved (outcome : Outcome)
  deriving DecidableEq, Repr

namespace Stage

/-- The name of a stage in records. -/
def name : Stage → String
  | staked => "staked"
  | proposalPending => "proposal_pending"
  | proposalReady => "proposal_ready"
  | resolved _ => "resolved"

/-- The name of a stage in messages: the outcome is part of it. -/
def text : Stage → String
  | resolved outcome => "resolved(" ++ outcome.name ++ ")"
  | s => s.name

instance : ToString Stage := ⟨text⟩

end Stage

/-! ### The fallback license -/

/-- The license that applies to the disputed asset when the parties do not agree. -/
structure FallbackLicense where
  /-- Where the full terms are found. -/
  termsRef : String
  durationSecs : UInt64
  /-- The greatest royalty, in basis points. -/
  royaltyCapBps : UInt64
  /-- Exclusive licenses can be written down but are never accepted. -/
  exclusive : Bool
  deriving DecidableEq, Repr

/-- What is wrong with a fallback license. -/
inductive LicenseFault where
  | exclusive
  | noTerms
  | noDuration
  | royaltyAboveWhole (bps : UInt64)
  deriving DecidableEq, Repr

/-- The message of a refusal. -/
def LicenseFault.message : LicenseFault → String
  | exclusive => "fallback license must be non-exclusive"
  | noTerms => "invalid fallback license: terms reference must not be empty"
  | noDuration => "invalid fallback license: duration must be greater than zero"
  | royaltyAboveWhole bps =>
    "invalid fallback license: royalty cap " ++ toString bps ++ " bps exceeds 100%"

namespace FallbackLicense

/-- A license that leaves room for others. -/
def nonExclusive (termsRef : String) (durationSecs royaltyCapBps : UInt64) : FallbackLicense :=
  ⟨termsRef, durationSecs, royaltyCapBps, false⟩

/-- Whether a dispute may be filed with this license. -/
def validate (l : FallbackLicense) : Except LicenseFault Unit := do
  if l.exclusive then throw .exclusive
  if l.termsRef.toList.all Text.isBlank then throw .noTerms
  if l.durationSecs = 0 then throw .noDuration
  if wholeBps < l.royaltyCapBps.toNat then throw (.royaltyAboveWhole l.royaltyCapBps)

end FallbackLicense

/-! ### Releases and proposals -/

/-- On what terms a frozen asset is released. -/
inductive Release where
  /-- On the terms that the parties agreed on. -/
  | acceptedProposal (text : String)
  /-- Under the fallback license, after a deadlock. -/
  | timeoutWithBurn (termsRef : String)
  /-- Under the fallback license, after the counterparty stayed silent. -/
  | defaultLicense (termsRef : String)
  /-- On none: the dispute was never opened. -/
  | aborted
  deriving DecidableEq, Repr

/-- The name of a kind of release in records. -/
def Release.kind : Release → String
  | acceptedProposal _ => "accepted_proposal"
  | timeoutWithBurn _ => "timeout_with_burn"
  | defaultLicense _ => "default_license"
  | aborted => "aborted"

/-- The oracle's proposal that stands in the current round. -/
structure Proposal where
  text : String
  nonce : UInt64
  signature : Ed25519.Signature
  submittedAt : Timestamp
  deriving DecidableEq

/-! ### The record -/

/-- The record of a dispute. -/
structure Dispute where
  id : DisputeId
  initiator : AccountId
  counterparty : AccountId
  /-- The stake that was asked for. -/
  baseStake : Amount
  /-- The stake that the initiator posted. -/
  initiatorStake : Amount
  /-- The stake that the counterparty posted, zero until then. -/
  counterpartyStake : Amount
  /-- Whether the stake was raised for filing again too soon. -/
  escalated : Bool
  createdAt : Timestamp
  /-- From when both deadlines run; counter rounds move it. -/
  startTime : Timestamp
  /-- By how much counter rounds have moved it. -/
  cumulativeExtensionSecs : UInt64
  evidence : ContentDigest
  proposal : Option Proposal
  initiatorAccepted : Bool
  counterpartyAccepted : Bool
  /-- The counter rounds so far. -/
  counterCount : UInt32
  fallback : FallbackLicense
  /-- The incentive that was set aside at filing. -/
  earmarkedIncentive : Amount
  /-- The defense subsidy: held apart until the counterparty stakes, and a part of its stake
  then. -/
  subsidy : Amount
  resolved : Bool
  outcome : Outcome
  settlement : Option Settlement
  resolvedAt : Option Timestamp
  /-- A release that the registry has yet to confirm. -/
  pendingRelease : Option Release
  deriving DecidableEq

namespace Dispute

/-- What is known of a dispute when it is filed. -/
structure Filing where
  id : DisputeId
  initiator : AccountId
  counterparty : AccountId
  baseStake : Amount
  stake : Amount
  escalated : Bool
  now : Timestamp
  evidence : ContentDigest
  fallback : FallbackLicense
  earmarkedIncentive : Amount

/-- The record of a new dispute. -/
def opened (f : Filing) : Dispute where
  id := f.id
  initiator := f.initiator
  counterparty := f.counterparty
  baseStake := f.baseStake
  initiatorStake := f.stake
  counterpartyStake := .zero
  escalated := f.escalated
  createdAt := f.now
  startTime := f.now
  cumulativeExtensionSecs := 0
  evidence := f.evidence
  proposal := none
  initiatorAccepted := false
  counterpartyAccepted := false
  counterCount := 0
  fallback := f.fallback
  earmarkedIncentive := f.earmarkedIncentive
  subsidy := .zero
  resolved := false
  outcome := .pending
  settlement := none
  resolvedAt := none
  pendingRelease := none

/-! ### What a record says -/

/-- Whether both parties have staked. -/
def fullyStaked (d : Dispute) : Bool := !d.counterpartyStake.isZero

/-- How far the dispute has come. -/
def stage (d : Dispute) : Stage :=
  if d.resolved then .resolved d.outcome
  else if !d.fullyStaked then .staked
  else if d.proposal.isSome then .proposalReady
  else .proposalPending

/-- Who plays the roles. -/
def roles (d : Dispute) : Roles := ⟨d.initiator, d.counterparty⟩

/-- The role that an account plays, if any. -/
def partyOf (d : Dispute) (account : AccountId) : Option Party :=
  if account = d.initiator then some .initiator
  else if account = d.counterparty then some .counterparty
  else none

/-- Both stakes together. -/
def totalStake (d : Dispute) : Except ArithmeticError Amount :=
  d.initiatorStake.add d.counterpartyStake

/-- The last instant at which the counterparty may stake. -/
def stakeDeadline (d : Dispute) (config : Config) : Except ArithmeticError Timestamp :=
  d.startTime.addSeconds config.stakeWindowSecs

/-- The last instant at which the parties may negotiate. -/
def resolutionDeadline (d : Dispute) (config : Config) : Except ArithmeticError Timestamp :=
  d.startTime.addSeconds config.resolutionTimeoutSecs

/-- Whether a party accepted the proposal that stands. -/
def hasAccepted (d : Dispute) : Party → Bool
  | .initiator => d.initiatorAccepted
  | .counterparty => d.counterpartyAccepted

/-- Whether both parties did. -/
def bothAccepted (d : Dispute) : Bool := d.initiatorAccepted && d.counterpartyAccepted

/-! ### How it changes -/

/-- The record after a party accepts. -/
def accept (d : Dispute) : Party → Dispute
  | .initiator => { d with initiatorAccepted := true }
  | .counterparty => { d with counterpartyAccepted := true }

/-- The record at the start of another round: new evidence, no proposal, and a later deadline. -/
def counterRound (d : Dispute) (evidence : ContentDigest) (extension : UInt64) :
    Except ArithmeticError Dispute := do
  let startTime ← d.startTime.addSeconds extension
  let total := d.cumulativeExtensionSecs.toNat + extension.toNat
  if UInt64.size ≤ total then throw .cumulativeExtension
  let count := d.counterCount.toNat + 1
  if UInt32.size ≤ count then throw .counterCount
  return { d with
    startTime
    cumulativeExtensionSecs := UInt64.ofNat total
    counterCount := UInt32.ofNat count
    evidence
    proposal := none
    initiatorAccepted := false
    counterpartyAccepted := false }

/-- The record after the resolution. -/
def resolve (d : Dispute) (outcome : Outcome) (settlement : Settlement) (now : Timestamp) :
    Dispute :=
  { d with resolved := true, outcome, settlement := some settlement, resolvedAt := some now }

end Dispute

end Arbitration
