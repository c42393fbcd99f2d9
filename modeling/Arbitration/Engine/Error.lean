import Arbitration.Parts.Ledger
import Arbitration.Parts.Registry
import Arbitration.Parts.Store
import Arbitration.Parts.Treasury
import Arbitration.Policy

/-!
# Why an operation fails

Most errors are rejected requests: the caller may not do this, or not now. They are found before
the operation has any effect. The others are failures of a part of the engine, or of a
calculation, and may come when some effects have to be taken back.
-/

namespace Arbitration

/-- Why a filing against somebody is refused. -/
inductive CounterpartyFault where
  | self (account : AccountId)
  | protocolAccount
  deriving DecidableEq, Repr

/-- The message of a refusal. -/
def CounterpartyFault.message : CounterpartyFault → String
  | self account => account.name ++ " cannot open a dispute against itself"
  | protocolAccount => "protocol accounts cannot be parties"

/-- Why a defense subsidy is refused. -/
inductive SubsidyFault where
  | initiator
  | alreadyStaked
  | alreadyGranted
  | roundsToZero
  | reserveShort
  deriving DecidableEq, Repr

/-- The message of a refusal. -/
def SubsidyFault.message : SubsidyFault → String
  | initiator => "initiators are not eligible"
  | alreadyStaked => "defensive stake already posted"
  | alreadyGranted => "subsidy already granted"
  | roundsToZero => "subsidy rounds to zero"
  | reserveShort => "reserve cannot cover the subsidy"

/-- Why an operation on disputes fails. -/
inductive DisputeError where
  | notFound (id : DisputeId)
  | alreadyResolved (id : DisputeId) (outcome : Outcome)
  | invalidCounterparty (fault : CounterpartyFault)
  | zeroStake
  | license (fault : LicenseFault)
  | notAParty (id : DisputeId) (caller : AccountId)
  | wrongParty (id : DisputeId) (expected : Party) (caller : AccountId)
  | notOracle (caller : AccountId)
  | alreadyStaked (id : DisputeId)
  | stakeWindowExpired (id : DisputeId) (deadline : Timestamp)
  | notFullyStaked (id : DisputeId)
  | emptyProposal
  | proposalAlreadySubmitted (id : DisputeId)
  | invalidSignature (id : DisputeId) (reason : Ed25519.SignatureError)
  | staleNonce (nonce last : UInt64)
  | noProposal (id : DisputeId)
  | deadlinePassed (id : DisputeId) (deadline : Timestamp)
  | alreadyAccepted (id : DisputeId) (party : Party)
  | maxCountersReached (id : DisputeId) (limit : UInt32)
  | insufficientFee (required offered : Amount)
  | tooEarly (id : DisputeId) (deadline : Timestamp)
  | noPendingRelease (id : DisputeId)
  | subsidyRefused (id : DisputeId) (fault : SubsidyFault)
  | ledger (e : LedgerError)
  | registry (e : RegistryError)
  | treasury (e : TreasuryError)
  | store (e : StoreError)
  | arithmetic (e : ArithmeticError)
  /-- A settlement does not move exactly the stakes. -/
  | conservationViolated (id : DisputeId) (expected actual : Amount)
  | config (fault : Config.Fault)
  deriving DecidableEq

namespace DisputeError

/-- The message of a failure. -/
def message : DisputeError → String
  | notFound id => id.text ++ " not found"
  | alreadyResolved id outcome => id.text ++ " is already resolved (" ++ outcome.name ++ ")"
  | invalidCounterparty fault => "invalid counterparty: " ++ fault.message
  | zeroStake => "stake must be greater than zero"
  | license fault => fault.message
  | notAParty id caller => caller.name ++ " is not a party to " ++ id.text
  | wrongParty id expected caller =>
    "only the " ++ expected.name ++ " may do this on " ++ id.text ++ "; caller was " ++ caller.name
  | notOracle caller => caller.name ++ " is not the configured oracle"
  | alreadyStaked id => "counterparty stake already posted on " ++ id.text
  | stakeWindowExpired id deadline =>
    "stake window for " ++ id.text ++ " closed at " ++ deadline.iso
  | notFullyStaked id => id.text ++ " is not fully staked"
  | emptyProposal => "proposal text must not be empty"
  | proposalAlreadySubmitted id => "a proposal is already pending on " ++ id.text
  | invalidSignature id reason =>
    "invalid oracle signature on " ++ id.text ++ ": " ++ reason.message
  | staleNonce nonce last =>
    "stale oracle nonce " ++ toString nonce ++ "; last accepted was " ++ toString last
  | noProposal id => "no proposal pending on " ++ id.text
  | deadlinePassed id deadline =>
    "resolution deadline for " ++ id.text ++ " passed at " ++ deadline.iso
  | alreadyAccepted id party => party.name ++ " already accepted the proposal on " ++ id.text
  | maxCountersReached id limit =>
    id.text ++ " reached the maximum of " ++ toString limit ++ " counter rounds"
  | insufficientFee required offered =>
    "counter fee of " ++ required.text ++ " required, " ++ offered.text ++ " offered"
  | tooEarly id deadline => "too early to enforce " ++ id.text ++ "; deadline is " ++ deadline.iso
  | noPendingRelease id => "no pending asset release on " ++ id.text
  | subsidyRefused id fault => "defense subsidy refused on " ++ id.text ++ ": " ++ fault.message
  | ledger e => "ledger: " ++ e.message
  | registry e => "asset registry: " ++ e.message
  | treasury e => "treasury: " ++ e.message
  | store e => "store: " ++ e.message
  | arithmetic e => e.message
  | conservationViolated id expected actual =>
    "settlement for " ++ id.text ++ " moves " ++ actual.text ++ " out of escrow, expected " ++
      expected.text
  | config fault => fault.message

/-- The messages of a failure and of the failures that caused it, outermost first. -/
def causes (e : DisputeError) : List String :=
  match e with
  | ledger inner => [e.message, inner.message]
  | registry inner => [e.message, inner.message]
  | treasury inner => [e.message, inner.message]
  | store inner => [e.message, inner.message]
  | _ => [e.message]

/-- A failure with all its causes on one line. -/
def chain (e : DisputeError) : String := String.intercalate ": " e.causes

/-- Whether the request was rejected, rather than a part or a calculation having failed. -/
def isPrecondition : DisputeError → Bool
  | ledger _ | registry _ | treasury _ | store _ | arithmetic _ | conservationViolated .. |
    config _ => false
  | _ => true

end DisputeError

end Arbitration
