import Arbitration.Engine.Error
import Arbitration.Event
import Arbitration.Oracle

/-!
# The engine and what can be asked of it

An engine is a configuration, the oracle that it listens to, the accounts of the protocol, the
four parts that hold value, assets, scores and records, the time of day and the log of what
happened.
-/

namespace Arbitration

/-- The state of an engine. -/
structure Engine where
  config : Config
  oracle : OracleIdentity
  accounts : SystemAccounts := .default
  ledger : Ledger := {}
  registry : Registry := {}
  treasury : Treasury := {}
  store : Store := {}
  now : Timestamp
  log : EventLog := {}
  deriving DecidableEq

namespace Engine

/-- An engine at its start. The configuration is checked first. -/
def new (config : Config) (oracle : OracleIdentity) (ledger : Ledger) (registry : Registry)
    (treasury : Treasury) (store : Store) (now : Timestamp) : Except DisputeError Engine :=
  match config.validate with
  | .error fault => .error (.config fault)
  | .ok () => .ok { config, oracle, ledger, registry, treasury, store, now }

/-- The record of a dispute. -/
def dispute (e : Engine) (id : DisputeId) : Except DisputeError Dispute :=
  match e.store.get? id with
  | some d => .ok d
  | none => .error (.notFound id)

/-- How far a dispute has come. -/
def stage (e : Engine) (id : DisputeId) : Except DisputeError Stage := do
  return (← e.dispute id).stage

/-- Who plays the roles in a dispute. -/
def roles (e : Engine) (id : DisputeId) : Except DisputeError Roles := do
  return (← e.dispute id).roles

/-- The last instant at which the counterparty of a dispute may stake. -/
def stakeDeadline (e : Engine) (id : DisputeId) : Except DisputeError Timestamp := do
  ((← e.dispute id).stakeDeadline e.config).mapError .arithmetic

/-- The last instant at which the parties to a dispute may negotiate. -/
def resolutionDeadline (e : Engine) (id : DisputeId) : Except DisputeError Timestamp := do
  ((← e.dispute id).resolutionDeadline e.config).mapError .arithmetic

/-- What the reserve holds. -/
def reserve (e : Engine) : Amount := e.ledger.balance e.treasury.reserve

end Engine

/-! ### Requests -/

/-- What is needed to file a dispute. -/
structure InitiateRequest where
  counterparty : AccountId
  /-- The stake before it is raised for filing again too soon. -/
  stake : Amount
  evidence : ContentDigest
  fallback : FallbackLicense
  deriving DecidableEq

/-- What is needed to open another round. -/
structure CounterRequest where
  evidence : ContentDigest
  /-- The most that the caller will pay. -/
  maxFee : Amount
  deriving DecidableEq

end Arbitration
