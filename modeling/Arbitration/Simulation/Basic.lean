import Arbitration.Engine.Operation
import Arbitration.Scenario.Basic

/-!
# Running the steps of a scenario

A scenario runs against an engine of its own, with a clock that only the scenario moves and an
oracle whose key is fixed, so that every run gives the same result. Its steps name accounts by
texts; a text that cannot name an account fails in the step that uses it.
-/

namespace Arbitration

/-! ### Failures -/

/-- Why a scenario cannot start. -/
inductive SetupError where
  | start (text : String) (e : Timestamp.Error)
  | account (name : String) (e : AccountError)
  | config (e : DisputeError)
  deriving DecidableEq

/-- What is said about a text that cannot name an account. -/
def invalidAccount (name : String) : String := "invalid account name " ++ Text.quoted name

/-- The messages of a failure and of its cause, outermost first. -/
def SetupError.causes : SetupError → List String
  | start text e => ["invalid start instant " ++ Text.quoted text, e.message]
  | account name e => [invalidAccount name, e.message]
  | config e => "engine configuration rejected" :: e.causes

/-- Why a step fails. -/
inductive StepError where
  | account (name : String) (e : AccountError)
  | dispute (e : DisputeError)
  /-- A time span does not fit 64 bits. -/
  | spanOverflow
  | clock (e : ArithmeticError)
  deriving DecidableEq

/-- The messages of a failure and of its causes, outermost first. -/
def StepError.causes : StepError → List String
  | account name e => [invalidAccount name, e.message]
  | dispute e => e.causes
  | spanOverflow => ["advance duration overflows"]
  | clock e => [e.message]

/-- A failure with all its causes on one line. -/
def StepError.chain (e : StepError) : String := String.intercalate ": " e.causes

/-! ### The start -/

/-- A scenario that runs. -/
structure Simulation where
  engine : Engine
  signer : OracleSigner
  /-- The greatest nonce that a step used, accepted or not. -/
  nonce : UInt64 := 0

namespace Simulation

/-- The oracle of every simulation. Its key is no secret. -/
def oracle : OracleSigner where
  account := ⟨"oracle"⟩
  key := ⟨⟨List.replicate 32 0x7a, by simp⟩⟩

/-- The account that a text names. -/
def accountOf (name : String) : Except StepError AccountId :=
  (AccountId.new name).mapError (.account name)

/-- The opening balance of an account that a scenario declares. -/
def opening (entry : String × Amount) : Except SetupError (AccountId × Amount) := do
  return (← (AccountId.new entry.1).mapError (.account entry.1), entry.2)

/-- The engine that a scenario starts with, under its own configuration unless another one is
given. -/
def start (s : Scenario) (override : Option Config) : Except SetupError Simulation := do
  let now ← (Timestamp.parse s.start).mapError (.start s.start)
  let balances ← s.accounts.toList.mapM opening
  let treasury : Treasury := {}
  let ledger := Ledger.ofBalances (balances ++ [(treasury.reserve, s.reserve)])
  let config := (override.or s.config).getD .default
  let engine ← (Engine.new config oracle.identity ledger {} treasury {} now).mapError .config
  return { engine, signer := oracle }

/-! ### Steps -/

/-- The digest of the evidence that a scenario names. -/
def evidenceDigest (tag : String) : ContentDigest :=
  .ofCanonical ⟨String.ofList (Json.obj [("evidence", .str tag)]).canonicalChars⟩

/-- The license of a filing that names none: a year of a non-exclusive one. -/
def standardLicense : FallbackLicense where
  termsRef := "terms://fallback/standard-v1"
  durationSecs := 365 * Config.daySecs
  royaltyCapBps := 300
  exclusive := false

/-- The nonce of a proposal: the given one, or the one after all that were used. -/
def nonceFor (sim : Simulation) (nonce : Option UInt64) : UInt64 := nonce.getD (sim.nonce + 1)

/-- What an action comes to. -/
inductive Effect where
  | call (op : Operation)
  /-- The clock moves. -/
  | wait (secs : UInt64)
  deriving DecidableEq

/-- What an action comes to, if the accounts in it can be accounts. -/
def effect (sim : Simulation) : Action → Except StepError Effect
  | .initiate initiator counterparty stake evidence fallback => do
    let counterparty ← accountOf counterparty
    let caller ← accountOf initiator
    return .call (.initiate caller {
      counterparty
      stake
      evidence := evidenceDigest evidence
      fallback := fallback.getD standardLicense })
  | .deposit caller dispute => do return .call (.deposit (← accountOf caller) dispute)
  | .propose dispute text nonce =>
    let proposal := sim.signer.sign dispute (sim.nonceFor nonce) text
    return .call (.submit sim.signer.account dispute proposal)
  | .accept caller dispute => do return .call (.accept (← accountOf caller) dispute)
  | .counter caller dispute maxFee evidence => do
    let request : CounterRequest := ⟨evidenceDigest evidence, maxFee⟩
    return .call (.counter (← accountOf caller) dispute request)
  | .subsidy caller dispute => do return .call (.grantSubsidy (← accountOf caller) dispute)
  | .enforce caller dispute => do return .call (.enforce (← accountOf caller) dispute)
  | .retryRelease caller dispute => do return .call (.retryRelease (← accountOf caller) dispute)
  | .advance days secs =>
    match Action.clockSeconds? days secs with
    | some span => return .wait span
    | none => throw .spanOverflow

/-- The simulation with the nonce of an action counted as used. -/
def noteNonce (sim : Simulation) : Action → Simulation
  | .propose _ _ nonce => { sim with nonce := max sim.nonce (sim.nonceFor nonce) }
  | _ => sim

/-- What an effect does to the engine, and whether it fails. -/
def applyEffect (e : Engine) : Effect → Except StepError Unit × Engine
  | .call op =>
    match e.perform op with
    | (.ok _, e') => (.ok (), e')
    | (.error fault, e') => (.error (.dispute fault), e')
  | .wait secs =>
    match e.now.addSeconds secs with
    | .ok now => (.ok (), e.setClock now)
    | .error fault => (.error (.clock fault), e)

/-- Carries an action out: whether it fails, and the simulation after it. The nonce of a
proposal is used up even if the proposal is refused. -/
def execute (sim : Simulation) (action : Action) : Except StepError Unit × Simulation :=
  match sim.effect action with
  | .error fault => (.error fault, sim.noteNonce action)
  | .ok effect =>
    let (result, engine) := applyEffect sim.engine effect
    (result, { sim.noteNonce action with engine })

end Simulation

end Arbitration
