import Arbitration.Engine.State

/-!
# Transactions

An operation works on a session: the state of the engine, the effects that it has had so far and
the events that it will report. If it succeeds, the events go into the log. If it fails, its
effects are taken back one by one, the newest first, by ordinary calls to the parts. A part may
refuse such a call too; then that one effect stays, and the others are still taken back.

An operation asks all its questions before its first effect, so that a rejected request has
none.
-/

namespace Arbitration

/-- How an effect is taken back. -/
inductive Undo where
  /-- Move the amount back. -/
  | transfer (source target : AccountId) (amount : Amount)
  /-- Release the asset that was frozen. -/
  | freeze (dispute : DisputeId)
  /-- Freeze the asset that was released. -/
  | unfreeze (dispute : DisputeId) (holder : AccountId)
  /-- Take the count back. -/
  | harassment (account : AccountId)
  /-- Put the earlier record back. -/
  | record (previous : Dispute)
  deriving DecidableEq

/-- An operation under way. -/
structure Session where
  engine : Engine
  /-- What takes its effects back, newest first. -/
  journal : List Undo := []
  /-- The events that it will report, oldest first. -/
  events : List (DisputeId × Event) := []
  deriving DecidableEq

/-- A step of an operation. A failed step leaves a session too: the one to be taken back. -/
abbrev Transaction (α : Type) : Type := EStateM DisputeError Session α

/-! ### Taking effects back -/

/-- The part if the call was carried out, and the part as it was otherwise. -/
def orElseKeep {ε σ : Type} (before : σ) : Except ε σ → σ
  | .ok after => after
  | .error _ => before

namespace Undo

/-- Takes one effect back, as far as the parts allow it. -/
def apply (e : Engine) : Undo → Engine
  | transfer source target amount =>
    { e with ledger := orElseKeep e.ledger (e.ledger.transfer target source amount) }
  | freeze dispute =>
    { e with registry := orElseKeep e.registry (e.registry.unfreeze dispute .aborted) }
  | unfreeze dispute holder =>
    { e with registry := orElseKeep e.registry (e.registry.freeze dispute holder) }
  | harassment account => { e with treasury := e.treasury.revertHarassment account }
  | record previous => { e with store := orElseKeep e.store (e.store.write { record := previous }) }

end Undo

namespace Session

/-- The engine after the effects of a failed operation are taken back. -/
def rollback (s : Session) : Engine := s.journal.foldl Undo.apply s.engine

/-- The engine after a successful operation: its events are in the log. -/
def commit (s : Session) : Engine :=
  { s.engine with log := s.engine.log.extend s.engine.now s.events }

end Session

/-! ### Steps -/

namespace Transaction

/-- Asks a question that has no effect. -/
def ask {α : Type} (question : Engine → Except DisputeError α) : Transaction α := fun s =>
  match question s.engine with
  | .ok a => .ok a s
  | .error err => .error err s

/-- The engine as it is now. -/
def engine : Transaction Engine := fun s => .ok s.engine s

/-- The result of a calculation. -/
def calculate {α : Type} (result : Except ArithmeticError α) : Transaction α :=
  ask fun _ => result.mapError .arithmetic

/-- Adds an event to the report. -/
def emit (dispute : DisputeId) (event : Event) : Transaction Unit := fun s =>
  .ok () { s with events := s.events ++ [(dispute, event)] }

/-- Moves value. Where there is nothing to move the ledger is not asked. -/
def move (source target : AccountId) (amount : Amount) : Transaction Unit := fun s =>
  if amount.isZero then .ok () s
  else
    match s.engine.ledger.transfer source target amount with
    | .ok ledger =>
      .ok () { s with
        engine := { s.engine with ledger }
        journal := .transfer source target amount :: s.journal }
    | .error err => .error (.ledger err) s

/-- Freezes the asset of a dispute. -/
def freeze (dispute : DisputeId) (holder : AccountId) : Transaction Unit := fun s =>
  match s.engine.registry.freeze dispute holder with
  | .ok registry =>
    .ok () { s with engine := { s.engine with registry }, journal := .freeze dispute :: s.journal }
  | .error err => .error (.registry err) s

/-- Releases the asset of a dispute, which goes back to its holder if the operation fails later
on. The answer is the registry's: what a refusal means is up to the operation. -/
def tryUnfreeze (dispute : DisputeId) (holder : AccountId) (release : Release) :
    Transaction (Option RegistryError) := fun s =>
  match s.engine.registry.unfreeze dispute release with
  | .ok registry =>
    .ok none { s with
      engine := { s.engine with registry }
      journal := .unfreeze dispute holder :: s.journal }
  | .error err => .ok (some err) s

/-- Applies the fallback license of a dispute. This cannot be taken back. -/
def applyFallback (dispute : DisputeId) (termsRef : String) : Transaction Unit := fun s =>
  match s.engine.registry.applyFallback dispute termsRef with
  | .ok registry => .ok () { s with engine := { s.engine with registry } }
  | .error err => .error (.registry err) s

/-- Counts a filing that came too soon. -/
def recordHarassment (account : AccountId) : Transaction Unit := fun s =>
  match s.engine.treasury.recordHarassment account with
  | .ok treasury =>
    .ok () { s with
      engine := { s.engine with treasury }
      journal := .harassment account :: s.journal }
  | .error err => .error (.treasury err) s

/-- Writes a record. As the last step that can fail it needs no taking back. -/
def write (w : StoreWrite) : Transaction Unit := fun s =>
  match s.engine.store.write w with
  | .ok store => .ok () { s with engine := { s.engine with store } }
  | .error err => .error (.store err) s

/-- Replaces a record; the one before it is put back if the operation fails later on. -/
def replace (previous next : Dispute) : Transaction Unit := fun s =>
  match write { record := next } s with
  | .ok () s' => .ok () { s' with journal := .record previous :: s'.journal }
  | .error err s' => .error err s'

/-- Carries an operation out: its answer, and the engine after it. -/
def run {α : Type} (op : Transaction α) (e : Engine) : Except DisputeError α × Engine :=
  match op { engine := e } with
  | .ok a s => (.ok a, s.commit)
  | .error err s => (.error err, s.rollback)

end Transaction

end Arbitration
