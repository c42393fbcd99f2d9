import Arbitration.Proofs.Operations

/-!
# Runs of an engine

A run is what happens to an engine over time: calls, a clock that is put forward or back, and
switches by which the parts are made to fail. It is **clean** if it starts from a fresh engine and
no part ever refused to take an effect back. Whether it is can be computed, so concrete runs are
clean by evaluation.

`Engine.run_induction` is the induction behind every statement about all reachable states, and
`CleanRun.invariant` is what it says of runs that begin with a fresh engine.
-/

namespace Arbitration

/-! ### Turns -/

/-- By what the parts are made to fail. -/
structure Switches where
  /-- The account to which the ledger takes no credits. -/
  refusedCredit : Option AccountId := none
  /-- The registry calls that fail. -/
  registry : RegistryFaults := {}
  /-- Whether the treasury refuses to count. -/
  refuseUpdates : Bool := false
  /-- Whether the store refuses to write. -/
  refuseWrites : Bool := false
  deriving DecidableEq, Repr

/-- What can happen to an engine. -/
inductive Turn where
  | call (op : Operation)
  | clock (now : Timestamp)
  | switch (switches : Switches)
  deriving DecidableEq

namespace Engine

/-- The engine with the switches of its parts set. -/
def setSwitches (e : Engine) (s : Switches) : Engine :=
  { e with
    ledger := { e.ledger with refusedCredit := s.refusedCredit }
    registry := { e.registry with faults := s.registry }
    treasury := { e.treasury with refuseUpdates := s.refuseUpdates }
    store := { e.store with refuseWrites := s.refuseWrites } }

/-- The engine after a turn. -/
def step (e : Engine) : Turn → Engine
  | .call op => (e.perform op).2
  | .clock now => e.setClock now
  | .switch switches => e.setSwitches switches

/-- The engine after some turns. -/
def run (e : Engine) (turns : List Turn) : Engine := turns.foldl step e

/-! ### Clean runs -/

/-- Whether no compensation is refused when the operation is called: it succeeds, or all its
effects are taken back. -/
def takesBack (e : Engine) (op : Operation) : Bool :=
  match e.stop op with
  | none => true
  | some s => Undo.allAccepted s.engine s.journal

/-- Whether no compensation is refused in a turn. -/
def stepsCleanly (e : Engine) : Turn → Bool
  | .call op => e.takesBack op
  | .clock _ => true
  | .switch _ => true

/-- Whether no compensation is refused in some turns. -/
def runsCleanly (e : Engine) : List Turn → Bool
  | [] => true
  | s :: rest => e.stepsCleanly s && (e.step s).runsCleanly rest

variable {e e' : Engine} {op : Operation} {answer : Answer} {rest : List Turn}

/-- An operation that succeeds has nothing to take back. -/
theorem takesBack_of_ok (h : e.perform op = (.ok answer, e')) : e.takesBack op = true := by
  unfold perform Transaction.run at h
  split at h
  · rename_i hrun
    simp only [takesBack, stop, hrun]
  · simp only [Prod.mk.injEq, reduceCtorEq, false_and] at h

theorem run_append (e : Engine) (first rest : List Turn) :
    e.run (first ++ rest) = (e.run first).run rest :=
  List.foldl_append

theorem run_call (h : e.perform op = (.ok answer, e')) :
    e.run (.call op :: rest) = e'.run rest := by
  rw [run, List.foldl_cons, step, h, run]

theorem runsCleanly_append (e : Engine) (first rest : List Turn) :
    e.runsCleanly (first ++ rest) = (e.runsCleanly first && (e.run first).runsCleanly rest) := by
  induction first generalizing e with
  | nil => rfl
  | cons s first ih =>
    rw [List.cons_append, runsCleanly, runsCleanly, ih, Bool.and_assoc]
    rfl

theorem runsCleanly_call (h : e.perform op = (.ok answer, e')) :
    e.runsCleanly (.call op :: rest) = e'.runsCleanly rest := by
  rw [runsCleanly, stepsCleanly, takesBack_of_ok h, Bool.true_and, step, h]

/-- **Induction over a run.** What every clean turn keeps is kept by turns that run cleanly. -/
theorem run_induction {P : Engine → Prop} {turns : List Turn}
    (hstep : ∀ (e : Engine) (s : Turn), P e → e.stepsCleanly s = true → P (e.step s))
    (hP : P e) (hclean : e.runsCleanly turns = true) : P (e.run turns) := by
  induction turns generalizing e with
  | nil => exact hP
  | cons s rest ih =>
    obtain ⟨hfirst, hrest⟩ := Bool.and_eq_true_iff.1 hclean
    exact ih (hstep e s hP hfirst) hrest

/-- An engine at its start: a valid configuration, empty parts, the default accounts, and nothing
in those that hold value for disputes. What the other accounts hold is left open. -/
structure Fresh (e : Engine) : Prop where
  opened : ∃ config oracle ledger now, Engine.new config oracle ledger {} {} {} now = .ok e
  escrow : e.ledger.balance e.accounts.escrow = .zero
  defenseFund : e.ledger.balance e.accounts.defenseFund = .zero
  incentiveEarmark : e.ledger.balance e.accounts.incentiveEarmark = .zero

/-- Nothing but balances is in the parts of a fresh engine. -/
theorem Fresh.parts (h : e.Fresh) : e.config.validate = .ok () ∧ e.accounts = .default ∧
    e.registry = {} ∧ e.treasury = {} ∧ e.store = {} ∧ e.log = {} := by
  obtain ⟨⟨config, oracle, ledger, now, hnew⟩, -⟩ := h
  unfold Engine.new at hnew
  split at hnew
  · cases hnew
  · rename_i hvalid
    cases hnew
    exact ⟨hvalid, rfl, rfl, rfl, rfl, rfl⟩

end Engine

/-- A run from a fresh engine in which no compensation was refused. -/
structure CleanRun (start : Engine) (turns : List Turn) : Prop where
  fresh : start.Fresh
  clean : start.runsCleanly turns = true

/-- **Invariants.** What holds of fresh engines and is kept by every clean turn holds in every
state of every clean run. -/
theorem CleanRun.invariant {P : Engine → Prop} {start : Engine} {turns : List Turn}
    (h : CleanRun start turns) (hfresh : ∀ e : Engine, e.Fresh → P e)
    (hstep : ∀ (e : Engine) (s : Turn), P e → e.stepsCleanly s = true → P (e.step s)) :
    P (start.run turns) :=
  Engine.run_induction hstep (hfresh start h.fresh) h.clean

/-- A clean run can be stopped at any time, and goes on cleanly from there. -/
theorem CleanRun.of_append {start : Engine} {first later : List Turn}
    (h : CleanRun start (first ++ later)) :
    CleanRun start first ∧ (start.run first).runsCleanly later = true := by
  have hclean := h.clean
  rw [Engine.runsCleanly_append] at hclean
  obtain ⟨hfirst, hlater⟩ := Bool.and_eq_true_iff.1 hclean
  exact ⟨⟨h.fresh, hfirst⟩, hlater⟩

/-! ### A sample engine

Two parties and an oracle, at the first of January 2026. -/

namespace Sample

/-- Who files. -/
def alice : AccountId := ⟨"alice"⟩

/-- Against whom. -/
def bob : AccountId := ⟨"bob"⟩

/-- The start of the year. -/
def newYear : Timestamp := (Timestamp.ofEpoch? 1767225600).get (by decide)

/-- An oracle whose key names the neutral point. -/
def oracle : OracleIdentity := ⟨⟨"oracle"⟩, ⟨1 :: List.replicate 31 0, by decide⟩⟩

/-- An engine under the default configuration. -/
def engine : Engine where
  config := .default
  oracle := oracle
  ledger := .ofBalances [(alice, ⟨1000⟩), (bob, ⟨1000⟩), ((({} : Treasury).reserve), ⟨500⟩)]
  now := newYear

/-- A filing with a stake of one hundred. -/
def filing : InitiateRequest where
  counterparty := bob
  stake := ⟨100⟩
  evidence := ⟨List.replicate 32 0, by decide⟩
  fallback := .nonExclusive "terms" 3600 300

/-- The start of a dispute in which both parties stake. -/
def staking : List Turn := [.call (.initiate alice filing), .call (.deposit bob .first)]

/-- Eight days later, when the stake window has closed. -/
def windowClosed : Timestamp := (Timestamp.ofEpoch? 1767916800).get (by decide)

/-- A dispute in which Bob stays silent, up to the moment when it can be enforced. -/
def silence : List Turn := [.call (.initiate alice filing), .clock windowClosed]

theorem engine_fresh : engine.Fresh :=
  ⟨⟨.default, oracle, engine.ledger, newYear, rfl⟩, by decide, by decide, by decide⟩

/-- The same engine under another configuration. -/
def engineUnder (config : Config) : Engine := { engine with config }

theorem engineUnder_fresh {config : Config} (h : config.validate = .ok ()) :
    (engineUnder config).Fresh := by
  have hnew : Engine.new config oracle engine.ledger {} {} {} newYear =
      .ok (engineUnder config) := by
    rw [Engine.new, h]
    rfl
  exact ⟨⟨config, oracle, engine.ledger, newYear, hnew⟩, engine_fresh.escrow,
    engine_fresh.defenseFund, engine_fresh.incentiveEarmark⟩

end Sample

end Arbitration
