import Arbitration.Proofs.Faults
import Arbitration.Proofs.Supply
import Arbitration.Simulation.Report

/-!
# What a passing simulation says

A simulation passes if its report names no failure. Then every step came to what the scenario says
of it, and the run went through to the last step: `Simulation.run` stops early only with a failure.

The report is read off the final state, and it lists the accounts that the scenario declares. An
expected balance of any other account is compared with nothing at all, whatever that account holds
(`Scenario.reported`), so such an expectation can be met without being true.
`passing_simulation_means` says exactly when it is.
-/

namespace Arbitration

/-! ### The engine of a simulation -/

namespace Engine

/-- In every state of every run, whatever is refused in it. -/
theorem Intact.run {e : Engine} (h : e.Intact) (turns : List Turn) : (e.run turns).Intact :=
  List.foldlRecOn (motive := Intact) turns Engine.step h fun _ he s _ => he.step s

/-- An engine of which nothing was asked so far. -/
theorem intact_of_empty {e : Engine} (haccounts : e.accounts = .default)
    (htreasury : e.treasury = {}) (hstore : e.store = {}) : e.Intact := by
  have hget : ∀ id, e.store.get? id = none := by
    rw [hstore]
    exact fun _ => rfl
  exact {
    standard := ⟨haccounts, by rw [htreasury]⟩
    keyed := fun id d h => by rw [hget] at h; cases h
    numbered := by rw [hstore]; exact ⟨rfl, rfl⟩
    outside := fun id d h => by rw [hget] at h; cases h }

/-- No turn changes the sum of all balances. -/
theorem totalSupply_step (e : Engine) (s : Turn) :
    (e.step s).ledger.totalSupply = e.ledger.totalSupply := by
  cases s with
  | call op => exact perform_keeps (Ledger.closed_totalSupply _) rfl op
  | clock now => rfl
  | switch switches => rfl

theorem totalSupply_run (e : Engine) (turns : List Turn) :
    (e.run turns).ledger.totalSupply = e.ledger.totalSupply :=
  List.foldlRecOn (motive := fun e' => e'.ledger.totalSupply = e.ledger.totalSupply) turns step
    rfl fun e' he s _ => (totalSupply_step e' s).trans he

end Engine

namespace Simulation

variable {sim : Simulation} {steps : List Step} {s : Step}

/-- The simulation after some steps that are all carried out. -/
def after (sim : Simulation) (steps : List Step) : Simulation :=
  steps.foldl (fun sim s => (sim.execute s.action).2) sim

@[simp] theorem after_nil (sim : Simulation) : sim.after [] = sim := rfl

@[simp] theorem after_cons (sim : Simulation) (s : Step) (rest : List Step) :
    sim.after (s :: rest) = (sim.execute s.action).2.after rest := rfl

theorem after_append (sim : Simulation) (first rest : List Step) :
    sim.after (first ++ rest) = (sim.after first).after rest := List.foldl_append

theorem applyEffect_call (e : Engine) (op : Operation) :
    (applyEffect e (.call op)).2 = (e.perform op).2 := by
  rcases hdone : e.perform op with ⟨_ | _, e'⟩ <;> simp only [applyEffect, hdone]

theorem exists_turns_applyEffect (e : Engine) (effect : Effect) :
    ∃ turns, (applyEffect e effect).2 = e.run turns := by
  cases effect with
  | call op => exact ⟨[.call op], applyEffect_call e op⟩
  | wait secs =>
    simp only [applyEffect]
    cases e.now.addSeconds secs with
    | ok now => exact ⟨[.clock now], rfl⟩
    | error fault => exact ⟨[], rfl⟩

theorem engine_noteNonce (sim : Simulation) (action : Action) :
    (sim.noteNonce action).engine = sim.engine := by
  cases action <;> rfl

/-- An action calls the engine, moves its clock, or leaves it alone. -/
theorem exists_turns_execute (sim : Simulation) (action : Action) :
    ∃ turns, (sim.execute action).2.engine = sim.engine.run turns := by
  unfold execute
  cases sim.effect action with
  | error fault => exact ⟨[], engine_noteNonce sim action⟩
  | ok effect => exact exists_turns_applyEffect sim.engine effect

/-- Whatever steps are carried out, the engine makes a run of its own. -/
theorem exists_turns (sim : Simulation) (steps : List Step) :
    ∃ turns, (sim.after steps).engine = sim.engine.run turns := by
  induction steps generalizing sim with
  | nil => exact ⟨[], rfl⟩
  | cons s rest ih =>
    obtain ⟨first, hfirst⟩ := sim.exists_turns_execute s.action
    obtain ⟨later, hlater⟩ := ih (sim.execute s.action).2
    exact ⟨first ++ later, by rw [after_cons, hlater, hfirst, Engine.run_append]⟩

/-- A simulation starts with an engine that has done nothing, and no nonce is used. -/
theorem start_eq_ok {s : Scenario} {override : Option Config}
    (h : Simulation.start s override = .ok sim) : ∃ config ledger now, sim =
      { engine := { config, oracle := oracle.identity, ledger, now }, signer := oracle } := by
  simp only [Simulation.start, bind_eq_ok_iff, pure_eq_ok_iff, mapError_eq_ok_iff] at h
  obtain ⟨now, -, balances, -, e, hnew, rfl⟩ := h
  unfold Engine.new at hnew
  split at hnew
  · cases hnew
  · cases hnew
    exact ⟨_, _, _, rfl⟩

theorem intact_of_start {s : Scenario} {override : Option Config}
    (h : Simulation.start s override = .ok sim) : sim.engine.Intact := by
  obtain ⟨config, ledger, now, rfl⟩ := start_eq_ok h
  exact Engine.intact_of_empty rfl rfl rfl

end Simulation

/-! ### Steps that come to what they have to -/

/-- The result of a step is what the scenario says of it: success, or a failure whose message has
the expected part. -/
def Step.Meets (s : Step) (result : Except StepError Unit) : Prop :=
  match s.expectedError with
  | none => result = .ok ()
  | some part => ∃ e, result = .error e ∧ part.toList <:+: e.chain.toList

theorem Step.verdict_eq_met_iff {s : Step} {number : Nat} {result : Except StepError Unit} :
    s.verdict number result = .met ↔ s.Meets result := by
  unfold Step.verdict Step.Meets
  cases s.expectedError with
  | none => rcases result with e | ⟨⟩ <;> simp
  | some part =>
    rcases result with e | ⟨⟩
    · simp [Text.mentions, Text.occursIn_iff]
    · simp

/-- Whether the verdict is that all is well. -/
def Verdict.isMet : Verdict → Bool
  | met => true
  | unmet _ => false
  | fatal _ => false

theorem Verdict.isMet_iff {v : Verdict} : v.isMet = true ↔ v = .met := by
  cases v <;> simp [isMet]

instance (s : Step) (result : Except StepError Unit) : Decidable (s.Meets result) :=
  decidable_of_iff _ ((s.verdict 0 result).isMet_iff.trans Step.verdict_eq_met_iff)

namespace Simulation

variable {sim : Simulation} {steps : List Step} {s : Step}

/-- Every step comes to what it has to, in the state that the steps before it lead to. -/
def Follows (sim : Simulation) (steps : List Step) : Prop :=
  ∀ before s later, steps = before ++ s :: later →
    s.Meets ((sim.after before).execute s.action).1

theorem follows_nil : sim.Follows [] := by
  intro before s later h
  simp at h

theorem follows_cons : sim.Follows (s :: steps) ↔
    s.Meets (sim.execute s.action).1 ∧ (sim.execute s.action).2.Follows steps := by
  constructor
  · intro h
    exact ⟨h [] s steps rfl, fun before s' later hsteps =>
      h (s :: before) s' later (by rw [hsteps, List.cons_append])⟩
  · rintro ⟨hfirst, hrest⟩ before s' later hsteps
    cases before with
    | nil =>
      obtain ⟨rfl, rfl⟩ := List.cons.inj hsteps
      exact hfirst
    | cons t before =>
      obtain ⟨rfl, hlater⟩ := List.cons.inj hsteps
      exact hrest before s' later hlater

theorem follows_append {first rest : List Step} :
    sim.Follows (first ++ rest) ↔ sim.Follows first ∧ (sim.after first).Follows rest := by
  induction first generalizing sim with
  | nil => exact ⟨fun h => ⟨follows_nil, h⟩, And.right⟩
  | cons s first ih => rw [List.cons_append, follows_cons, follows_cons, ih, and_assoc, after_cons]

/-- If every step comes to what it has to, all of them are carried out. -/
theorem run_of_follows (h : sim.Follows steps) (done : Nat) :
    sim.run done steps = ⟨done + steps.length, [], sim.after steps⟩ := by
  induction steps generalizing sim done with
  | nil => rfl
  | cons s rest ih =>
    obtain ⟨hfirst, hrest⟩ := follows_cons.1 h
    simp only [run, Step.verdict_eq_met_iff.2 hfirst, ih hrest, after_cons, List.length_cons]
    rw [Nat.add_assoc, Nat.add_comm 1]

/-- Only then does a run end without a failure. -/
theorem follows_of_run {done : Nat} (h : (sim.run done steps).failures = []) :
    sim.Follows steps := by
  induction steps generalizing sim done with
  | nil => exact follows_nil
  | cons s rest ih =>
    unfold run at h
    dsimp only at h
    split at h
    · rename_i hmet
      exact follows_cons.2 ⟨Step.verdict_eq_met_iff.1 hmet, ih h⟩
    · cases h
    · cases h

theorem failures_run_eq_nil_iff {done : Nat} :
    (sim.run done steps).failures = [] ↔ sim.Follows steps :=
  ⟨follows_of_run, fun h => by rw [run_of_follows h]⟩

end Simulation

/-! ### Expectations -/

/-- What a scenario's report takes an account to hold: what is not declared counts as empty. -/
def Scenario.reported (s : Scenario) (e : Engine) (name : String) : Amount :=
  if name ∈ s.accounts.keys then e.ledger.balance ⟨name⟩ else .zero

/-- The expectations are true of an engine in which the accounts hold certain balances. -/
structure Expectations.Hold (x : Expectations) (e : Engine) (balance : String → Amount) :
    Prop where
  balances : ∀ entry ∈ x.balances.toList, balance entry.1 = entry.2
  outcomes : ∀ entry ∈ x.outcomes.toList,
    ∃ d, e.store.get? entry.1 = some d ∧ d.outcome = entry.2
  burned : ∀ want, x.burned = some want → e.ledger.balance e.accounts.burnSink = want
  reserve : ∀ want, x.reserve = some want → e.reserve = want
  escrow : ∀ want, x.escrow = some want → e.ledger.balance e.accounts.escrow = want

namespace Table

variable {κ ν : Type} [DecidableEq κ]

/-- A table that gives every key the value that a function has there. -/
theorem get?_map_keys (f : κ → ν) (keys : List κ) (key : κ) :
    (Table.mk (keys.map fun k => (k, f k))).get? key =
      if key ∈ keys then some (f key) else none := by
  induction keys with
  | nil => rfl
  | cons k rest ih =>
    by_cases hk : k = key
    · subst hk
      simp [get?, lookup]
    · simpa [get?, lookup, hk, Ne.symm hk] using ih

/-- A table in which a function was applied to every value. -/
theorem get?_map_values {μ : Type} (f : ν → μ) (t : Table κ ν) (key : κ) :
    (Table.mk (t.entries.map fun e => (e.1, f e.2))).get? key = (t.get? key).map f := by
  obtain ⟨entries⟩ := t
  induction entries with
  | nil => rfl
  | cons e rest ih =>
    by_cases hk : e.1 = key
    · simp [get?, lookup, hk]
    · simpa [get?, lookup, hk] using ih

end Table

namespace Store

variable {s : Store}

theorem Numbered.distinct (h : s.Numbered) : s.Distinct := by
  have hrange : (s.records.keys.map DisputeId.toNat).Nodup := h.numbers ▸ List.nodup_range'
  exact List.Pairwise.of_map DisputeId.toNat (fun _ _ hne => mt (congrArg _) hne) hrange

/-- A table of what the records say of themselves has it under their numbers. -/
theorem get?_table {α : Type} (f : Dispute → α) (hk : s.Keyed) (hd : s.Distinct)
    (id : DisputeId) :
    (Table.mk (s.toList.map fun d => (d.id, f d))).get? id = (s.get? id).map f := by
  have hentries : s.toList.map (fun d => (d.id, f d)) =
      s.records.entries.map fun e => (e.1, f e.2) := by
    rw [toList, List.map_map]
    refine List.map_congr_left fun e he => ?_
    rw [Function.comp_apply, hk e.1 e.2 (Table.get?_of_mem hd he)]
  rw [hentries]
  exact Table.get?_map_values f s.records id

end Store

namespace Report

variable {r : Report}

theorem balanceFailures_eq_nil_iff {expected : Table String Amount} :
    r.balanceFailures expected = [] ↔
      ∀ entry ∈ expected.toList, (r.balances.get? entry.1).getD .zero = entry.2 := by
  simp [balanceFailures, List.filterMap_eq_nil_iff]

theorem outcomeFailures_eq_nil_iff {expected : Table DisputeId Outcome} :
    r.outcomeFailures expected = [] ↔
      ∀ entry ∈ expected.toList, r.outcomes.get? entry.1 = some entry.2 := by
  rw [outcomeFailures, List.filterMap_eq_nil_iff]
  refine forall₂_congr fun entry _ => ?_
  cases hgot : r.outcomes.get? entry.1 with
  | none => simp [hgot]
  | some got => simp [hgot]

theorem totalFailure_eq_none_iff {t : Total} {expected : Option Amount} :
    r.totalFailure t expected = none ↔ ∀ want, expected = some want → r.total t = want := by
  cases expected with
  | none => simp [totalFailure]
  | some want => simp [totalFailure, eq_comm]

/-- **The report of a run** finds nothing in the final state that is not as expected exactly if the
expectations are true of that state, as far as the scenario's own accounts are concerned. -/
theorem stateFailures_eq_nil_iff {run : Run} {s : Scenario} {x : Expectations}
    (h : run.final.engine.Intact) : (run.report s).stateFailures x = [] ↔
      x.Hold run.final.engine (s.reported run.final.engine) := by
  have hbalances : ∀ name, ((run.report s).balances.get? name).getD .zero =
      s.reported run.final.engine name := by
    intro name
    rw [Run.report, Table.get?_map_keys, Scenario.reported]
    split <;> rfl
  have houtcomes : ∀ id, (run.report s).outcomes.get? id =
      (run.final.engine.store.get? id).map Dispute.outcome :=
    Store.get?_table _ h.keyed h.numbered.distinct
  have htotals : [(run.report s).totalFailure .burned x.burned,
      (run.report s).totalFailure .reserve x.reserve,
      (run.report s).totalFailure .escrow x.escrow].filterMap id = [] ↔
        (∀ want, x.burned = some want → (run.report s).total .burned = want) ∧
        (∀ want, x.reserve = some want → (run.report s).total .reserve = want) ∧
        ∀ want, x.escrow = some want → (run.report s).total .escrow = want := by
    simp only [List.filterMap_eq_nil_iff, List.forall_mem_cons, id, totalFailure_eq_none_iff,
      List.not_mem_nil, false_implies, implies_true, and_true]
  rw [stateFailures, List.append_eq_nil_iff, List.append_eq_nil_iff, balanceFailures_eq_nil_iff,
    outcomeFailures_eq_nil_iff, htotals]
  simp only [hbalances, houtcomes, Option.map_eq_some_iff]
  constructor
  · rintro ⟨⟨hb, ho⟩, hburned, hreserve, hescrow⟩
    exact ⟨hb, ho, hburned, hreserve, hescrow⟩
  · intro hold
    exact ⟨⟨hold.balances, hold.outcomes⟩, hold.burned, hold.reserve, hold.escrow⟩

end Report

/-- If the expectations are met as far as the report goes, they are true exactly if every account
that they name is reported as it is. -/
theorem Expectations.Hold.true_iff {x : Expectations} {s : Scenario} {e : Engine}
    (h : x.Hold e (s.reported e)) : x.Hold e (fun name => e.ledger.balance ⟨name⟩) ↔
      ∀ name ∈ x.balances.keys, name ∈ s.accounts.keys ∨ e.ledger.balance ⟨name⟩ = .zero := by
  constructor
  · intro htrue name hname
    obtain ⟨entry, hentry, rfl⟩ := List.mem_map.1 hname
    have hsame := (htrue.balances entry hentry).trans (h.balances entry hentry).symm
    by_cases hdeclared : entry.1 ∈ s.accounts.keys
    · exact .inl hdeclared
    · exact .inr (hsame.trans (if_neg hdeclared))
  · intro hcovered
    refine { h with balances := fun entry hentry => ?_ }
    rw [← h.balances entry hentry, Scenario.reported]
    rcases hcovered entry.1 (List.mem_map_of_mem hentry) with hdeclared | hempty
    · rw [if_pos hdeclared]
    · rw [hempty, ite_self]

/-! ### The report of a scenario -/

theorem supplyFailure_run (e : Engine) (turns : List Turn) :
    supplyFailure e (e.run turns) = [] := by
  rw [supplyFailure, Engine.totalSupply_run, if_pos rfl]

namespace Scenario

variable {s : Scenario} {override : Option Config} {r : Report} {start : Simulation}

/-- A report is on the run that starts as the scenario says, and its failures are those of the
steps and of the final state. -/
theorem simulate_eq_ok (h : s.simulate override = .ok r) :
    ∃ start, Simulation.start s override = .ok start ∧
      let run := start.run 0 s.steps
      r = { run.report s with
        failures := run.failures ++ (run.report s).stateFailures s.expect ++
          supplyFailure start.engine run.final.engine } := by
  simp only [simulate, bind_eq_ok_iff, pure_eq_ok_iff] at h
  obtain ⟨start, hstart, rfl⟩ := h
  exact ⟨start, hstart, rfl⟩

/-- A simulation passes if every step comes to what it has to and the report meets the
expectations. That the supply is the same is no condition: it always is. -/
theorem failures_eq_nil_iff (hstart : Simulation.start s override = .ok start) :
    let run := start.run 0 s.steps
    let final := (start.after s.steps).engine
    run.failures ++ (run.report s).stateFailures s.expect ++
        supplyFailure start.engine run.final.engine = [] ↔
      start.Follows s.steps ∧ s.expect.Hold final (s.reported final) := by
  intro run final
  obtain ⟨turns, hturns⟩ := start.exists_turns s.steps
  have hintact : final.Intact := by
    rw [show final = _ from hturns]
    exact (Simulation.intact_of_start hstart).run turns
  have hsupply : supplyFailure start.engine final = [] := by
    rw [show final = _ from hturns]
    exact supplyFailure_run ..
  rw [List.append_eq_nil_iff, List.append_eq_nil_iff, Simulation.failures_run_eq_nil_iff, and_assoc]
  refine and_congr_right fun hfollows => ?_
  rw [show run = _ from Simulation.run_of_follows hfollows 0,
    Report.stateFailures_eq_nil_iff hintact]
  exact and_iff_left hsupply

end Scenario

/-- **What a passing simulation says.** A report passes exactly if every step came to what the
scenario says of it and the expectations are true of the final state as far as the declared
accounts are concerned. Then all steps were carried out and all events are in the report, and the
expectations are true of the final state in full if and only if each account that they name is
declared or ended with nothing. -/
theorem passing_simulation_means {s : Scenario} {override : Option Config} {r : Report}
    (h : s.simulate override = .ok r) :
    ∃ start, Simulation.start s override = .ok start ∧
      let final := (start.after s.steps).engine
      (r.passed = true ↔
        start.Follows s.steps ∧ s.expect.Hold final (s.reported final)) ∧
      (r.passed = true →
        r.steps = s.steps.length ∧ r.events = final.log.records ∧
          (s.expect.Hold final (fun name => final.ledger.balance ⟨name⟩) ↔
            ∀ name ∈ s.expect.balances.keys,
              name ∈ s.accounts.keys ∨ final.ledger.balance ⟨name⟩ = .zero)) := by
  obtain ⟨start, hstart, hr⟩ := Scenario.simulate_eq_ok h
  refine ⟨start, hstart, ?_⟩
  intro final
  have hpassed : r.passed = true ↔
      start.Follows s.steps ∧ s.expect.Hold final (s.reported final) := by
    rw [Report.passed, List.isEmpty_iff, hr]
    exact Scenario.failures_eq_nil_iff hstart
  refine ⟨hpassed, fun hpass => ?_⟩
  obtain ⟨hfollows, hreported⟩ := hpassed.1 hpass
  rw [Simulation.run_of_follows hfollows] at hr
  refine ⟨?_, ?_, hreported.true_iff⟩
  · rw [hr]
    exact Nat.zero_add _
  · rw [hr]
    rfl

/-! ### A subsidised stake -/

namespace Sample

/-- Bob, who stakes with a subsidy alone, gets fifty units out of a deadlock. -/
def sponsored (accounts : List (String × Amount)) (expected : Amount) : Scenario where
  name := "sponsored"
  start := Scenario.defaultStart
  reserve := ⟨1000⟩
  accounts := .ofList accounts
  config := some { Config.default with subsidyBaseBps := 10000, subsidyMaxBps := 10000 }
  steps := [
    { action := .initiate "alice" "bob" ⟨100⟩ Action.defaultEvidence none },
    { action := .subsidy "bob" .first },
    { action := .deposit "bob" .first },
    { action := .advance 14 1 },
    { action := .enforce "alice" .first }]
  expect := { balances := .ofList [("bob", expected)] }

end Sample

/-- Whether a simulation passes can be computed. -/
theorem exists_passed {s : Scenario} {override : Option Config}
    (h : (s.simulate override).toOption.map Report.passed = some true) :
    ∃ r, s.simulate override = .ok r ∧ r.passed = true := by
  cases hr : s.simulate override with
  | error fault => simp [hr, Except.toOption] at h
  | ok r => exact ⟨r, rfl, by simpa [hr, Except.toOption] using h⟩

/-- If Bob is declared, the simulation passes because he holds what is expected. -/
theorem declared_balance_is_checked :
    let s := Sample.sponsored [("alice", ⟨1000⟩), ("bob", .zero)] ⟨50⟩
    ∃ r start, s.simulate none = .ok r ∧ r.passed = true ∧ Simulation.start s none = .ok start ∧
      start.Follows s.steps ∧ s.expect.Hold (start.after s.steps).engine
        fun name => (start.after s.steps).engine.ledger.balance ⟨name⟩ := by
  intro s
  obtain ⟨r, hr, hpassed⟩ : ∃ r, s.simulate none = .ok r ∧ r.passed = true :=
    exists_passed (by decide +kernel)
  obtain ⟨start, hstart, hiff, hall⟩ := passing_simulation_means hr
  have hdeclared : ∀ name ∈ s.expect.balances.keys, name ∈ s.accounts.keys := by decide +kernel
  exact ⟨r, start, hr, hpassed, hstart, (hiff.1 hpassed).1,
    (hall hpassed).2.2.2 fun name hname => .inl (hdeclared name hname)⟩

/-- If he is not, it passes although he holds fifty units more than is expected. -/
theorem undeclared_balance_is_not_checked :
    let s := Sample.sponsored [("alice", ⟨1000⟩)] .zero
    ∃ r start, s.simulate none = .ok r ∧ r.passed = true ∧ Simulation.start s none = .ok start ∧
      ("bob", .zero) ∈ s.expect.balances.toList ∧
      (start.after s.steps).engine.ledger.balance Sample.bob = ⟨50⟩ := by
  intro s
  obtain ⟨r, hr, hpassed⟩ : ∃ r, s.simulate none = .ok r ∧ r.passed = true :=
    exists_passed (by decide +kernel)
  obtain ⟨start, hstart, -⟩ := Scenario.simulate_eq_ok hr
  have hbalance : (Simulation.start s none).toOption.map (fun start =>
      (start.after s.steps).engine.ledger.balance Sample.bob) = some ⟨50⟩ := by decide +kernel
  refine ⟨r, start, hr, hpassed, hstart, by decide +kernel, ?_⟩
  rw [hstart] at hbalance
  exact Option.some.inj hbalance

end Arbitration
