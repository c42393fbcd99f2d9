import Arbitration.Proofs.Rejection
import Arbitration.Proofs.Replay
import Arbitration.Proofs.Scenarios

/-!
# The nonces of a simulation

A simulation chooses the nonce of a proposal that gives none: one more than the greatest that any
proposal of the run came with. It counts proposals whether or not they are put down, and the engine
keeps the last nonce that was (`Engine.Counts`), so two counters have to go together.
`Simulation.Tracks` says how: whatever the engine has taken was counted, and the counter stands at
the greatest nonce of all.

The counter has sixty-four bits. Once a proposal came with the last nonce that they hold, whatever
became of it, the next one is zero, and an engine that has put down any proposal takes no other.
-/

namespace Arbitration

/-! ### Stale nonces -/

namespace Engine

variable {e e' : Engine} {caller : AccountId} {id : DisputeId} {p : SignedProposal}

/-- An error calls a nonce stale only if the engine keeps one that is not less. -/
def Stales (e : Engine) (p : SignedProposal) (err : DisputeError) : Prop :=
  ∀ n last, err = .staleNonce n last → e.store.nonce = some last ∧ p.nonce ≤ last

theorem stales_admitProposal : FailsOnly (e.admitProposal caller id p) (e.Stales p) := by
  -- every check but the last one fails with another error
  have hdispute : FailsOnly (e.dispute id) (e.Stales p) := by
    unfold dispute
    split
    · exact .pure
    · exact .throw nofun
  unfold admitProposal
  refine .refuse nofun fun _ => ?_
  refine .bind (.bind hdispute fun _ _ => .refuse nofun fun _ => .pure) fun d _ => ?_
  refine .refuse nofun fun _ => ?_
  refine .refuse nofun fun _ => ?_
  refine .refuse nofun fun _ => ?_
  refine .bind (.bind (.mapError fun _ _ => nofun) fun _ _ => .refuse nofun fun _ => .pure)
    fun _ _ => ?_
  refine .bind (.mapError fun _ _ => nofun) fun _ _ => ?_
  split
  · rename_i last hlast
    split
    · rename_i hle
      refine .bind (.throw fun n last' hstale => ?_) nofun
      cases hstale
      exact ⟨hlast, hle⟩
    · exact .pure
  · exact .pure

/-- A proposal fails with a stale nonce only if the engine keeps one that is not less. -/
theorem stales_submit {n last : UInt64} (hk : e.store.Keyed)
    (h : e.perform (.submit caller id p) = (.error (.staleNonce n last), e')) :
    e.store.nonce = some last ∧ p.nonce ≤ last := by
  obtain ⟨-, -, ⟨-, hblocked⟩, -⟩ := perform_error hk h
  have hrefused : Operation.Refused e (.submit caller id p) (.staleNonce n last) :=
    Operation.Blocked.refused rfl hblocked
  exact stales_admitProposal _ hrefused n last rfl

/-- A proposal that is put down has a nonce greater than the last one. -/
theorem lt_of_submit {answer : Answer} {last : UInt64} (hk : e.store.Keyed)
    (h : e.perform (.submit caller id p) = (.ok answer, e')) (hlast : e.store.nonce = some last) :
    last < p.nonce := by
  obtain ⟨f, ledger, hsucceeds, -, -⟩ := perform_ok hk h
  exact hsucceeds.brings.greater _ _ rfl hlast

/-- **One operation**, whatever is refused in it: the log keeps counting upwards, and takes up the
nonce of the operation at most. -/
theorem Counts.perform {past : List Operation} (h : e.Counts past) (hk : e.store.Keyed)
    (op : Operation) : (∃ past, (e.perform op).2.Counts past) ∧
      ∀ n ∈ (e.perform op).2.log.nonces, n ∈ e.log.nonces ∨ op.binding?.map (·.nonce) = some n := by
  rcases hdone : e.perform op with ⟨err | answer, e'⟩
  · have hlog : e'.log = e.log := (aligned_of_error hk hdone).log
    refine ⟨⟨past, ?_, ?_, ?_⟩, ?_⟩
    · exact hlog ▸ h.signed
    · exact hlog ▸ h.ascending
    · rw [store_of_error hk hdone, hlog, h.last]
    · intro n hn
      exact .inl (hlog ▸ hn)
  · obtain ⟨f, ledger, hsucceeds, -, rfl⟩ := perform_ok hk hdone
    refine ⟨⟨_, h.having hsucceeds⟩, fun n hn => ?_⟩
    have hnonces : (e.having f ledger).log.nonces =
        e.log.nonces ++ (op.binding?.map (·.nonce)).toList := by
      rw [← hsucceeds.brings.reported]
      exact EventLog.nonces_extend e.log e.now f.events
    rw [hnonces, List.mem_append, Option.mem_toList] at hn
    exact hn

/-- The oracle stays the one that it was at the start. -/
theorem Intact.oracle_run (h : e.Intact) (turns : List Turn) : (e.run turns).oracle = e.oracle := by
  induction turns generalizing e with
  | nil => rfl
  | cons s rest ih =>
    refine (ih (h.step s)).trans ?_
    cases s with
    | clock now => rfl
    | switch switches => rfl
    | call op =>
      show (e.perform op).2.oracle = e.oracle
      rcases hdone : e.perform op with ⟨err | answer, e'⟩
      · exact (aligned_of_error h.keyed hdone).oracle
      · obtain ⟨f, ledger, -, -, rfl⟩ := perform_ok h.keyed hdone
        rfl

end Engine

/-! ### Two counters -/

/-- The greatest of some nonces, zero if there is none. -/
structure Greatest (nonces : List UInt64) (n : UInt64) : Prop where
  bound : ∀ m ∈ nonces, m ≤ n
  reached : n = 0 ∨ n ∈ nonces

theorem Greatest.concat {nonces : List UInt64} {n : UInt64} (h : Greatest nonces n) (m : UInt64) :
    Greatest (nonces ++ [m]) (max n m) := by
  by_cases hle : n ≤ m
  · rw [show max n m = m from if_pos hle]
    refine ⟨fun k hk => ?_, .inr (List.mem_append_right _ (List.mem_singleton_self m))⟩
    rcases List.mem_append.1 hk with hk | hk
    · exact UInt64.le_trans (h.bound k hk) hle
    · exact List.mem_singleton.1 hk ▸ UInt64.le_refl m
  · rw [show max n m = n from if_neg hle]
    refine ⟨fun k hk => ?_, h.reached.imp_right (List.mem_append_left _)⟩
    rcases List.mem_append.1 hk with hk | hk
    · exact h.bound k hk
    · exact List.mem_singleton.1 hk ▸ UInt64.le_of_lt (UInt64.not_le.1 hle)

namespace Simulation

variable {sim : Simulation} {action : Action} {nonces : List UInt64}

/-- The nonce that an action comes with, if it is a proposal. -/
def nonce? (sim : Simulation) : Action → Option UInt64
  | .propose _ _ nonce => some (sim.nonceFor nonce)
  | _ => none

/-- The nonces that the proposals among some steps come with, put down or not. -/
def used (sim : Simulation) : List Step → List UInt64
  | [] => []
  | s :: rest => (sim.nonce? s.action).toList ++ (sim.execute s.action).2.used rest

/-- Only a proposal brings a nonce to the engine, and it is the one that is counted. -/
theorem binding_of_effect {op : Operation} (h : sim.effect action = .ok (.call op)) :
    op.binding?.map (·.nonce) = sim.nonce? action := by
  cases action with
  | advance days secs =>
    rw [effect] at h
    cases hspan : Action.clockSeconds? days secs with
    | some span =>
      rw [hspan] at h
      cases h
    | none =>
      rw [hspan] at h
      cases h
  | propose dispute text nonce =>
    simp only [effect, pure_eq_ok_iff, Effect.call.injEq] at h
    obtain rfl := h
    rfl
  | initiate initiator counterparty stake evidence fallback =>
    simp only [effect, bind_eq_ok_iff, pure_eq_ok_iff, Effect.call.injEq] at h
    obtain ⟨_, -, _, -, rfl⟩ := h
    rfl
  | _ =>
    simp only [effect, bind_eq_ok_iff, pure_eq_ok_iff, Effect.call.injEq] at h
    obtain ⟨_, -, rfl⟩ := h
    rfl

/-- The greatest nonce so far, once an action's own is counted. -/
theorem nonce_execute (sim : Simulation) (action : Action) :
    (sim.execute action).2.nonce =
      ((sim.nonce? action).map fun n => max sim.nonce n).getD sim.nonce := by
  have hnote : (sim.noteNonce action).nonce =
      ((sim.nonce? action).map fun n => max sim.nonce n).getD sim.nonce := by
    cases action <;> rfl
  rw [← hnote, execute]
  cases sim.effect action <;> rfl

/-- The counter of a simulation and that of its engine go together: whatever the engine has taken
is among the nonces that were used, and the simulation keeps the greatest of these. -/
structure Tracks (sim : Simulation) (nonces : List UInt64) : Prop where
  intact : sim.engine.Intact
  counts : ∃ past, sim.engine.Counts past
  taken : ∀ n ∈ sim.engine.log.nonces, n ∈ nonces
  greatest : Greatest nonces sim.nonce

/-- The engine takes the nonce that the action comes with at most. -/
theorem counts_execute {past : List Operation} (h : sim.engine.Counts past)
    (hk : sim.engine.store.Keyed) (action : Action) :
    (∃ past, (sim.execute action).2.engine.Counts past) ∧
      ∀ n ∈ (sim.execute action).2.engine.log.nonces,
        n ∈ sim.engine.log.nonces ∨ sim.nonce? action = some n := by
  have hsame : ∀ {e : Engine}, sim.engine.Idle e → (∃ past, e.Counts past) ∧
      ∀ n ∈ e.log.nonces, n ∈ sim.engine.log.nonces ∨ sim.nonce? action = some n :=
    fun hidle => ⟨⟨past, h.of_idle hidle⟩, fun n hn => .inl (hidle.log ▸ hn)⟩
  unfold execute
  cases heffect : sim.effect action with
  | error fault =>
    dsimp only
    rw [engine_noteNonce]
    exact hsame (Engine.idle_setClock sim.engine.now)
  | ok effect =>
    cases effect with
    | call op =>
      dsimp only
      rw [applyEffect_call, ← binding_of_effect heffect]
      exact h.perform hk op
    | wait secs =>
      dsimp only [applyEffect]
      cases sim.engine.now.addSeconds secs with
      | ok now => exact hsame (Engine.idle_setClock now)
      | error fault => exact hsame (Engine.idle_setClock sim.engine.now)

/-- **One step.** -/
theorem Tracks.execute (h : sim.Tracks nonces) (action : Action) :
    (sim.execute action).2.Tracks (nonces ++ (sim.nonce? action).toList) := by
  obtain ⟨past, hcounts⟩ := h.counts
  obtain ⟨hnext, htaken⟩ := counts_execute hcounts h.intact.keyed action
  obtain ⟨turns, hturns⟩ := sim.exists_turns_execute action
  refine ⟨hturns ▸ h.intact.run turns, hnext, fun n hn => ?_, ?_⟩
  · rw [List.mem_append, Option.mem_toList]
    exact (htaken n hn).imp_left (h.taken n)
  · rw [nonce_execute]
    cases sim.nonce? action with
    | none => simpa using h.greatest
    | some m => exact h.greatest.concat m

theorem Tracks.after (h : sim.Tracks nonces) (steps : List Step) :
    (sim.after steps).Tracks (nonces ++ sim.used steps) := by
  induction steps generalizing sim nonces with
  | nil =>
    rw [used, List.append_nil]
    exact h
  | cons s rest ih =>
    rw [used, ← List.append_assoc]
    exact ih (h.execute s.action)

theorem tracks_of_start {s : Scenario} {override : Option Config}
    (h : Simulation.start s override = .ok sim) : sim.Tracks [] := by
  have hintact := intact_of_start h
  obtain ⟨config, ledger, now, rfl⟩ := start_eq_ok h
  exact ⟨hintact, ⟨[], rfl, .nil, rfl⟩, nofun, ⟨nofun, .inl rfl⟩⟩

/-! ### Proposals -/

/-- The nonce is greater than all that the engine has taken. -/
def Ahead (sim : Simulation) (nonce : UInt64) : Prop := ∀ n ∈ sim.engine.log.nonces, n < nonce

/-- The call that a proposal comes to. -/
def proposing (sim : Simulation) (dispute : DisputeId) (text : String) (nonce : Option UInt64) :
    Operation :=
  .submit sim.signer.account dispute (sim.signer.sign dispute (sim.nonceFor nonce) text)

theorem result_propose (sim : Simulation) (dispute : DisputeId) (text : String)
    (nonce : Option UInt64) : (sim.execute (.propose dispute text nonce)).1 =
      ((sim.engine.perform (sim.proposing dispute text nonce)).1.mapError .dispute).map
        fun _ => () := by
  show (applyEffect sim.engine (.call (sim.proposing dispute text nonce))).1 = _
  rcases hdone : sim.engine.perform (sim.proposing dispute text nonce) with ⟨_ | _, e'⟩ <;>
    simp only [applyEffect, hdone] <;> rfl

theorem engine_propose (sim : Simulation) (dispute : DisputeId) (text : String)
    (nonce : Option UInt64) : (sim.execute (.propose dispute text nonce)).2.engine =
      (sim.engine.perform (sim.proposing dispute text nonce)).2 :=
  applyEffect_call sim.engine _

/-- A proposal whose nonce is ahead is not stale. -/
theorem Tracks.not_stale {dispute : DisputeId} {text : String} {nonce : Option UInt64}
    (h : sim.Tracks nonces) (hahead : sim.Ahead (sim.nonceFor nonce)) (n last : UInt64) :
    (sim.execute (.propose dispute text nonce)).1 ≠ .error (.dispute (.staleNonce n last)) := by
  rw [result_propose]
  intro hresult
  obtain ⟨past, hcounts⟩ := h.counts
  rcases hdone : sim.engine.perform (sim.proposing dispute text nonce) with ⟨err | answer, e'⟩
  · rw [hdone] at hresult
    cases hresult
    obtain ⟨hlast, hle⟩ := Engine.stales_submit h.intact.keyed hdone
    have hmem : last ∈ sim.engine.log.nonces := List.mem_of_getLast? (hcounts.last ▸ hlast)
    exact UInt64.not_lt.2 hle (hahead last hmem)
  · rw [hdone] at hresult
    cases hresult

/-- One whose nonce is not is not put down. -/
theorem Tracks.not_ok {dispute : DisputeId} {text : String} {nonce : Option UInt64}
    (h : sim.Tracks nonces) (hbehind : ¬ sim.Ahead (sim.nonceFor nonce)) :
    (sim.execute (.propose dispute text nonce)).1 ≠ .ok () := by
  rw [result_propose]
  intro hresult
  obtain ⟨past, hcounts⟩ := h.counts
  rcases hdone : sim.engine.perform (sim.proposing dispute text nonce) with ⟨err | answer, e'⟩
  · rw [hdone] at hresult
    cases hresult
  · -- the nonces ascend, so one that exceeds the last of them exceeds them all
    refine hbehind fun n hn => ?_
    have hall := pairwise_lt_concat (n := sim.nonceFor nonce) hcounts.ascending fun last hlast =>
      Engine.lt_of_submit h.intact.keyed hdone (hcounts.last ▸ hlast)
    exact (List.pairwise_append.1 hall).2.2 n hn _ (List.mem_singleton_self _)

/-- The last nonce that there is. -/
def lastNonce : UInt64 := 18446744073709551615

theorem toNat_lastNonce : lastNonce.toNat = 18446744073709551615 := rfl

/-- Below the last nonce the counter goes up. -/
theorem toNat_nonceFor_none (h : sim.nonce ≠ lastNonce) :
    (sim.nonceFor none).toNat = sim.nonce.toNat + 1 := by
  have hlt := sim.nonce.toNat_lt
  have hne : sim.nonce.toNat ≠ lastNonce.toNat := fun heq => h (UInt64.toNat_inj.1 heq)
  rw [toNat_lastNonce] at hne
  show (sim.nonce + 1).toNat = _
  rw [UInt64.toNat_add, UInt64.toNat_one]
  omega

/-- At the last nonce it starts again. -/
theorem nonceFor_none_of_last (h : sim.nonce = lastNonce) : sim.nonceFor none = 0 := by
  show sim.nonce + 1 = 0
  rw [h]
  rfl

/-- The counter is at its end if the last nonce was used. -/
theorem Tracks.nonce_eq_last_iff (h : sim.Tracks nonces) :
    sim.nonce = lastNonce ↔ lastNonce ∈ nonces := by
  constructor
  · intro hlast
    exact hlast ▸ h.greatest.reached.resolve_left fun hzero => by rw [hlast] at hzero; cases hzero
  · intro hmem
    have hle : lastNonce.toNat ≤ sim.nonce.toNat := h.greatest.bound _ hmem
    have hlt := sim.nonce.toNat_lt
    rw [← UInt64.toNat_inj]
    rw [toNat_lastNonce] at hle ⊢
    omega

end Simulation

/-- **Automatic nonces.** After any steps of a simulation, whatever came of them, a proposal without
a nonce of its own is signed with one that is greater than all that the engine has taken if and only
if no step so far used the last nonce, or the engine has taken none. A proposal with such a nonce is
never stale, and one without is never put down. Unless the last nonce was used, the next one is the
successor of the greatest nonce so far and exceeds all that were used, put down or not; after the
last nonce it is zero. -/
theorem automatic_nonce_ahead_iff {s : Scenario} {override : Option Config} {start : Simulation}
    (hstart : Simulation.start s override = .ok start) (steps : List Step) (dispute : DisputeId)
    (text : String) :
    let sim := start.after steps
    let next := sim.nonceFor none
    let result := (sim.execute (.propose dispute text none)).1
    (sim.Ahead next ↔
        Simulation.lastNonce ∉ start.used steps ∨ sim.engine.log.nonces = []) ∧
      (sim.Ahead next → ∀ n last, result ≠ .error (.dispute (.staleNonce n last))) ∧
      (¬ sim.Ahead next → result ≠ .ok ()) ∧
      (Simulation.lastNonce ∉ start.used steps →
        next.toNat = sim.nonce.toNat + 1 ∧ ∀ n ∈ start.used steps, n < next) ∧
      (Simulation.lastNonce ∈ start.used steps → next = 0) := by
  intro sim next result
  have htracks : sim.Tracks (start.used steps) := (Simulation.tracks_of_start hstart).after steps
  have hsucc : Simulation.lastNonce ∉ start.used steps →
      next.toNat = sim.nonce.toNat + 1 ∧ ∀ n ∈ start.used steps, n < next := by
    intro hunused
    have hnext := Simulation.toNat_nonceFor_none (mt htracks.nonce_eq_last_iff.1 hunused)
    refine ⟨hnext, fun n hn => ?_⟩
    rw [UInt64.lt_iff_toNat_lt, hnext]
    exact Nat.lt_succ_of_le (htracks.greatest.bound n hn)
  have hzero : Simulation.lastNonce ∈ start.used steps → next = 0 := fun hused =>
    Simulation.nonceFor_none_of_last (htracks.nonce_eq_last_iff.2 hused)
  refine ⟨⟨fun hahead => ?_, ?_⟩, htracks.not_stale, htracks.not_ok, hsucc, hzero⟩
  · by_cases hused : Simulation.lastNonce ∈ start.used steps
    · refine .inr (List.eq_nil_iff_forall_not_mem.2 fun n hn => ?_)
      have hlt := hahead n hn
      rw [hzero hused] at hlt
      exact UInt64.not_lt_zero hlt
    · exact .inl hused
  · rintro (hunused | hnone)
    · exact fun n hn => (hsucc hunused).2 n (htracks.taken n hn)
    · intro n hn
      rw [hnone] at hn
      cases hn

/-! ### A nonce at the end of its range -/

namespace Sample

/-- The engine of a scenario in which Alice and Bob have a dispute. -/
def contestEngine : Engine where
  config := .default
  oracle := Simulation.oracle.identity
  ledger := .ofBalances [(alice, ⟨1000⟩), (bob, ⟨1000⟩), ((({} : Treasury).reserve), .zero)]
  now := newYear

/-- Both parties stake. Before that the oracle proposes something, and is refused. -/
def contestOpening (early : UInt64) : List Step := [
  { action := .propose .first "terms" (some early), expectedError := some "not found" },
  { action := .initiate "alice" "bob" ⟨100⟩ Action.defaultEvidence none },
  { action := .deposit "bob" .first }]

/-- The oracle's terms, under a nonce of their own. -/
def fifthProposal : Action := .propose .first "terms" (some 5)

/-- The whole scenario. -/
def contest (early : UInt64) : Scenario where
  name := "contest"
  start := Scenario.defaultStart
  accounts := .ofList [("alice", ⟨1000⟩), ("bob", ⟨1000⟩)]
  steps := contestOpening early ++ [{ action := fifthProposal }]

/-- The simulation at its start. -/
def contestStart : Simulation := { engine := contestEngine, signer := Simulation.oracle }

theorem start_contest (early : UInt64) :
    Simulation.start (contest early) none = .ok contestStart := by
  have hparts : (Simulation.start (contest early) none).toOption.map
      (fun sim => (sim.engine.config, sim.engine.ledger, sim.engine.now)) =
        some (contestEngine.config, contestEngine.ledger, contestEngine.now) := by
    -- the steps play no part in the start
    show (Simulation.start (contest 0) none).toOption.map _ = _
    decide +kernel
  cases hstart : Simulation.start (contest early) none with
  | error fault => simp [hstart, Except.toOption] at hparts
  | ok start =>
    obtain ⟨config, ledger, now, rfl⟩ := Simulation.start_eq_ok hstart
    rw [hstart] at hparts
    cases hparts
    rfl

/-- What the oracle signs for its terms. -/
def fifth : Canonical :=
  ⟨"\x7b\"dispute_id\":1,\"domain\":\"truce.proposal.v1\",\"nonce\":5,\"text\":\"terms\"\x7d"⟩

theorem canonical_fifth : (Binding.mk .first 5 "terms").canonical = fifth := by
  have htext : (Binding.mk .first 5 "terms").canonical.text.toList = fifth.text.toList :=
    (Binding.toList_canonical _).trans (by decide +kernel)
  exact congrArg Canonical.mk (String.toList_inj.1 htext)

theorem verify_fifth : Simulation.oracle.identity.verify .first
    (Simulation.oracle.sign .first 5 "terms") = .ok () := by
  have hverified : (Simulation.oracle.key.publicKey.verify fifth.bytes
      (Simulation.oracle.key.sign fifth.bytes)).isOk = true := by
    decide +kernel
  obtain ⟨⟨⟩, hok⟩ := isOk_iff.1 hverified
  rw [OracleIdentity.verify, OracleSigner.sign, canonical_fifth]
  exact hok

/-- The record on which the terms are put down. -/
def contestRecord : Dispute :=
  { contested with
    evidence := Simulation.evidenceDigest Action.defaultEvidence
    fallback := Simulation.standardLicense }

/-- The simulation once both parties have staked, if it was the last nonce that came too early. -/
def contestLate : Simulation := contestStart.after (contestOpening Simulation.lastNonce)

theorem get?_contestLate : contestLate.engine.store.get? .first = some contestRecord := by
  decide +kernel

theorem admitProposal_contestLate : contestLate.engine.admitProposal Simulation.oracle.account
    .first (Simulation.oracle.sign .first 5 "terms") = .ok contestRecord := by
  have horacle : contestLate.engine.oracle = Simulation.oracle.identity := by
    obtain ⟨turns, hturns⟩ := contestStart.exists_turns (contestOpening Simulation.lastNonce)
    rw [contestLate, hturns, (Simulation.intact_of_start (start_contest 0)).oracle_run]
    rfl
  have hdated : contestRecord.resolutionDeadline contestLate.engine.config = .ok twoWeeksLater := by
    rfl
  refine Engine.admitProposal_eq_ok_iff.2 ⟨?_, get?_contestLate, rfl, rfl, rfl, by decide +kernel,
    ⟨twoWeeksLater, hdated, by decide +kernel⟩, ?_, ?_⟩
  · rw [horacle]
    rfl
  · rw [horacle]
    exact verify_fifth
  · rw [show contestLate.engine.store.nonce = none by decide +kernel]
    exact nofun

/-- They are put down, and theirs is the first nonce that the engine takes. -/
theorem execute_fifth :
    (contestLate.execute fifthProposal).1 = .ok () ∧
      (contestLate.execute fifthProposal).2.engine.log.nonces = [5] := by
  have hwrites : contestLate.engine.store.refuseWrites = false := by decide +kernel
  have hdone := Engine.perform_submit admitProposal_contestLate
    (Store.write_eq_ok_iff.2 ⟨hwrites, .inl ⟨contestRecord, get?_contestLate, rfl⟩⟩)
  have hcall : contestLate.proposing .first "terms" (some 5) =
      .submit Simulation.oracle.account .first (Simulation.oracle.sign .first 5 "terms") := rfl
  rw [fifthProposal, Simulation.result_propose, Simulation.engine_propose, hcall, hdone]
  refine ⟨rfl, ?_⟩
  rw [EventLog.nonces_extend, show contestLate.engine.log.nonces = [] by decide +kernel]
  rfl

end Sample

/-- A proposal that was refused is counted: after the seventh nonce the next one is the eighth,
and it is not stale. -/
theorem refused_nonce_is_counted :
    Simulation.start (Sample.contest 7) none = .ok Sample.contestStart ∧
      let sim := Sample.contestStart.after (Sample.contestOpening 7)
      (sim.nonceFor none).toNat = 8 ∧ sim.Ahead (sim.nonceFor none) ∧
        ∀ dispute text n last, (sim.execute (.propose dispute text none)).1 ≠
          .error (.dispute (.staleNonce n last)) := by
  have hstart := Sample.start_contest 7
  have hunused : Simulation.lastNonce ∉ Sample.contestStart.used (Sample.contestOpening 7) := by
    decide +kernel
  have hseven : (Sample.contestStart.after (Sample.contestOpening 7)).nonce.toNat = 7 := by
    decide +kernel
  have hall := automatic_nonce_ahead_iff hstart (Sample.contestOpening 7)
  obtain ⟨hiff, -, -, hsucc, -⟩ := hall .first "terms"
  have hahead := hiff.2 (.inl hunused)
  refine ⟨hstart, ?_, hahead, fun dispute text => (hall dispute text).2.1 hahead⟩
  rw [(hsucc hunused).1, hseven]

/-- An automatic nonce starts again at zero when a proposal that was refused came with the last one,
although the fifth was taken since. All steps before come to what they have to. -/
theorem automatic_nonce_starts_again :
    let s := Sample.contest Simulation.lastNonce
    ∃ start, Simulation.start s none = .ok start ∧ start.Follows s.steps ∧
      (start.after s.steps).engine.log.nonces = [5] ∧ (start.after s.steps).nonceFor none = 0 ∧
      ∀ dispute text, ((start.after s.steps).execute (.propose dispute text none)).1 ≠ .ok () := by
  intro s
  have hstart := Sample.start_contest Simulation.lastNonce
  have hsteps : s.steps = Sample.contestOpening Simulation.lastNonce ++
      [{ action := Sample.fifthProposal }] := rfl
  have hopening : Sample.contestStart.Follows (Sample.contestOpening Simulation.lastNonce) :=
    Simulation.follows_cons.2 ⟨by decide +kernel, Simulation.follows_cons.2 ⟨by decide +kernel,
      Simulation.follows_cons.2 ⟨by decide +kernel, Simulation.follows_nil⟩⟩⟩
  have hfifth : Sample.contestLate.Follows [{ action := Sample.fifthProposal }] :=
    Simulation.follows_cons.2 ⟨Sample.execute_fifth.1, Simulation.follows_nil⟩
  have hfollows : Sample.contestStart.Follows s.steps := by
    rw [hsteps, Simulation.follows_append]
    exact ⟨hopening, hfifth⟩
  have htracks := (Simulation.tracks_of_start hstart).after s.steps
  have hused : Simulation.lastNonce ∈ Sample.contestStart.used s.steps := List.mem_cons_self
  have hzero := Simulation.nonceFor_none_of_last (htracks.nonce_eq_last_iff.2 hused)
  have hlast : Sample.contestStart.after s.steps =
      (Sample.contestLate.execute Sample.fifthProposal).2 := by
    rw [hsteps, Simulation.after_append, Simulation.after_cons, Simulation.after_nil]
    rfl
  have hnonces : (Sample.contestStart.after s.steps).engine.log.nonces = [5] := by
    rw [hlast]
    exact Sample.execute_fifth.2
  refine ⟨Sample.contestStart, hstart, hfollows, hnonces, hzero, fun dispute text =>
    htracks.not_ok fun hahead => ?_⟩
  have hlt := hahead 5 (by rw [hnonces]; exact List.mem_singleton_self 5)
  rw [hzero] at hlt
  exact UInt64.not_lt_zero hlt

end Arbitration
