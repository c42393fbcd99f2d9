import Arbitration.Proofs.Preservation

/-!
# What a turn does to a dispute

A turn of a clean run either leaves the records, the balances and the log as they are, or it is
an operation that succeeds (`Engine.Turned`). An operation that succeeds deals with **one
dispute**, in one of three ways (`Engine.Treats`): the dispute stays open, it is decided, or the
release of its asset is completed. Statements about whole runs are shown by these few cases.
-/

namespace Arbitration

/-! ### The dispute of an operation -/

namespace Operation

/-- The dispute that an operation names. A filing names none. -/
def named : Operation → Option DisputeId
  | initiate _ _ => none
  | deposit _ id | grantSubsidy _ id | submit _ id _ | accept _ id | counter _ id _
  | enforce _ id | retryRelease _ id => some id

/-- The dispute that an operation is about: the one that it names, or the one that it opens. -/
def dispute (e : Engine) (op : Operation) : DisputeId := op.named.getD e.store.nextId

theorem dispute_of_named {e : Engine} {op : Operation} {id : DisputeId} (h : op.named = some id) :
    op.dispute e = id := by
  rw [dispute, h, Option.getD_some]

end Operation

/-! ### Turns -/

namespace Engine

/-- The records, the last nonce, the balances and the log are as before. The clock, the switches,
the counts of calls and the releases of aborted filings are not compared. -/
structure Idle (e e' : Engine) : Prop where
  config : e'.config = e.config
  oracle : e'.oracle = e.oracle
  accounts : e'.accounts = e.accounts
  reserve : e'.treasury.reserve = e.treasury.reserve
  records : e'.store.records = e.store.records
  nextId : e'.store.nextId = e.store.nextId
  nonce : e'.store.nonce = e.store.nonce
  balance : ∀ a, e'.ledger.balance a = e.ledger.balance a
  log : e'.log = e.log

theorem Idle.get? {e e' : Engine} (h : e.Idle e') (id : DisputeId) :
    e'.store.get? id = e.store.get? id :=
  congrArg (Table.get? · id) h.records

theorem idle_setClock {e : Engine} (now : Timestamp) : e.Idle (e.setClock now) :=
  ⟨rfl, rfl, rfl, rfl, rfl, rfl, rfl, fun _ => rfl, rfl⟩

theorem idle_setSwitches {e : Engine} (switches : Switches) :
    e.Idle (e.setSwitches switches) :=
  ⟨rfl, rfl, rfl, rfl, rfl, rfl, rfl, fun _ => rfl, rfl⟩

/-- A failed operation that was taken back leaves the engine idle. -/
theorem Sound.idle_of_error {e e' : Engine} {op : Operation} {err : DisputeError} (h : e.Sound)
    (hclean : e.takesBack op = true) (hdone : e.perform op = (.error err, e')) : e.Idle e' := by
  have hagree := h.agrees_of_error hclean hdone
  exact ⟨hagree.config, hagree.oracle, hagree.accounts, hagree.reserve, congrArg _ hagree.store,
    congrArg _ hagree.store, congrArg _ hagree.store, hagree.balance, hagree.log⟩

/-- A failed operation leaves the records and the last nonce, whatever was refused on the way
back. -/
theorem store_of_error {e e' : Engine} {op : Operation} {err : DisputeError}
    (hk : e.store.Keyed) (hdone : e.perform op = (.error err, e')) : e'.store = e.store := by
  obtain ⟨session, -, ⟨htrail, -⟩, rfl⟩ := Engine.perform_error hk hdone
  exact htrail.store_rollback rfl

/-- It leaves the configuration, the clock and the log as well. -/
theorem aligned_of_error {e e' : Engine} {op : Operation} {err : DisputeError}
    (hk : e.store.Keyed) (hdone : e.perform op = (.error err, e')) : e.Aligned e' := by
  obtain ⟨session, -, ⟨htrail, -⟩, rfl⟩ := Engine.perform_error hk hdone
  exact htrail.aligned_rollback

/-- What a turn of a clean run comes to. -/
inductive Turned (e : Engine) : Turn → Engine → Prop
  | idle {s : Turn} {e' : Engine} (same : e.Idle e') : Turned e s e'
  | done {op : Operation} {answer : Answer} {f : Footprint} {ledger : Ledger}
      (succeeds : Succeeds e op answer f) (moves : e.ledger.Moves f.moves ledger) :
      Turned e (.call op) (e.having f ledger)

/-- **Every turn** of a clean run is idle or an operation that succeeds. -/
theorem Sound.turned {e : Engine} (h : e.Sound) (s : Turn) (hclean : e.stepsCleanly s = true) :
    e.Turned s (e.step s) := by
  cases s with
  | clock now => exact .idle (idle_setClock now)
  | switch switches => exact .idle (idle_setSwitches switches)
  | call op =>
    have hclean : e.takesBack op = true := hclean
    show e.Turned (.call op) (e.perform op).2
    rcases hdone : e.perform op with ⟨err | answer, e'⟩
    · exact .idle (h.idle_of_error hclean hdone)
    · obtain ⟨f, ledger, hsucceeds, hmoves, rfl⟩ := perform_ok h.keyed hdone
      exact .done hsucceeds hmoves

/-! ### What succeeded -/

/-- The operation of a turn, if it succeeds. -/
def succeeded (e : Engine) : Turn → List Operation
  | .call op => if (e.perform op).1.isOk then [op] else []
  | .clock _ | .switch _ => []

/-- The operations that succeed in some turns, in order. -/
def history (e : Engine) : List Turn → List Operation
  | [] => []
  | s :: rest => e.succeeded s ++ (e.step s).history rest

section Induction

variable {P : List Operation → Engine → Prop}
  (hidle : ∀ {past : List Operation} {e e' : Engine}, e.Idle e' → P past e → P past e')
  (hdone : ∀ {past : List Operation} {e : Engine} {op : Operation} {answer : Answer}
    {f : Footprint} {ledger : Ledger}, e.Sound → Succeeds e op answer f →
      e.ledger.Moves f.moves ledger → P past e → P (past ++ [op]) (e.having f ledger))
include hidle hdone

/-- A turn of a clean run keeps what idle turns and successful operations keep. -/
theorem Sound.history_step {past : List Operation} {e : Engine} (h : e.Sound) (s : Turn)
    (hclean : e.stepsCleanly s = true) (hP : P past e) : P (past ++ e.succeeded s) (e.step s) := by
  cases s with
  | clock now =>
    rw [succeeded, List.append_nil]
    exact hidle (idle_setClock now) hP
  | switch switches =>
    rw [succeeded, List.append_nil]
    exact hidle (idle_setSwitches switches) hP
  | call op =>
    rw [succeeded]
    show P _ (e.perform op).2
    rcases hperform : e.perform op with ⟨err | answer, e'⟩
    · show P (past ++ []) e'
      rw [List.append_nil]
      exact hidle (h.idle_of_error hclean hperform) hP
    · obtain ⟨f, ledger, hsucceeds, hmoves, rfl⟩ := perform_ok h.keyed hperform
      exact hdone h hsucceeds hmoves hP

/-- **Induction over a clean run** of a sound engine, with the operations that have succeeded so
far: idle turns add none, and every other turn adds one. -/
theorem Sound.history_induction {e : Engine} {turns : List Turn} (h : e.Sound)
    (hclean : e.runsCleanly turns = true) (hP : P [] e) : P (e.history turns) (e.run turns) := by
  suffices hall : ∀ past, P past e → P (past ++ e.history turns) (e.run turns) from hall [] hP
  clear hP
  induction turns generalizing e with
  | nil =>
    intro past hP
    rw [history, List.append_nil]
    exact hP
  | cons s rest ih =>
    intro past hP
    obtain ⟨hfirst, hrest⟩ := Bool.and_eq_true_iff.1 hclean
    rw [history, ← List.append_assoc]
    exact ih (h.step s hfirst) hrest _ (h.history_step (P := P) hidle hdone s hfirst hP)

end Induction

/-- Where only the engine matters, idle turns and successful operations are all that there is. -/
theorem Sound.run_induction {P : Engine → Prop} {e : Engine} {turns : List Turn} (h : e.Sound)
    (hclean : e.runsCleanly turns = true) (hP : P e)
    (hidle : ∀ {e e' : Engine}, e.Idle e' → P e → P e')
    (hdone : ∀ {e : Engine} {op : Operation} {answer : Answer} {f : Footprint} {ledger : Ledger},
      e.Sound → Succeeds e op answer f → e.ledger.Moves f.moves ledger → P e →
        P (e.having f ledger)) : P (e.run turns) :=
  Sound.history_induction (P := fun _ => P) hidle hdone h hclean hP

/-- The configuration stays what it was at the start. -/
theorem Sound.config_run {e : Engine} {turns : List Turn} (h : e.Sound)
    (hclean : e.runsCleanly turns = true) : (e.run turns).config = e.config :=
  h.run_induction (P := fun e' => e'.config = e.config) hclean rfl
    (fun hidle hconfig => hidle.config.trans hconfig) fun _ _ _ hconfig => hconfig

end Engine

/-! ### Events of an end -/

namespace Event

/-- Whether the event is a resolution. -/
def isResolved : Event → Bool
  | resolved .. => true
  | _ => false

/-- Whether the event is the release of an asset for which the registry had to be asked again. -/
def isReleaseCompleted : Event → Bool
  | releaseCompleted => true
  | _ => false

end Event

/-- The events are about one dispute, and tell neither of its resolution nor of a completed
release. -/
def Quiet (id : DisputeId) (events : List (DisputeId × Event)) : Prop :=
  ∀ p ∈ events, p.1 = id ∧ p.2.isResolved = false ∧ p.2.isReleaseCompleted = false

/-! ### Decisions -/

/-- How a dispute is decided: what is handed to the resolution, and the moves and events before
it. -/
inductive Engine.Decides (e : Engine) (d : Dispute) :
    Dispute → Resolution → List Move → List (DisputeId × Event) → Prop
  | agreement {p : Party} {terms : Proposal} (staked : d.fullyStaked = true)
      (proposed : d.proposal = some terms) (both : (d.accept p).bothAccepted = true) :
      Decides e d (d.accept p) (.agreement (d.accept p) terms.text) []
        [(d.id, .proposalAccepted p)]
  | lapse {source : AccountId} {draw : Amount} {skipped : List (DisputeId × Event)}
      (unstaked : d.fullyStaked = false) (draws : e.Draws d source draw skipped) :
      Decides e d d (.lapse d draw) [e.subsidyReturn d, ⟨source, d.initiator, draw⟩]
        ((if d.subsidy.isZero then [] else [(d.id, .subsidyReturned d.subsidy)]) ++ skipped)
  | deadlock {settlement : Settlement} (staked : d.fullyStaked = true)
      (split : Policy.timeoutSplit d.initiatorStake d.counterpartyStake
        e.config.timeoutBurnBps = .ok settlement) :
      Decides e d d (.deadlock d settlement) [] []

namespace Engine.Decides

variable {e : Engine} {d d' : Dispute} {r : Resolution} {moves : List Move}
  {events : List (DisputeId × Event)}

/-- Only acceptances tell the record handed over from the one in the store. -/
theorem accepting (h : e.Decides d d' r moves events) : ∃ i c, d' = d.accepting i c := by
  cases h with
  | agreement _ _ _ => exact d.accept_eq _
  | lapse _ _ => exact ⟨_, _, rfl⟩
  | deadlock _ _ => exact ⟨_, _, rfl⟩

theorem quiet (h : e.Decides d d' r moves events) : Quiet d.id events := by
  cases h with
  | agreement _ _ _ => simp [Quiet, Event.isResolved, Event.isReleaseCompleted]
  | lapse unstaked draws =>
    exact draws.forall_mem_events ⟨rfl, rfl, rfl⟩ fun _ _ => ⟨rfl, rfl, rfl⟩
  | deadlock _ _ =>
    intro p hp
    cases hp

end Engine.Decides

/-! ### Three ways to deal with a dispute -/

/-- What a successful operation does to the dispute that it is about. -/
inductive Engine.Treats (e : Engine) : Operation → Footprint → Prop
  | advances {op : Operation} {f : Footprint} {w : StoreWrite}
      (written : e.store.write w = .ok f.store) (same : w.record.id = op.dispute e)
      (before : ∀ d, e.store.get? (op.dispute e) = some d → d.resolved = false)
      (after : w.record.resolved = false) (quiet : Quiet (op.dispute e) f.events) : Treats e op f
  | decides {op : Operation} {f : Footprint} {d d' : Dispute} {r : Resolution}
      {moves : List Move} {events : List (DisputeId × Event)}
      (found : e.store.get? (op.dispute e) = some d) (opened : d.resolved = false)
      (decided : e.Decides d d' r moves events) (resolves : Resolves e d' r moves events f) :
      Treats e op f
  | completes {caller : AccountId} {id : DisputeId} {f : Footprint} {d : Dispute}
      {release : Release} (found : e.store.get? id = some d) (resolved : d.resolved = true)
      (pending : d.pendingRelease = some release)
      (written : e.store.write { record := { d with pendingRelease := none } } = .ok f.store)
      (events : f.events = [(id, .releaseCompleted)]) : Treats e (.retryRelease caller id) f

namespace Engine.Treats

variable {e : Engine} {op : Operation} {f : Footprint} {id : DisputeId}

/-- No other record is touched. -/
theorem elsewhere (h : e.Treats op f) (hsound : e.Sound) (hid : op.dispute e ≠ id) :
    f.store.get? id = e.store.get? id := by
  cases h with
  | advances written same before after quiet =>
    rw [Store.get?_of_write written, same, if_neg hid]
  | decides found opened decided resolves =>
    obtain ⟨i, c, rfl⟩ := decided.accepting
    obtain ⟨waiting, hwritten⟩ := resolves.exists_written
    have hne := hsound.keyed _ _ found ▸ hid
    exact (Store.get?_of_write hwritten id).trans (if_neg hne)
  | completes found resolved pending written events =>
    have hne := hsound.keyed _ _ found ▸ hid
    exact (Store.get?_of_write written id).trans (if_neg hne)

/-- A dispute that was open before and is resolved afterwards was decided. -/
theorem exists_decides {d d' : Dispute} (h : e.Treats op f) (hsound : e.Sound)
    (hget : e.store.get? id = some d) (hopen : d.resolved = false)
    (hget' : f.store.get? id = some d') (hresolved : d'.resolved = true) :
    ∃ handed r moves events, e.Decides d handed r moves events ∧
      Resolves e handed r moves events f := by
  by_cases hid : op.dispute e = id
  · subst hid
    cases h with
    | advances written same before after quiet =>
      rw [Store.get?_of_write written, if_pos same] at hget'
      cases hget'
      rw [after] at hresolved
      cases hresolved
    | decides found opened decided resolves =>
      rw [hget] at found
      cases found
      exact ⟨_, _, _, _, decided, resolves⟩
    | completes found resolved pending written events =>
      obtain rfl := Option.some.inj (found.symm.trans hget)
      rw [hopen] at resolved
      cases resolved
  · -- a record that is not touched stays open
    rw [h.elsewhere hsound hid, hget] at hget'
    cases hget'
    rw [hopen] at hresolved
    cases hresolved

end Engine.Treats

/-- **Every successful operation** deals with its dispute in one of the three ways. -/
theorem Succeeds.treats {e : Engine} {op : Operation} {answer : Answer} {f : Footprint}
    (hs : Succeeds e op answer f) (h : e.Sound) : e.Treats op f := by
  have hopen : ∀ {id : DisputeId} {d : Dispute}, e.store.get? id = some d → d.resolved = false →
      ∀ d', e.store.get? id = some d' → d'.resolved = false := by
    intro id d hget hd d' hget'
    rw [hget] at hget'
    cases hget'
    exact hd
  cases hs with
  | initiate admitted setAside counted frozen dated written =>
    refine .advances written rfl (fun d hget => ?_) rfl ?_
    · change e.store.get? e.store.nextId = some d at hget
      rw [h.get?_nextId] at hget
      cases hget
    · simp [Quiet, Operation.dispute, Operation.named, Event.isResolved, Event.isReleaseCompleted]
  | @deposit caller id dep total store admitted added written =>
    obtain ⟨hget, hd, -⟩ := Engine.admitDeposit_eq_ok_iff.1 admitted
    have hid := h.keyed id _ hget
    refine .advances written hid (hopen hget hd) hd ?_
    simp [Quiet, Operation.dispute, Operation.named, Event.isResolved, Event.isReleaseCompleted]
  | @grantSubsidy caller id d amount store admitted written =>
    obtain ⟨hget, hd, -⟩ := Engine.admitSubsidy_eq_ok_iff.1 admitted
    have hid := h.keyed id _ hget
    refine .advances written hid (hopen hget hd) hd ?_
    simp [Quiet, Operation.dispute, Operation.named, Event.isResolved, Event.isReleaseCompleted]
  | @submit caller id p d store admitted written =>
    obtain ⟨-, hget, hd, -⟩ := Engine.admitProposal_eq_ok_iff.1 admitted
    have hid := h.keyed id _ hget
    refine .advances written hid (hopen hget hd) hd ?_
    simp [Quiet, Operation.dispute, Operation.named, Event.isResolved, Event.isReleaseCompleted]
  | @accept caller id a store admitted one written =>
    obtain ⟨hget, hd, -⟩ := Engine.admitAcceptance_eq_ok_iff.1 admitted
    have hid := h.keyed id _ hget
    obtain ⟨i, c, haccept⟩ := a.record.accept_eq a.party
    rw [haccept] at written
    refine .advances written hid (hopen hget hd) hd ?_
    simp [Quiet, Operation.dispute, Operation.named, Event.isResolved, Event.isReleaseCompleted]
  | @counter caller id r c routed next deadline store admitted routes opened dated written =>
    obtain ⟨hget, hd, -⟩ := Engine.admitCounter_eq_ok_iff.1 admitted
    have hid := h.keyed id _ hget
    obtain ⟨startTime, -, -, -, rfl⟩ := Dispute.counterRound_eq_ok_iff.1 opened
    refine .advances written hid (hopen hget hd) hd ?_
    simp [Quiet, Operation.dispute, Operation.named, Event.isResolved, Event.isReleaseCompleted]
  | @agree caller id a f admitted both resolves =>
    obtain ⟨hget, hd, -, ⟨terms, hterms, htext⟩, -⟩ :=
      Engine.admitAcceptance_eq_ok_iff.1 admitted
    have hstaked := (h.records id _ hget).proposed (by rw [hterms]; rfl)
    have hid := h.keyed id _ hget
    rw [htext, ← hid] at resolves
    exact .decides hget hd (.agreement hstaked hterms both) resolves
  | @lapse caller source id d draw skipped f admitted draws resolves =>
    obtain ⟨hget, hd, hstaked, -⟩ := Engine.admitEnforcement_eq_silent_iff.1 admitted
    exact .decides hget hd (.lapse hstaked draws) resolves
  | @deadlock caller id d settlement f admitted resolves =>
    obtain ⟨hget, hd, hstaked, -, hsplit⟩ := Engine.admitEnforcement_eq_deadlocked_iff.1 admitted
    exact .decides hget hd (.deadlock hstaked hsplit) resolves
  | @retry caller id d release registry store admitted freed written =>
    obtain ⟨hget, hpending, hresolved⟩ := Engine.admitRetry_eq_ok_iff.1 admitted
    exact .completes hget hresolved hpending written rfl

end Arbitration
