import Arbitration.Proofs.Rollback

/-!
# Following an operation step by step

`Transaction.Ends t s Q E` says where a run of `t` from the session `s` ends: in `Q` if it
succeeds, and in `E` if it fails. There is one rule for each step of a transaction, and each rule
speaks of the session in the same words: its **footprint**, which is the list of moves and events
so far together with the three other parts, and its **trail**, which is what makes it undoable.

The rules leave `E` open. A rule asks what is to be shown where its step fails, so the same rules
serve to say what a failed operation leaves behind and to show that an operation cannot fail.

Two effects have no compensation, the fallback license and the last write. After them a session
still has its footprint but its trail is gone.
-/

namespace Arbitration

/-! ### Where a run ends -/

namespace Transaction

variable {α β : Type} {s : Session} {Q : α → Session → Prop} {R : β → Session → Prop}
  {E : DisputeError → Session → Prop}

/-- A run of the steps ends in `Q` if it succeeds and in `E` if it fails. -/
def Ends (t : Transaction α) (s : Session) (Q : α → Session → Prop)
    (E : DisputeError → Session → Prop) : Prop :=
  match t s with
  | .ok a s' => Q a s'
  | .error err s' => E err s'

theorem Ends.bind {t : Transaction α} {f : α → Transaction β}
    (h : t.Ends s (fun a s' => (f a).Ends s' R E) E) : (t >>= f).Ends s R E := by
  unfold Ends at h ⊢
  show match EStateM.bind t f s with | .ok b s' => R b s' | .error err s' => E err s'
  unfold EStateM.bind
  cases hrun : t s with
  | ok a s' => simpa only [hrun] using h
  | error err s' => simpa only [hrun] using h

theorem Ends.map {t : Transaction α} {f : α → β} (h : t.Ends s (fun a s' => R (f a) s') E) :
    (f <$> t).Ends s R E := by
  unfold Ends at h ⊢
  show match EStateM.map f t s with | .ok b s' => R b s' | .error err s' => E err s'
  unfold EStateM.map
  cases hrun : t s with
  | ok a s' => simpa only [hrun] using h
  | error err s' => simpa only [hrun] using h

theorem Ends.mono {t : Transaction α} {Q' : α → Session → Prop} (h : t.Ends s Q E)
    (hQ : ∀ a s', Q a s' → Q' a s') : t.Ends s Q' E := by
  unfold Ends at h ⊢
  split
  · rename_i hrun
    rw [hrun] at h
    exact hQ _ _ h
  · rename_i hrun
    rwa [hrun] at h

theorem ends_pure {a : α} (h : Q a s) : (pure a : Transaction α).Ends s Q E := h

theorem ends_throw {err : DisputeError} (h : E err s) :
    (throw err : Transaction α).Ends s Q E := h

end Transaction

/-! ### Footprints -/

/-- What an operation has done so far: its moves and events, and the parts but for the ledger. -/
structure Footprint where
  moves : List Move
  registry : Registry
  treasury : Treasury
  store : Store
  events : List (DisputeId × Event)

/-- Only moves and events so far. -/
def Engine.moving (e : Engine) (moves : List Move) (events : List (DisputeId × Event)) :
    Footprint :=
  ⟨moves, e.registry, e.treasury, e.store, events⟩

namespace Footprint

/-- One more move. -/
def move (f : Footprint) (m : Move) : Footprint := { f with moves := f.moves ++ [m] }

/-- Some more events. -/
def report (f : Footprint) (events : List (DisputeId × Event)) : Footprint :=
  { f with events := f.events ++ events }

/-- The engine that a footprint leads to, with the ledger that its moves lead to. -/
def after (f : Footprint) (start : Engine) (ledger : Ledger) : Engine :=
  { start with ledger, registry := f.registry, treasury := f.treasury, store := f.store }

end Footprint

namespace Session

/-- The session has come from `start` with this footprint. -/
structure Shows (start : Engine) (f : Footprint) (s : Session) : Prop where
  engine : s.engine = f.after start s.engine.ledger
  moves : start.ledger.Moves f.moves s.engine.ledger
  events : s.events = f.events

/-- It has, and all that it did can be taken back. -/
structure At (start : Engine) (issued : Undo → Prop) (f : Footprint) (s : Session) : Prop where
  shows : s.Shows start f
  trail : Trail start issued s.journal s.engine

variable {start : Engine} {issued : Undo → Prop} {f : Footprint} {s : Session}

/-- Where every operation begins. -/
theorem at_start (start : Engine) (issued : Undo → Prop) :
    At start issued (start.moving [] []) { engine := start } :=
  ⟨⟨rfl, .nil, rfl⟩, .start⟩

/-- A move of nothing may be counted as made. -/
theorem At.skip {m : Move} (hs : s.At start issued f) (hm : m.amount.isZero = true) :
    s.At start issued (f.move m) :=
  ⟨⟨hs.shows.engine, .snoc hs.shows.moves (Ledger.moved_of_isZero hm), hs.shows.events⟩, hs.trail⟩

/-- The parts but for the ledger are those of the footprint. -/
theorem Shows.parts (hs : s.Shows start f) :
    s.engine.registry = f.registry ∧ s.engine.treasury = f.treasury ∧ s.engine.store = f.store := by
  rw [hs.engine]
  exact ⟨rfl, rfl, rfl⟩

theorem Shows.registry (hs : s.Shows start f) (registry : Registry) (journal : List Undo) :
    ({ s with engine := { s.engine with registry }, journal } : Session).Shows start
      { f with registry } := by
  refine ⟨?_, hs.moves, hs.events⟩
  show { s.engine with registry } = _
  rw [hs.engine]
  rfl

theorem Shows.treasury (hs : s.Shows start f) (treasury : Treasury) (journal : List Undo) :
    ({ s with engine := { s.engine with treasury }, journal } : Session).Shows start
      { f with treasury } := by
  refine ⟨?_, hs.moves, hs.events⟩
  show { s.engine with treasury } = _
  rw [hs.engine]
  rfl

theorem Shows.store (hs : s.Shows start f) (store : Store) (journal : List Undo) :
    ({ s with engine := { s.engine with store }, journal } : Session).Shows start
      { f with store } := by
  refine ⟨?_, hs.moves, hs.events⟩
  show { s.engine with store } = _
  rw [hs.engine]
  rfl

theorem Shows.report (hs : s.Shows start f) (events : List (DisputeId × Event)) :
    ({ s with events := s.events ++ events } : Session).Shows start (f.report events) :=
  ⟨hs.engine, hs.moves, congrArg (· ++ events) hs.events⟩

/-- No events more is as many as before. -/
theorem At.report_nil (hs : s.At start issued f) : s.At start issued (f.report []) := by
  refine ⟨⟨hs.shows.engine, hs.shows.moves, ?_⟩, hs.trail⟩
  show s.events = f.events ++ []
  rw [List.append_nil, hs.shows.events]

end Session

/-! ### One rule for each step -/

namespace Transaction

variable {α β : Type} {start : Engine} {issued : Undo → Prop} {f : Footprint} {s : Session}
  {Q : α → Session → Prop} {R : Unit → Session → Prop} {E : DisputeError → Session → Prop}

theorem ends_ask {question : Engine → Except DisputeError α} (hs : s.Shows start f)
    (hfail : ∀ err, question (f.after start s.engine.ledger) = .error err → E err s)
    (hok : ∀ a, question (f.after start s.engine.ledger) = .ok a → Q a s) :
    (ask question).Ends s Q E := by
  simp only [ask, Ends]
  rw [hs.engine]
  cases hq : question (f.after start s.engine.ledger) with
  | ok a => exact hok a hq
  | error err => exact hfail err hq

theorem ends_engine {Q : Engine → Session → Prop} (hs : s.Shows start f)
    (hok : Q (f.after start s.engine.ledger) s) : engine.Ends s Q E := by
  show Q s.engine s
  rw [hs.engine]
  exact hok

/-- At the start the engine is the one that the operation is called on. -/
theorem ends_engine_first {Q : Engine → Session → Prop} (hok : Q start { engine := start }) :
    engine.Ends { engine := start } Q E := hok

theorem ends_ask_first {question : Engine → Except DisputeError α}
    (hfail : ∀ err, question start = .error err → E err { engine := start })
    (hok : ∀ a, question start = .ok a → Q a { engine := start }) :
    (ask question).Ends { engine := start } Q E :=
  ends_ask (Session.at_start start fun _ => True).shows hfail hok

theorem ends_calculate {result : Except ArithmeticError α}
    (hfail : ∀ err, result = .error err → E (.arithmetic err) s)
    (hok : ∀ a, result = .ok a → Q a s) : (calculate result).Ends s Q E := by
  simp only [calculate, ask, Ends]
  cases result with
  | ok a => exact hok a rfl
  | error err => exact hfail err rfl

theorem ends_emit {dispute : DisputeId} {event : Event} (hs : s.At start issued f)
    (hok : ∀ s', s'.At start issued (f.report [(dispute, event)]) → R () s') :
    (emit dispute event).Ends s R E :=
  hok _ ⟨hs.shows.report _, hs.trail⟩

/-- The same where there is nothing to take back any more. -/
theorem ends_emit_last {dispute : DisputeId} {event : Event} (hs : s.Shows start f)
    (hok : ∀ s', s'.Shows start (f.report [(dispute, event)]) → R () s') :
    (emit dispute event).Ends s R E :=
  hok _ (hs.report _)

theorem ends_move {source target : AccountId} {amount : Amount} (hs : s.At start issued f)
    (hmay : issued (.transfer source target amount))
    (hfail : ∀ err, start.ledger.Refuses f.moves ⟨source, target, amount⟩ err → E (.ledger err) s)
    (hok : ∀ s', s'.At start issued (f.move ⟨source, target, amount⟩) → R () s') :
    (move source target amount).Ends s R E := by
  simp only [move, Ends]
  by_cases hz : amount.isZero = true
  · -- the ledger is not asked, and nothing goes into the journal
    rw [if_pos hz]
    exact hok s (hs.skip hz)
  · rw [if_neg hz]
    cases hdone : s.engine.ledger.transfer source target amount with
    | error err => exact hfail err ⟨s.engine.ledger, hs.shows.moves, hdone⟩
    | ok ledger =>
      refine hok _ ⟨⟨?_, .snoc hs.shows.moves ?_, hs.shows.events⟩,
        .effect hs.trail hmay (.transfer hdone)⟩
      · show { s.engine with ledger } = _
        rw [hs.shows.engine]
        rfl
      · rw [Ledger.Moved, if_neg hz]
        exact hdone

theorem ends_freeze {holder : AccountId} (hs : s.At start issued f)
    (hmay : issued (.freeze start.store.nextId)) (hfirst : f.registry = start.registry)
    (hfail : ∀ err, start.registry.freeze start.store.nextId holder = .error err →
      E (.registry err) s)
    (hok : ∀ s' registry, start.registry.freeze start.store.nextId holder = .ok registry →
      s'.At start issued { f with registry } → R () s') :
    (freeze start.store.nextId holder).Ends s R E := by
  have hregistry : s.engine.registry = start.registry := hs.shows.parts.1.trans hfirst
  simp only [freeze, Ends]
  rw [hregistry]
  cases hdone : start.registry.freeze start.store.nextId holder with
  | error err => exact hfail err hdone
  | ok registry =>
    exact hok _ registry hdone ⟨hs.shows.registry registry _,
      .effect hs.trail hmay (.freeze hregistry hdone)⟩

/-- The registry's refusal is an answer and not a failure. -/
theorem ends_tryUnfreeze {Q : Option RegistryError → Session → Prop} {dispute : DisputeId}
    {d : Dispute} {release : Release} (hs : s.At start issued f)
    (hmay : issued (.unfreeze dispute d.initiator)) (hfirst : f.registry = start.registry)
    (hknown : ∃ d', start.store.get? dispute = some d' ∧ d'.initiator = d.initiator)
    (hrefused : ∀ err, start.registry.unfreeze dispute release = .error err → Q (some err) s)
    (hok : ∀ s' registry, start.registry.unfreeze dispute release = .ok registry →
      s'.At start issued { f with registry } → Q none s') :
    (tryUnfreeze dispute d.initiator release).Ends s Q E := by
  have hregistry : s.engine.registry = start.registry := hs.shows.parts.1.trans hfirst
  obtain ⟨d', hget, hholder⟩ := hknown
  simp only [tryUnfreeze, Ends]
  rw [hregistry]
  cases hdone : start.registry.unfreeze dispute release with
  | error err => exact hrefused err hdone
  | ok registry =>
    exact hok _ registry hdone ⟨hs.shows.registry registry _,
      .effect hs.trail hmay (hholder ▸ .unfreeze hregistry hget hdone)⟩

/-- There is no way back from here. -/
theorem ends_applyFallback {dispute : DisputeId} {termsRef : String} (hs : s.Shows start f)
    (hfail : ∀ err, f.registry.applyFallback dispute termsRef = .error err → E (.registry err) s)
    (hok : ∀ s' registry, f.registry.applyFallback dispute termsRef = .ok registry →
      s'.Shows start { f with registry } → R () s') :
    (applyFallback dispute termsRef).Ends s R E := by
  simp only [applyFallback, Ends]
  rw [hs.parts.1]
  cases hdone : f.registry.applyFallback dispute termsRef with
  | error err => exact hfail err hdone
  | ok registry => exact hok _ registry hdone (hs.registry registry s.journal)

theorem ends_recordHarassment {account : AccountId} (hs : s.At start issued f)
    (hmay : issued (.harassment account)) (hfirst : f.treasury = start.treasury)
    (hfail : ∀ err, start.treasury.recordHarassment account = .error err → E (.treasury err) s)
    (hok : ∀ s' treasury, start.treasury.recordHarassment account = .ok treasury →
      s'.At start issued { f with treasury } → R () s') :
    (recordHarassment account).Ends s R E := by
  have htreasury : s.engine.treasury = start.treasury := hs.shows.parts.2.1.trans hfirst
  simp only [recordHarassment, Ends]
  rw [htreasury]
  cases hdone : start.treasury.recordHarassment account with
  | error err => exact hfail err hdone
  | ok treasury =>
    exact hok _ treasury hdone ⟨hs.shows.treasury treasury _,
      .effect hs.trail hmay (.harassment htreasury hdone)⟩

/-- A write is the last step that can fail. -/
theorem ends_write {w : StoreWrite} (hs : s.Shows start f)
    (hfail : ∀ err, f.store.write w = .error err → E (.store err) s)
    (hok : ∀ s' store, f.store.write w = .ok store → s'.Shows start { f with store } → R () s') :
    (write w).Ends s R E := by
  simp only [write, Ends]
  rw [hs.parts.2.2]
  cases hdone : f.store.write w with
  | error err => exact hfail err hdone
  | ok store => exact hok _ store hdone (hs.store store s.journal)

/-- A write that can be taken back, because the record before it is known. -/
theorem ends_replace {previous next : Dispute} (hs : s.At start issued f)
    (hmay : issued (.record previous)) (hfirst : f.store = start.store)
    (hknown : start.store.get? next.id = some previous) (hsame : previous.id = next.id)
    (hfail : ∀ err, start.store.write { record := next } = .error err → E (.store err) s)
    (hok : ∀ s' store, start.store.write { record := next } = .ok store →
      s'.At start issued { f with store } → R () s') :
    (replace previous next).Ends s R E := by
  have hstore : s.engine.store = start.store := hs.shows.parts.2.2.trans hfirst
  simp only [replace, write, Ends]
  rw [hstore]
  cases hdone : start.store.write { record := next } with
  | error err => exact hfail err hdone
  | ok store =>
    exact hok _ store hdone ⟨hs.shows.store store _,
      .effect hs.trail hmay (.record hstore hknown hsame hdone)⟩

/-- Events that are reported only under a condition. -/
theorem ends_emit_unless {c : Bool} {dispute : DisputeId} {event : Event}
    {rest : Unit → Transaction β} {R : β → Session → Prop} (hs : s.At start issued f)
    (hok : ∀ s', s'.At start issued (f.report (if c then [] else [(dispute, event)])) →
      (rest ()).Ends s' R E) :
    (if (!c) = true then emit dispute event >>= rest else rest ()).Ends s R E := by
  cases c with
  | true => exact hok s hs.report_nil
  | false => exact .bind (ends_emit hs hok)

end Transaction

end Arbitration
