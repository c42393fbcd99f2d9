import Arbitration.Proofs.Preservation

/-!
# A failed operation leaves nothing behind

In a clean run a failed operation is taken back completely, if none of its compensations is
refused. `Operation.Clear` gives conditions on the switches under which none is: the operation
debits no account to which credits are refused, and the registry is not made to fail in the one
direction that the operation needs for its way back.

Two things can stay. A score that was **full** does not show one more filing, so taking that filing
back lowers it. And a filing that had already frozen its asset leaves the release of that asset,
marked as aborted, under a number that no dispute has yet.
-/

namespace Arbitration

namespace Engine

/-- The accounts that a failing operation had debited when it stopped. -/
def debited (e : Engine) (op : Operation) : List AccountId :=
  match e.stop op with
  | none => []
  | some s => s.journal.filterMap fun
    | .transfer source _ _ => some source
    | _ => none

/-- Balances, records, numbers, cooldowns, the last nonce, scores, frozen assets, licenses and the
log are as before; so are the releases, but for one that was aborted. -/
structure Restored (e e' : Engine) : Prop where
  balance : ∀ a, e'.ledger.balance a = e.ledger.balance a
  records : e'.store.records = e.store.records
  nextId : e'.store.nextId = e.store.nextId
  encounters : e'.store.encounters = e.store.encounters
  nonce : e'.store.nonce = e.store.nonce
  score : ∀ a, e'.treasury.score a = e.treasury.score a
  frozen : ∀ id, e'.registry.frozen.get? id = e.registry.frozen.get? id
  licenses : e'.registry.licenses = e.registry.licenses
  log : e'.log = e.log
  released : ∀ id, e'.registry.released.get? id = e.registry.released.get? id ∨
    id = e.store.nextId ∧ e.store.get? id = none ∧ e'.registry.released.get? id = some .aborted

end Engine

namespace Operation

/-- No switch stands in the way of the operation's compensations. -/
def Clear (e : Engine) (op : Operation) : Prop :=
  (∀ a ∈ e.debited op, e.ledger.refusedCredit ≠ some a) ∧
    match op with
    | .initiate _ _ => e.registry.faults.unfreeze = false
    | .accept _ _ | .enforce _ _ | .retryRelease _ _ => e.registry.faults.freeze = false
    | _ => True

/-- If the operation files a dispute, one more filing would show in the score of its caller. -/
def ScoreBelowFull (e : Engine) : Operation → Prop
  | .initiate caller _ => (e.treasury.score caller).toNat < 4294967295
  | _ => True

variable {e : Engine} {op : Operation} {s : Session}

/-- Where no switch stands in the way of the operation, none stands in the way of any
compensation that it has issued. -/
theorem Clear.unobstructed (h : op.Clear e) (hstop : e.stop op = some s)
    (htrail : Trail e op.issues s.journal s.engine) : ∀ u ∈ s.journal, u.Unobstructed e := by
  intro u hu
  have hissued := htrail.mem_issued u hu
  cases u with
  | transfer source target amount =>
    refine h.1 source ?_
    simp only [Engine.debited, hstop]
    exact List.mem_filterMap.2 ⟨_, hu, rfl⟩
  | freeze dispute =>
    cases op with
    | initiate caller r => exact h.2
    | _ => exact hissued.elim
  | unfreeze dispute holder =>
    cases op with
    | accept caller id => exact h.2
    | enforce caller id => exact h.2
    | retryRelease caller id => exact h.2
    | _ => exact hissued.elim
  | harassment account => trivial
  | record previous => trivial

theorem ScoreBelowFull.ne_full (h : op.ScoreBelowFull e) {a : AccountId}
    (hissued : op.issues (.harassment a)) : e.treasury.score a ≠ Treasury.fullScore := by
  intro hfull
  cases op with
  | initiate caller r =>
    have hcaller : a = caller := hissued
    subst hcaller
    have hlt : (e.treasury.score a).toNat < 4294967295 := h
    rw [hfull] at hlt
    exact absurd hlt (by decide)
  | _ => exact hissued.elim

end Operation

namespace Undo

variable {e : Engine} {u : Undo}

/-- Compensations neither apply licenses nor take them back. -/
theorem licensing_apply (u : Undo) (e : Engine) :
    (u.apply e).registry.licensing = e.registry.licensing ∧
      (u.apply e).registry.licenses = e.registry.licenses := by
  cases u with
  | freeze dispute =>
    show (orElseKeep _ _ : Registry).licensing = _ ∧ (orElseKeep _ _ : Registry).licenses = _
    cases hback : e.registry.unfreeze dispute .aborted with
    | ok registry =>
      refine ⟨Registry.licensing_unfreeze hback, ?_⟩
      obtain ⟨-, -, rfl⟩ := Registry.unfreeze_eq_ok_iff.1 hback
      rfl
    | error err => exact ⟨rfl, rfl⟩
  | unfreeze dispute holder =>
    show (orElseKeep _ _ : Registry).licensing = _ ∧ (orElseKeep _ _ : Registry).licenses = _
    cases hback : e.registry.freeze dispute holder with
    | ok registry =>
      refine ⟨Registry.licensing_freeze hback, ?_⟩
      obtain ⟨-, -, rfl⟩ := Registry.freeze_eq_ok_iff.1 hback
      rfl
    | error err => exact ⟨rfl, rfl⟩
  | _ => exact ⟨rfl, rfl⟩

end Undo

theorem Session.licensing_rollback (s : Session) :
    s.rollback.registry.licensing = s.engine.registry.licensing ∧
      s.rollback.registry.licenses = s.engine.registry.licenses := by
  refine List.foldlRecOn (motive := fun e => e.registry.licensing = s.engine.registry.licensing ∧
    e.registry.licenses = s.engine.registry.licenses) s.journal Undo.apply ⟨rfl, rfl⟩ ?_
  intro e he u _
  obtain ⟨hcalls, hlicenses⟩ := u.licensing_apply e
  exact ⟨hcalls.trans he.1, hlicenses.trans he.2⟩

/-- What agrees with a sound engine is that engine restored. -/
theorem Agrees.restored {e e' : Engine} {op : Operation} (h : Agrees e op.issues e e')
    (hsound : e.Sound) (hscore : op.ScoreBelowFull e) : e.Restored e' where
  balance := h.balance
  records := congrArg _ h.store
  nextId := congrArg _ h.store
  encounters := congrArg _ h.store
  nonce := congrArg _ h.store
  score a := h.score a fun hissued => hscore.ne_full hissued
  frozen := h.frozen
  licenses := h.licenses
  log := h.log
  released id := by
    rcases h.released id with hsame | ⟨hid, haborted⟩
    · exact .inl hsame
    · exact .inr ⟨hid, hid ▸ hsound.get?_nextId, haborted⟩

/-- **Failure atomicity.** In every state of every clean run, an operation that fails and whose
compensations are all accepted leaves everything as it was, unless it filed for an account whose
score was full. The switches named by `Operation.Clear` are enough for all compensations to be
accepted. And whatever is refused, no operation fails once it has applied a fallback license. -/
theorem failed_operation_restores {start : Engine} {turns : List Turn} {op : Operation}
    {err : DisputeError} (h : CleanRun start turns)
    (hfailed : ((start.run turns).perform op).1 = .error err) :
    (op.Clear (start.run turns) → (start.run turns).takesBack op = true) ∧
      ((start.run turns).takesBack op = true → op.ScoreBelowFull (start.run turns) →
        (start.run turns).Restored ((start.run turns).perform op).2) ∧
      ((start.run turns).perform op).2.registry.licensing =
        (start.run turns).registry.licensing ∧
      ((start.run turns).perform op).2.registry.licenses =
        (start.run turns).registry.licenses := by
  have hsound := h.sound
  have hperform : (start.run turns).perform op =
      (.error err, ((start.run turns).perform op).2) := Prod.ext hfailed rfl
  obtain ⟨s, hstop, ⟨htrail, -⟩, hrollback⟩ := Engine.perform_error hsound.keyed hperform
  have htakesBack : (start.run turns).takesBack op = Undo.allAccepted s.engine s.journal := by
    simp only [Engine.takesBack, hstop]
  rw [← hrollback, htakesBack]
  -- the session in which the operation stopped agrees with itself, and is taken back from there
  refine ⟨fun hclear => ?_, fun haccepted hscore => ?_, ?_⟩
  · exact htrail.allAccepted hsound.holdsAssets (.refl _ _ _) (hclear.unobstructed hstop htrail)
  · exact (htrail.rollback hsound.holdsAssets (.refl _ _ _) haccepted).restored hsound hscore
  · -- up to the failure no effect was a license, and no compensation is one
    obtain ⟨-, -, hlicenses, hcalls⟩ := htrail.switches
    obtain ⟨hcalls', hlicenses'⟩ := s.licensing_rollback
    exact ⟨hcalls'.trans hcalls, hlicenses'.trans hlicenses⟩

/-- The start of a dispute in which Bob stays silent, with a registry that refuses licenses. -/
def Sample.unlicensed : List Turn :=
  silence ++ [.switch { registry := { applyFallback := true } }]

/-- An enforcement whose last call, the one for the license, is refused: the incentive, the stake,
the asset and the record are all taken back. -/
theorem enforcement_restored_without_license :
    CleanRun Sample.engine Sample.unlicensed ∧
      (Sample.engine.run Sample.unlicensed).Restored
        ((Sample.engine.run Sample.unlicensed).perform (.enforce Sample.bob .first)).2 := by
  have hclean : CleanRun Sample.engine Sample.unlicensed :=
    ⟨Sample.engine_fresh, by decide +kernel⟩
  have hfailed : ((Sample.engine.run Sample.unlicensed).perform
      (.enforce Sample.bob .first)).1 = .error (.registry (.refused .applyFallback)) := rfl
  obtain ⟨haccepted, hrestored, -⟩ := failed_operation_restores hclean hfailed
  exact ⟨hclean, hrestored (haccepted ⟨by decide +kernel, rfl⟩) trivial⟩

end Arbitration
