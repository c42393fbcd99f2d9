import Arbitration.Proofs.Outcomes
import Arbitration.Proofs.Pots
import Arbitration.Proofs.Runs

/-!
# The invariant

`Engine.Sound` is what holds in every state of a clean run: every record is in order
(`Dispute.Sound`), the registry and the records agree, and the pots hold what they should.

An operation writes **one** record, so the invariant is kept by local means: `Advance` says what
has to be known about that record, about the entry of the registry under its number and about the
moves, and `Sound.having` derives the invariant for the whole engine. A failed operation keeps it
because the engine afterwards agrees with the engine before.
-/

namespace Arbitration

/-! ### Records in order -/

namespace Dispute

/-- The deadline that applies: to the counterparty's stake until it is posted, and to the
resolution from then on. -/
def deadline (d : Dispute) (config : Config) : Except ArithmeticError Timestamp :=
  if d.fullyStaked then d.resolutionDeadline config else d.stakeDeadline config

/-- The deadline is the resolution deadline where both have staked. -/
theorem deadline_of_staked {d : Dispute} {config : Config} (h : d.fullyStaked = true) :
    d.deadline config = d.resolutionDeadline config := by
  rw [deadline, if_pos h]

/-- And the stake deadline where they have not. -/
theorem deadline_of_unstaked {d : Dispute} {config : Config} (h : d.fullyStaked = false) :
    d.deadline config = d.stakeDeadline config := by
  rw [deadline, if_neg (Bool.eq_false_iff.1 h)]

/-- A record in order. -/
structure Sound (config : Config) (d : Dispute) : Prop where
  distinct : d.counterparty ≠ d.initiator
  initiator : d.initiator.isSystem = false
  counterparty : d.counterparty.isSystem = false
  staked : d.initiatorStake.isZero = false
  matched : d.fullyStaked = true → d.counterpartyStake = d.initiatorStake
  subsidised : d.subsidy.toNat ≤ d.initiatorStake.toNat
  earmarked : config.reservePolicy = .sharedFirstCome → d.earmarkedIncentive = .zero
  proposed : d.proposal.isSome = true → d.fullyStaked = true
  undecided : d.resolved = false → d.bothAccepted = false
  dated : d.resolved = false → ∃ t, d.deadline config = .ok t
  based : d.baseStake.isZero = false
  raised : d.baseStake.toNat ≤ d.initiatorStake.toNat
  setAside : d.earmarkedIncentive = .zero ∨
    Policy.incentiveAmount d.initiatorStake config.incentiveBps = .ok d.earmarkedIncentive
  countered : d.counterCount ≠ 0 → d.fullyStaked = true
  accepted : ∀ p, d.hasAccepted p = true → d.proposal.isSome = true
  begun : d.resolved = false →
    d.outcome = .pending ∧ d.settlement = none ∧ d.resolvedAt = none ∧ d.pendingRelease = none
  ended : d.resolved = true →
    d.resolvedAt.isSome = true ∧ (d.bothAccepted = true ↔ d.outcome = .acceptedProposal) ∧
      ∃ s, d.settlement = some s ∧
        Policy.Payout config d.initiatorStake d.counterpartyStake d.earmarkedIncentive d.outcome s

/-- No license applies to the asset of an open dispute. -/
theorem Sound.license_eq_none {config : Config} {d : Dispute} (h : d.Sound config)
    (hopen : d.resolved = false) : d.license = none :=
  license_of_pending (h.begun hopen).1

end Dispute

namespace Engine

/-! ### The registry and the records -/

/-- The registry's entries go with the records: only disputes are frozen or licensed, their entries
fit them, and what is frozen is not released. -/
structure Registered (e : Engine) : Prop where
  unknown : ∀ id, e.store.get? id = none →
    e.registry.frozen.get? id = none ∧ e.registry.licenses.get? id = none
  fits : ∀ id d, e.store.get? id = some d → e.registry.Fits id d
  unreleased : ∀ id a, e.registry.frozen.get? id = some a → e.registry.released.get? id = none

/-- What holds in every state of a clean run. -/
structure Sound (e : Engine) : Prop where
  valid : e.config.validate = .ok ()
  standard : e.Standard
  keyed : e.store.Keyed
  distinct : e.store.Distinct
  numbered : ∀ id d, e.store.get? id = some d → id.toNat < e.store.nextId.toNat
  records : ∀ id d, e.store.get? id = some d → d.Sound e.config
  registered : e.Registered
  custody : e.Custody

/-- What is frozen is held by the initiator of a dispute. -/
theorem Registered.holder {e : Engine} (h : e.Registered) (id : DisputeId) (a : AccountId)
    (hfrozen : e.registry.frozen.get? id = some a) :
    ∃ d, e.store.get? id = some d ∧ d.initiator = a := by
  cases hget : e.store.get? id with
  | none =>
    rw [(h.unknown id hget).1] at hfrozen
    cases hfrozen
  | some d =>
    rw [(h.fits id d hget).held] at hfrozen
    split at hfrozen
    · exact ⟨d, rfl, Option.some.inj hfrozen⟩
    · cases hfrozen

/-- The asset of an open dispute is held. -/
theorem Registered.held {e : Engine} (h : e.Registered) (id : DisputeId) (d : Dispute)
    (hget : e.store.get? id = some d) (hopen : d.resolved = false) :
    e.registry.frozen.get? id = some d.initiator := by
  rw [(h.fits id d hget).held, if_pos (Dispute.holdsAsset_of_open hopen)]

/-- No license applies to the asset of an open dispute. -/
theorem Sound.unlicensed {e : Engine} {id : DisputeId} {d : Dispute} (h : e.Sound)
    (hget : e.store.get? id = some d) (hopen : d.resolved = false) :
    e.registry.licenses.get? id = none :=
  (h.registered.fits id d hget).licensed.trans ((h.records id d hget).license_eq_none hopen)

theorem Sound.holdsAssets {e : Engine} (h : e.Sound) : e.HoldsAssets where
  holder id d a hget hfrozen := by
    obtain ⟨d', hget', ha⟩ := h.registered.holder id a hfrozen
    rw [hget] at hget'
    cases hget'
    exact ha.symm
  unreleased := h.registered.unreleased

/-- The next number is free. -/
theorem Sound.get?_nextId {e : Engine} (h : e.Sound) : e.store.get? e.store.nextId = none := by
  cases hget : e.store.get? e.store.nextId with
  | none => rfl
  | some d => exact absurd (h.numbered _ d hget) (Nat.lt_irrefl _)

/-! ### At the start -/

theorem Fresh.sound {e : Engine} (h : e.Fresh) : e.Sound := by
  obtain ⟨hvalid, haccounts, hregistry, htreasury, hstore, -⟩ := h.parts
  -- there are no records to speak of, and nothing is frozen
  have hget : ∀ id, e.store.get? id = none := by
    rw [hstore]
    exact fun _ => rfl
  have hfrozen : ∀ id, e.registry.frozen.get? id = none := by
    rw [hregistry]
    exact fun _ => rfl
  exact {
    valid := hvalid
    standard := ⟨haccounts, by rw [htreasury]⟩
    keyed := fun id d h => by rw [hget] at h; cases h
    distinct := by rw [hstore]; exact List.nodup_nil
    numbered := fun id d h => by rw [hget] at h; cases h
    records := fun id d h => by rw [hget] at h; cases h
    registered := {
      unknown := fun id _ => ⟨hfrozen id, by rw [hregistry]; rfl⟩
      fits := fun id d h => by rw [hget] at h; cases h
      unreleased := fun id a h => by rw [hfrozen] at h; cases h }
    custody := fun p => by
      rw [hstore]
      cases p with
      | escrow => exact congrArg Amount.toNat h.escrow
      | defenseFund => exact congrArg Amount.toNat h.defenseFund
      | incentiveEarmark => exact congrArg Amount.toNat h.incentiveEarmark }

/-! ### Clock and switches -/

theorem Sound.setClock {e : Engine} (h : e.Sound) (now : Timestamp) : (e.setClock now).Sound :=
  ⟨h.valid, ⟨h.standard.accounts, h.standard.reserve⟩, h.keyed, h.distinct, h.numbered, h.records,
    ⟨h.registered.unknown, h.registered.fits, h.registered.unreleased⟩, h.custody⟩

theorem Sound.setSwitches {e : Engine} (h : e.Sound) (s : Switches) : (e.setSwitches s).Sound :=
  ⟨h.valid, ⟨h.standard.accounts, h.standard.reserve⟩, h.keyed, h.distinct, h.numbered, h.records,
    ⟨h.registered.unknown, fun id d hget => (h.registered.fits id d hget).of_same rfl rfl rfl,
      h.registered.unreleased⟩, h.custody⟩

/-! ### A failed operation -/

/-- Nothing is frozen under the next number. -/
theorem Sound.frozen_nextId {e : Engine} (h : e.Sound) :
    e.registry.frozen.get? e.store.nextId = none :=
  (h.registered.unknown _ h.get?_nextId).1

theorem Sound.registered_of_agrees {e e' : Engine} {issued : Undo → Prop} (h : e.Sound)
    (hagree : Agrees e issued e e') : e'.Registered where
  unknown id hget := by
    rw [hagree.store] at hget
    rw [hagree.frozen, hagree.licenses]
    exact h.registered.unknown id hget
  fits id d hget := by
    rw [hagree.store] at hget
    -- the release of an aborted filing is under a number without a record
    have hreleased : e'.registry.released.get? id = e.registry.released.get? id := by
      rcases hagree.released id with hsame | ⟨rfl, -⟩
      · exact hsame
      · rw [h.get?_nextId] at hget
        cases hget
    exact (h.registered.fits id d hget).of_same (hagree.frozen id) hreleased
      (congrArg (Table.get? · id) hagree.licenses)
  unreleased id a hfrozen := by
    rw [hagree.frozen] at hfrozen
    rcases hagree.released id with hsame | ⟨hid, -⟩
    · rw [hsame]
      exact h.registered.unreleased id a hfrozen
    · rw [hid, h.frozen_nextId] at hfrozen
      cases hfrozen

/-- What agrees with a sound engine is sound. -/
theorem Sound.of_agrees {e e' : Engine} {issued : Undo → Prop} (h : e.Sound)
    (hagree : Agrees e issued e e') : e'.Sound where
  valid := hagree.config ▸ h.valid
  standard := ⟨hagree.accounts ▸ h.standard.accounts, hagree.reserve ▸ h.standard.reserve⟩
  keyed := hagree.store ▸ h.keyed
  distinct := hagree.store ▸ h.distinct
  numbered := hagree.store ▸ h.numbered
  records := by
    rw [hagree.store, hagree.config]
    exact h.records
  registered := h.registered_of_agrees hagree
  custody p := by
    rw [hagree.balance, hagree.accounts, hagree.store]
    exact h.custody p

/-- A failed operation leaves what it found, if all its effects were taken back. -/
theorem Sound.agrees_of_error {e e' : Engine} {op : Operation} {err : DisputeError} (h : e.Sound)
    (hclean : e.takesBack op = true) (hfailed : e.perform op = (.error err, e')) :
    Agrees e op.issues e e' := by
  obtain ⟨s, hstop, ⟨htrail, -⟩, rfl⟩ := Engine.perform_error h.keyed hfailed
  simp only [takesBack, hstop] at hclean
  exact htrail.rollback h.holdsAssets (.refl _ _ _) hclean

/-- So it leaves a sound engine. -/
theorem Sound.perform_error {e e' : Engine} {op : Operation} {err : DisputeError} (h : e.Sound)
    (hclean : e.takesBack op = true) (hfailed : e.perform op = (.error err, e')) : e'.Sound :=
  h.of_agrees (h.agrees_of_error hclean hfailed)

/-! ### A successful operation -/

end Engine

/-- The entry of a registry under the number of a record fits the record, and all other entries
are as they were. -/
structure Registry.Advances (r r' : Registry) (next : Dispute) : Prop where
  elsewhere : ∀ id, next.id ≠ id → r'.frozen.get? id = r.frozen.get? id ∧
    r'.released.get? id = r.released.get? id ∧ r'.licenses.get? id = r.licenses.get? id
  fits : r'.Fits next.id next
  unreleased : ∀ a, r'.frozen.get? next.id = some a → r'.released.get? next.id = none

namespace Engine

/-- One record, and everything else that belongs to it, goes a step further. -/
structure Advance (e : Engine) (f : Footprint) (w : StoreWrite) : Prop where
  written : e.store.write w = .ok f.store
  record : w.record.Sound e.config
  reserve : f.treasury.reserve = e.treasury.reserve
  registry : e.registry.Advances f.registry w.record
  balanced : Balanced e f.moves w.record

-- Each field is shown for the one number written under and, from the field itself, for all others.
theorem Registered.having {e : Engine} {f : Footprint} {ledger : Ledger} {w : StoreWrite}
    (h : e.Registered) (hwritten : e.store.write w = .ok f.store)
    (hregistry : e.registry.Advances f.registry w.record) : (e.having f ledger).Registered where
  unknown id hget := by
    change f.store.get? id = none at hget
    show f.registry.frozen.get? id = none ∧ f.registry.licenses.get? id = none
    rw [Store.get?_of_write hwritten] at hget
    by_cases hid : w.record.id = id
    · rw [if_pos hid] at hget
      cases hget
    · rw [if_neg hid] at hget
      obtain ⟨hfrozen, -, hlicenses⟩ := hregistry.elsewhere id hid
      rw [hfrozen, hlicenses]
      exact h.unknown id hget
  fits id d hget := by
    change f.store.get? id = some d at hget
    show f.registry.Fits id d
    rw [Store.get?_of_write hwritten] at hget
    by_cases hid : w.record.id = id
    · subst hid
      rw [if_pos rfl] at hget
      cases hget
      exact hregistry.fits
    · rw [if_neg hid] at hget
      obtain ⟨hfrozen, hreleased, hlicenses⟩ := hregistry.elsewhere id hid
      exact (h.fits id d hget).of_same hfrozen hreleased hlicenses
  unreleased id a hfrozen := by
    change f.registry.frozen.get? id = some a at hfrozen
    show f.registry.released.get? id = none
    by_cases hid : w.record.id = id
    · subst hid
      exact hregistry.unreleased a hfrozen
    · rw [(hregistry.elsewhere id hid).1] at hfrozen
      rw [(hregistry.elsewhere id hid).2.1]
      exact h.unreleased id a hfrozen

/-- **One step.** The invariant goes on if one record advances. -/
theorem Sound.having {e : Engine} {f : Footprint} {ledger : Ledger} {w : StoreWrite}
    (h : e.Sound) (hmoves : e.ledger.Moves f.moves ledger) (hstep : e.Advance f w) :
    (e.having f ledger).Sound where
  valid := h.valid
  standard := ⟨h.standard.accounts, hstep.reserve.trans h.standard.reserve⟩
  keyed := Store.keyed_of_write h.keyed hstep.written
  distinct := Store.distinct_of_write h.distinct hstep.written
  numbered id d hget := by
    change f.store.get? id = some d at hget
    show id.toNat < f.store.nextId.toNat
    rw [Store.get?_of_write hstep.written] at hget
    rcases (Store.write_eq_ok_iff.1 hstep.written).2 with
      ⟨previous, hprevious, hstore⟩ | ⟨-, hid, next, hnext, hstore⟩
    · -- a record is replaced, and the next number stays
      rw [← hstore]
      show id.toNat < e.store.nextId.toNat
      split at hget
      · rename_i hid
        subst hid
        exact h.numbered _ previous hprevious
      · exact h.numbered id d hget
    · -- a record is added, and the next number goes up by one
      have hsucc := DisputeId.next_eq_ok_iff.1 hnext
      rw [← hstore]
      show id.toNat < next.toNat
      split at hget
      · rename_i hsame
        rw [← hsame, hid]
        omega
      · have := h.numbered id d hget
        omega
  records := Store.forall_get?_of_write hstep.written hstep.record h.records
  registered := h.registered.having hstep.written hstep.registry
  custody := h.custody.having hmoves hstep.written hstep.balanced

end Engine

end Arbitration
