import Arbitration.Proofs.Moves
import Arbitration.Proofs.Parts

/-!
# Taking effects back

A failed operation leaves a journal, and the journal is worked off newest first by calls to the
parts, any of which may refuse. Three things are kept apart here.

* `Trail start issued journal e`: the journal **is** the list of effects that led from `start` to
  `e`, all of them taken back by compensations of a kind that the operation may issue.
* `Undo.allAccepted`: no part refuses while the journal is worked off. Switches of the parts that
  stay clear of the journal (`Undo.Unobstructed`) are enough for that: each transfer back is
  covered and in range, because it is the exact inverse of the last one.
* `Agrees start issued e e'`: `e'` is `e` as far as an operation can tell. Neither the count of
  transfers nor the list of registry calls is compared, and an aborted filing may leave its release
  under the next number. A score that was full is compared only if the operation does not count a
  filing of that account, since one more filing does not show in it.

`Trail.rollback` is the one induction: the last effect is taken back, what remains agrees with
the state before it.
-/

namespace Arbitration

/-! ### Refused compensations -/

namespace Undo

/-- Whether the part carries the call out that takes the effect back. -/
def isAccepted (e : Engine) : Undo → Bool
  | transfer source target amount => (e.ledger.transfer target source amount).isOk
  | freeze dispute => (e.registry.unfreeze dispute .aborted).isOk
  | unfreeze dispute holder => (e.registry.freeze dispute holder).isOk
  | harassment _ => true
  | record previous => (e.store.write { record := previous }).isOk

/-- Whether no call is refused while the effects are taken back in order. -/
def allAccepted (e : Engine) : List Undo → Bool
  | [] => true
  | u :: rest => u.isAccepted e && allAccepted (u.apply e) rest

/-- No switch of a part stands in the way of taking the effect back: the account that was debited
takes credits, and what is called on the registry is not made to fail. -/
def Unobstructed (e : Engine) : Undo → Prop
  | transfer source _ _ => e.ledger.refusedCredit ≠ some source
  | freeze _ => e.registry.faults.unfreeze = false
  | unfreeze _ _ => e.registry.faults.freeze = false
  | harassment _ => True
  | record _ => True

/-- Only the switches count. -/
theorem Unobstructed.of_switches {e e' : Engine} {u : Undo} (h : u.Unobstructed e)
    (hrefused : e'.ledger.refusedCredit = e.ledger.refusedCredit)
    (hfaults : e'.registry.faults = e.registry.faults) : u.Unobstructed e' := by
  cases u with
  | transfer source target amount => exact fun hc => h (hrefused.symm.trans hc)
  | freeze dispute => exact (congrArg _ hfaults).trans h
  | unfreeze dispute holder => exact (congrArg _ hfaults).trans h
  | harassment account => trivial
  | record previous => trivial

end Undo

/-! ### Trails -/

/-- What the engine looks like after an effect that a compensation takes back. `start` is the
engine before the operation: of each part but the ledger only the first effect is recorded. -/
inductive Reversible (start : Engine) : Engine → Undo → Engine → Prop
  | transfer {e : Engine} {source target : AccountId} {amount : Amount} {ledger : Ledger}
      (done : e.ledger.transfer source target amount = .ok ledger) :
      Reversible start e (.transfer source target amount) { e with ledger }
  | freeze {e : Engine} {holder : AccountId} {registry : Registry}
      (first : e.registry = start.registry)
      (done : start.registry.freeze start.store.nextId holder = .ok registry) :
      Reversible start e (.freeze start.store.nextId) { e with registry }
  | unfreeze {e : Engine} {id : DisputeId} {d : Dispute} {release : Release} {registry : Registry}
      (first : e.registry = start.registry) (known : start.store.get? id = some d)
      (done : start.registry.unfreeze id release = .ok registry) :
      Reversible start e (.unfreeze id d.initiator) { e with registry }
  | harassment {e : Engine} {account : AccountId} {treasury : Treasury}
      (first : e.treasury = start.treasury)
      (done : start.treasury.recordHarassment account = .ok treasury) :
      Reversible start e (.harassment account) { e with treasury }
  | record {e : Engine} {previous next : Dispute} {store : Store}
      (first : e.store = start.store) (known : start.store.get? next.id = some previous)
      (same : previous.id = next.id)
      (done : start.store.write { record := next } = .ok store) :
      Reversible start e (.record previous) { e with store }

/-- The effects that a journal, newest first, takes back. -/
inductive Trail (start : Engine) (issued : Undo → Prop) : List Undo → Engine → Prop
  | start : Trail start issued [] start
  | effect {journal : List Undo} {e e₁ : Engine} {u : Undo} (before : Trail start issued journal e)
      (may : issued u) (last : Reversible start e u e₁) : Trail start issued (u :: journal) e₁

/-- The assets of disputes are held by their initiators, and what is frozen is not released. -/
structure Engine.HoldsAssets (e : Engine) : Prop where
  holder : ∀ id d a, e.store.get? id = some d → e.registry.frozen.get? id = some a → a = d.initiator
  unreleased : ∀ id a, e.registry.frozen.get? id = some a → e.registry.released.get? id = none

/-! ### Agreement -/

/-- `e'` is `e` as far as an operation can tell. -/
structure Agrees (start : Engine) (issued : Undo → Prop) (e e' : Engine) : Prop where
  config : e'.config = e.config
  oracle : e'.oracle = e.oracle
  accounts : e'.accounts = e.accounts
  now : e'.now = e.now
  log : e'.log = e.log
  store : e'.store = e.store
  balance : ∀ a, e'.ledger.balance a = e.ledger.balance a
  refusedCredit : e'.ledger.refusedCredit = e.ledger.refusedCredit
  reserve : e'.treasury.reserve = e.treasury.reserve
  refuseUpdates : e'.treasury.refuseUpdates = e.treasury.refuseUpdates
  score : ∀ a, (issued (.harassment a) → start.treasury.score a ≠ Treasury.fullScore) →
    e'.treasury.score a = e.treasury.score a
  faults : e'.registry.faults = e.registry.faults
  licenses : e'.registry.licenses = e.registry.licenses
  frozen : ∀ id, e'.registry.frozen.get? id = e.registry.frozen.get? id
  released : ∀ id, e'.registry.released.get? id = e.registry.released.get? id ∨
    id = start.store.nextId ∧ e'.registry.released.get? id = some .aborted

theorem Agrees.refl (start : Engine) (issued : Undo → Prop) (e : Engine) :
    Agrees start issued e e :=
  ⟨rfl, rfl, rfl, rfl, rfl, rfl, fun _ => rfl, rfl, rfl, rfl, fun _ _ => rfl, rfl, rfl,
    fun _ => rfl, fun _ => .inl rfl⟩

section Rollback

variable {start e e₁ e' : Engine} {issued : Undo → Prop} {u : Undo} {journal : List Undo}

/-- Effects leave the switches and the licenses as they are. -/
theorem Reversible.switches (h : Reversible start e u e₁) :
    e₁.ledger.refusedCredit = e.ledger.refusedCredit ∧
      e₁.registry.faults = e.registry.faults ∧ e₁.registry.licenses = e.registry.licenses ∧
      e₁.registry.licensing = e.registry.licensing := by
  cases h with
  | transfer done => exact ⟨(Ledger.transferred_of_transfer done).refusedCredit, rfl, rfl, rfl⟩
  | freeze first done =>
    have hlicensing := Registry.licensing_freeze done
    obtain ⟨-, -, rfl⟩ := Registry.freeze_eq_ok_iff.1 done
    rw [first]
    exact ⟨rfl, rfl, rfl, hlicensing⟩
  | unfreeze first _ done =>
    have hlicensing := Registry.licensing_unfreeze done
    obtain ⟨-, -, rfl⟩ := Registry.unfreeze_eq_ok_iff.1 done
    rw [first]
    exact ⟨rfl, rfl, rfl, hlicensing⟩
  | harassment _ _ => exact ⟨rfl, rfl, rfl, rfl⟩
  | record _ _ _ _ => exact ⟨rfl, rfl, rfl, rfl⟩

theorem Trail.switches (h : Trail start issued journal e) :
    e.ledger.refusedCredit = start.ledger.refusedCredit ∧
      e.registry.faults = start.registry.faults ∧
      e.registry.licenses = start.registry.licenses ∧
      e.registry.licensing = start.registry.licensing := by
  induction h with
  | start => exact ⟨rfl, rfl, rfl, rfl⟩
  | effect _ _ last ih =>
    obtain ⟨hrefused, hfaults, hlicenses, hlicensing⟩ := last.switches
    exact ⟨hrefused.trans ih.1, hfaults.trans ih.2.1, hlicenses.trans ih.2.2.1,
      hlicensing.trans ih.2.2.2⟩

/-- A journal holds only what may be issued. -/
theorem Trail.mem_issued (h : Trail start issued journal e) : ∀ u ∈ journal, issued u := by
  induction h with
  | start => exact fun _ hu => absurd hu List.not_mem_nil
  | effect _ may _ ih =>
    intro u hu
    rcases List.mem_cons.1 hu with rfl | hu
    · exact may
    · exact ih u hu

/-! ### One effect -/

/-- The transfer back is covered by what the target was just given, and the source has room for
what was just taken from it. -/
theorem Reversible.isAccepted (h : Reversible start e u e₁) (hagree : Agrees start issued e₁ e')
    (hu : u.Unobstructed e') : u.isAccepted e' = true := by
  cases h with
  | @transfer source target amount ledger done =>
    have hdone := Ledger.transferred_of_transfer done
    have hsource := hdone.balance source
    have htarget := hdone.balance target
    have hcovered := hdone.covered
    have hlt := (e.ledger.balance source).toNat_lt
    rw [if_pos rfl] at hsource htarget
    refine isOk_iff.2 (Ledger.exists_transfer hu ?_ fun hne => ?_)
    · -- the target holds at least what it was given
      rw [hagree.balance]
      show amount.toNat ≤ (ledger.balance target).toNat
      split at htarget
      · rename_i hself
        subst hself
        omega
      · omega
    · -- with the amount back the source holds what it held before
      rw [hagree.balance]
      show (ledger.balance source).toNat + amount.toNat < _
      rw [if_neg hne] at hsource
      omega
  | @freeze holder _ _ done =>
    obtain ⟨-, -, rfl⟩ := Registry.freeze_eq_ok_iff.1 done
    refine isOk_iff.2 ⟨_, Registry.unfreeze_eq_ok_iff.2 ⟨hu, ⟨holder, ?_⟩, rfl⟩⟩
    rw [hagree.frozen]
    exact Table.get?_insert_self ..
  | unfreeze _ _ done =>
    obtain ⟨-, -, rfl⟩ := Registry.unfreeze_eq_ok_iff.1 done
    refine isOk_iff.2 ⟨_, Registry.freeze_eq_ok_iff.2 ⟨hu, ?_, rfl⟩⟩
    rw [hagree.frozen]
    exact Table.get?_erase_self ..
  | harassment _ _ => rfl
  | record _ known same done =>
    refine isOk_iff.2 ⟨start.store, ?_⟩
    rw [hagree.store]
    exact Store.write_back known same done

/-- The transfer back undoes the transfer, also where source and target coincide. -/
theorem Agrees.transfer_back {source target : AccountId} {amount : Amount}
    {ledger ledger' : Ledger} (hagree : Agrees start issued { e with ledger } e')
    (done : e.ledger.transfer source target amount = .ok ledger)
    (hback : e'.ledger.transfer target source amount = .ok ledger') :
    Agrees start issued e { e' with ledger := ledger' } := by
  have hdone := Ledger.transferred_of_transfer done
  have hundone := Ledger.transferred_of_transfer hback
  refine { hagree with balance := fun a => ?_, refusedCredit := ?_ }
  · have hfirst := hdone.balance a
    have hsecond := hundone.balance a
    rw [hagree.balance] at hsecond
    change (ledger'.balance a).toNat + _ = (ledger.balance a).toNat + _ at hsecond
    have heq : (ledger'.balance a).toNat = (e.ledger.balance a).toNat := by omega
    exact Amount.toNat_inj.1 heq
  · exact hundone.refusedCredit.trans (hagree.refusedCredit.trans hdone.refusedCredit)

/-- Releasing as aborted undoes a freeze, but for the release itself. -/
theorem Agrees.unfreeze_back {holder : AccountId} {registry registry' : Registry}
    (hagree : Agrees start issued { e with registry } e') (first : e.registry = start.registry)
    (done : start.registry.freeze start.store.nextId holder = .ok registry)
    (hback : e'.registry.unfreeze start.store.nextId .aborted = .ok registry') :
    Agrees start issued e { e' with registry := registry' } := by
  obtain ⟨-, hnone, rfl⟩ := Registry.freeze_eq_ok_iff.1 done
  obtain ⟨-, -, rfl⟩ := Registry.unfreeze_eq_ok_iff.1 hback
  refine { hagree with
    faults := by rw [first]; exact hagree.faults
    licenses := by rw [first]; exact hagree.licenses
    frozen := fun id => ?_
    released := fun id => ?_ }
  · have hfrozen := hagree.frozen id
    simp only [Table.get?_insert] at hfrozen
    simp only [Table.get?_erase, first]
    split
    · -- nothing was frozen under the number of the new dispute
      rename_i hid
      rw [← hid, hnone]
    · rename_i hid
      rw [hfrozen, if_neg hid]
  · have hreleased := hagree.released id
    simp only [Table.get?_erase] at hreleased
    simp only [Table.get?_insert, first]
    by_cases hid : start.store.nextId = id
    · exact .inr ⟨hid.symm, by rw [if_pos hid]⟩
    · simpa only [if_neg hid] using hreleased

/-- Freezing for the initiator undoes a release. -/
theorem Agrees.freeze_back {dispute : DisputeId} {d : Dispute} {release : Release}
    {registry registry' : Registry} (hassets : start.HoldsAssets)
    (hagree : Agrees start issued { e with registry } e') (first : e.registry = start.registry)
    (known : start.store.get? dispute = some d)
    (done : start.registry.unfreeze dispute release = .ok registry)
    (hback : e'.registry.freeze dispute d.initiator = .ok registry') :
    Agrees start issued e { e' with registry := registry' } := by
  obtain ⟨-, ⟨holder, hholder⟩, rfl⟩ := Registry.unfreeze_eq_ok_iff.1 done
  obtain ⟨-, -, rfl⟩ := Registry.freeze_eq_ok_iff.1 hback
  refine { hagree with
    faults := by rw [first]; exact hagree.faults
    licenses := by rw [first]; exact hagree.licenses
    frozen := fun id => ?_
    released := fun id => ?_ }
  · have hfrozen := hagree.frozen id
    simp only [Table.get?_erase] at hfrozen
    simp only [Table.get?_insert, first]
    split
    · -- the asset was held by the initiator, to whom it goes back
      rename_i hid
      rw [← hid, hholder, hassets.holder _ _ _ known hholder]
    · rename_i hid
      rw [hfrozen, if_neg hid]
  · have hreleased := hagree.released id
    simp only [Table.get?_insert] at hreleased
    simp only [Table.get?_erase, first]
    by_cases hid : dispute = id
    · exact .inl (by rw [if_pos hid, ← hid, hassets.unreleased _ _ hholder])
    · simpa only [if_neg hid] using hreleased

/-- Counting down undoes a count, in every score that is compared. -/
theorem Agrees.count_back {account : AccountId} {treasury : Treasury}
    (hagree : Agrees start issued { e with treasury } e') (hmay : issued (.harassment account))
    (first : e.treasury = start.treasury)
    (done : start.treasury.recordHarassment account = .ok treasury) :
    Agrees start issued e { e' with treasury := e'.treasury.revertHarassment account } := by
  obtain ⟨hreserve, hupdates⟩ := Treasury.recordHarassment_frame done
  obtain ⟨hreserve', hupdates'⟩ := Treasury.revertHarassment_frame e'.treasury account
  refine { hagree with
    reserve := hreserve'.trans (hagree.reserve.trans (by rw [first]; exact hreserve))
    refuseUpdates := hupdates'.trans (hagree.refuseUpdates.trans (by rw [first]; exact hupdates))
    score := fun a hfull => ?_ }
  have hscore : e'.treasury.score a = treasury.score a := hagree.score a hfull
  show (e'.treasury.revertHarassment account).score a = e.treasury.score a
  rw [Treasury.score_revertHarassment, first]
  split
  · rename_i ha
    subst ha
    rw [hscore]
    exact Treasury.score_revert_record done (hfull hmay)
  · rename_i ha
    rw [hscore, Treasury.score_recordHarassment done, if_neg ha]

/-- Writing the earlier record undoes a write. -/
theorem Agrees.write_back {previous next : Dispute} {store store' : Store}
    (hagree : Agrees start issued { e with store } e') (first : e.store = start.store)
    (known : start.store.get? next.id = some previous) (same : previous.id = next.id)
    (done : start.store.write { record := next } = .ok store)
    (hback : e'.store.write { record := previous } = .ok store') :
    Agrees start issued e { e' with store := store' } := by
  have hstore : e'.store = store := hagree.store
  rw [hstore, Store.write_back known same done] at hback
  cases hback
  exact { hagree with store := first.symm }

/-- Taking the last effect back gives the state before it. -/
theorem Reversible.takeBack (h : Reversible start e u e₁) (hassets : start.HoldsAssets)
    (hmay : issued u) (hagree : Agrees start issued e₁ e') (hu : u.isAccepted e' = true) :
    Agrees start issued e (u.apply e') := by
  cases h with
  | transfer done =>
    obtain ⟨ledger', hback⟩ := isOk_iff.1 hu
    simp only [Undo.apply, hback, orElseKeep]
    exact hagree.transfer_back done hback
  | freeze first done =>
    obtain ⟨registry', hback⟩ := isOk_iff.1 hu
    simp only [Undo.apply, hback, orElseKeep]
    exact hagree.unfreeze_back first done hback
  | unfreeze first known done =>
    obtain ⟨registry', hback⟩ := isOk_iff.1 hu
    simp only [Undo.apply, hback, orElseKeep]
    exact hagree.freeze_back hassets first known done hback
  | harassment first done => exact hagree.count_back hmay first done
  | record first known same done =>
    obtain ⟨store', hback⟩ := isOk_iff.1 hu
    simp only [Undo.apply, hback, orElseKeep]
    exact hagree.write_back first known same done hback

/-! ### Whole journals -/

/-- **Rollback.** If no compensation is refused, working the journal off gives the state that
the operation started from. -/
theorem Trail.rollback (h : Trail start issued journal e) (hassets : start.HoldsAssets)
    (hagree : Agrees start issued e e') (hu : Undo.allAccepted e' journal = true) :
    Agrees start issued start (journal.foldl Undo.apply e') := by
  -- along the trail, for every state that agrees with its end
  induction h generalizing e' with
  | start => exact hagree
  | effect _ may last ih =>
    obtain ⟨hfirst, hrest⟩ := Bool.and_eq_true_iff.1 hu
    exact ih (last.takeBack hassets may hagree hfirst) hrest

/-- Switches that stay clear of the journal let no compensation be refused. -/
theorem Trail.allAccepted (h : Trail start issued journal e) (hassets : start.HoldsAssets)
    (hagree : Agrees start issued e e') (hu : ∀ u ∈ journal, u.Unobstructed start) :
    Undo.allAccepted e' journal = true := by
  induction h generalizing e' with
  | start => rfl
  | @effect journal e₀ e₁ u before may last ih =>
    have hclear : u.Unobstructed e' := by
      obtain ⟨hrefused, hfaults, -, -⟩ := (Trail.effect before may last).switches
      exact (hu u List.mem_cons_self).of_switches (hagree.refusedCredit.trans hrefused)
        (hagree.faults.trans hfaults)
    have hfirst := last.isAccepted hagree hclear
    exact Bool.and_eq_true_iff.2 ⟨hfirst, ih (last.takeBack hassets may hagree hfirst)
      fun v hv => hu v (List.mem_cons_of_mem u hv)⟩

/-! ### Whatever is refused

The records come back even where other compensations are refused, what no effect touches stays as
it is, and no part touches an asset that is not named in the journal. -/

/-- Taking a write back is never refused, and nothing else touches the records. -/
theorem Reversible.store_apply (h : Reversible start e u e₁) (hstore : e'.store = e₁.store) :
    (u.apply e').store = e.store := by
  cases h with
  | record first known same done =>
    show orElseKeep e'.store (e'.store.write _) = e.store
    rw [hstore, Store.write_back known same done, orElseKeep, first]
  | _ => exact hstore

theorem Trail.store_rollback (h : Trail start issued journal e) (hstore : e'.store = e.store) :
    (journal.foldl Undo.apply e').store = start.store := by
  induction h generalizing e' with
  | start => exact hstore
  | effect _ _ last ih => exact ih (last.store_apply hstore)

/-- The configuration, the oracle, the protocol's accounts, the clock, the reserve's account and
the log are the same. -/
structure Engine.Aligned (e e' : Engine) : Prop where
  config : e'.config = e.config
  oracle : e'.oracle = e.oracle
  accounts : e'.accounts = e.accounts
  now : e'.now = e.now
  reserve : e'.treasury.reserve = e.treasury.reserve
  log : e'.log = e.log

theorem Engine.Aligned.refl (e : Engine) : e.Aligned e := ⟨rfl, rfl, rfl, rfl, rfl, rfl⟩

theorem Engine.Aligned.trans {e e' e'' : Engine} (h : e.Aligned e') (h' : e'.Aligned e'') :
    e.Aligned e'' :=
  ⟨h'.config.trans h.config, h'.oracle.trans h.oracle, h'.accounts.trans h.accounts,
    h'.now.trans h.now, h'.reserve.trans h.reserve, h'.log.trans h.log⟩

/-- Effects that are taken back later touch neither these, -/
theorem Reversible.aligned (h : Reversible start e u e₁) : e.Aligned e₁ := by
  cases h with
  | harassment first done =>
    refine { Engine.Aligned.refl e with reserve := ?_ }
    rw [first]
    exact (Treasury.recordHarassment_frame done).1
  | _ => exact ⟨rfl, rfl, rfl, rfl, rfl, rfl⟩

/-- nor does what takes them back. -/
theorem Undo.aligned_apply (u : Undo) (e : Engine) : e.Aligned (u.apply e) := by
  cases u with
  | harassment account =>
    exact { Engine.Aligned.refl e with
      reserve := (Treasury.revertHarassment_frame e.treasury account).1 }
  | _ => exact ⟨rfl, rfl, rfl, rfl, rfl, rfl⟩

theorem Trail.aligned_rollback (h : Trail start issued journal e) :
    start.Aligned (journal.foldl Undo.apply e) := by
  have hthere : start.Aligned e := by
    induction h with
    | start => exact .refl _
    | effect _ _ last ih => exact ih.trans last.aligned
  refine List.foldlRecOn (motive := fun e' => start.Aligned e') journal Undo.apply hthere ?_
  exact fun e' haligned u _ => haligned.trans (u.aligned_apply e')

/-- The number under which an asset is frozen or released. -/
def Undo.asset : Undo → Option DisputeId
  | freeze id | unfreeze id _ => some id
  | transfer _ _ _ | harassment _ | record _ => none

/-- Only the next number is frozen. -/
theorem Trail.eq_nextId_of_freeze (h : Trail start issued journal e) {id : DisputeId}
    (hmem : .freeze id ∈ journal) : id = start.store.nextId := by
  induction h with
  | start => exact absurd hmem List.not_mem_nil
  | effect _ _ last ih =>
    rcases List.mem_cons.1 hmem with rfl | hmem
    · cases last with
      | freeze first done => rfl
    · exact ih hmem

section Elsewhere

variable {id : DisputeId}

theorem Reversible.sameAt (h : Reversible start e u e₁) (hu : u.asset ≠ some id) :
    e.registry.SameAt e₁.registry id := by
  cases h with
  | freeze first done =>
    rw [first]
    exact Registry.sameAt_freeze (fun hid => hu (congrArg some hid)) done
  | unfreeze first known done =>
    rw [first]
    exact Registry.sameAt_unfreeze (fun hid => hu (congrArg some hid)) done
  | _ => exact .refl _ _

theorem Undo.sameAt_apply (hu : u.asset ≠ some id) (e : Engine) :
    e.registry.SameAt (u.apply e).registry id := by
  cases u with
  | freeze other =>
    show e.registry.SameAt (orElseKeep e.registry (e.registry.unfreeze other .aborted)) id
    cases hback : e.registry.unfreeze other .aborted with
    | ok registry => exact Registry.sameAt_unfreeze (fun hid => hu (congrArg some hid)) hback
    | error err => exact .refl _ _
  | unfreeze other holder =>
    show e.registry.SameAt (orElseKeep e.registry (e.registry.freeze other holder)) id
    cases hback : e.registry.freeze other holder with
    | ok registry => exact Registry.sameAt_freeze (fun hid => hu (congrArg some hid)) hback
    | error err => exact .refl _ _
  | _ => exact .refl _ _

/-- **No other asset is touched**, neither on the way there nor on the way back. -/
theorem Trail.sameAt_rollback (h : Trail start issued journal e)
    (hjournal : ∀ u ∈ journal, u.asset ≠ some id) :
    start.registry.SameAt (journal.foldl Undo.apply e).registry id := by
  have hthere : start.registry.SameAt e.registry id := by
    induction h with
    | start => exact .refl _ _
    | effect _ _ last ih =>
      obtain ⟨hlast, hbefore⟩ := List.forall_mem_cons.1 hjournal
      exact (ih hbefore).trans (last.sameAt hlast)
  refine List.foldlRecOn (motive := fun e' => start.registry.SameAt e'.registry id) journal
    Undo.apply hthere ?_
  exact fun e' hsame u hu => hsame.trans (Undo.sameAt_apply (hjournal u hu) e')

end Elsewhere

end Rollback

end Arbitration
