import Arbitration.Proofs.Finality

/-!
# What every record says

Every number below the next one has its record, and every record is in order: who the parties are,
what they staked, how far they have come, and, once the dispute is over, how it ended and what was
paid for it. `records_in_order` says so of every state of every clean run.

The registry keeps entries of its own, which a resolution writes in another step than the record
and which a failed operation takes back on their own. `registry_agrees_with_records` says that the
two never disagree: an asset is held for as long as its record says, and then it was released on
the terms that the outcome calls for.
-/

namespace Arbitration

/-! ### Numbers -/

namespace Store

variable {s s' : Store} {w : StoreWrite}

/-- The records are numbered without a gap, in the order in which they came. -/
structure Numbered (s : Store) : Prop where
  numbers : s.records.keys.map DisputeId.toNat = List.range' 1 s.count
  next : s.nextId.toNat = s.count + 1

/-- A write replaces a record or appends the next one, so there is never a gap. -/
theorem numbered_of_write (h : s.Numbered) (hw : s.write w = .ok s') : s'.Numbered := by
  obtain ⟨-, ⟨previous, hprevious, rfl⟩ | ⟨hnone, hid, next, hnext, rfl⟩⟩ := write_eq_ok_iff.1 hw
  · have hmem : w.record.id ∈ s.records.keys := Table.mem_keys_iff.2 ⟨previous, hprevious⟩
    refine ⟨?_, h.next⟩
    show (s.records.insert w.record.id w.record).keys.map DisputeId.toNat = List.range' 1 s.count
    rw [Table.keys_insert, if_pos hmem]
    exact h.numbers
  · have hnot : w.record.id ∉ s.records.keys := by
      rw [Table.mem_keys_iff, not_exists]
      intro previous hprevious
      rw [show s.records.get? w.record.id = none from hnone] at hprevious
      cases hprevious
    have hcount : (s.put w next).count = s.count + 1 := by
      show next.toNat - DisputeId.first.toNat = s.count + 1
      rw [DisputeId.next_eq_ok_iff.1 hnext, h.next]
      rfl
    refine ⟨?_, ?_⟩
    · show (s.records.insert w.record.id w.record).keys.map DisputeId.toNat =
        List.range' 1 (s.put w next).count
      rw [Table.keys_insert, if_neg hnot, List.map_append, h.numbers, hid, hcount,
        List.range'_1_concat, List.map_singleton, h.next, Nat.add_comm 1 s.count]
    · show next.toNat = _
      rw [DisputeId.next_eq_ok_iff.1 hnext, h.next, hcount]

/-- The numbers in use are those from one up to the next one. -/
theorem Numbered.exists_get?_iff (h : s.Numbered) {id : DisputeId} :
    (∃ d, s.get? id = some d) ↔ 1 ≤ id.toNat ∧ id.toNat < s.nextId.toNat := by
  have hmem : id ∈ s.records.keys ↔ id.toNat ∈ s.records.keys.map DisputeId.toNat := by
    constructor
    · exact List.mem_map_of_mem
    · intro hid
      obtain ⟨id', hid', hsame⟩ := List.mem_map.1 hid
      exact DisputeId.toNat_inj.1 hsame ▸ hid'
  rw [h.next, Nat.add_comm, ← List.mem_range'_1, ← h.numbers, ← hmem]
  exact Table.mem_keys_iff.symm

/-- There are as many records as numbers were given out. -/
theorem Numbered.size_eq (h : s.Numbered) : s.records.size = s.count := by
  have hlength := congrArg List.length h.numbers
  rwa [List.length_map, List.length_range', Table.keys, List.length_map] at hlength

end Store

theorem Engine.Fresh.numbered {e : Engine} (h : e.Fresh) : e.store.Numbered := by
  obtain ⟨-, -, -, -, hstore, -⟩ := h.parts
  rw [hstore]
  exact ⟨rfl, rfl⟩

/-- In every state of a clean run the records are numbered without a gap. -/
theorem CleanRun.numbered {start : Engine} {turns : List Turn} (h : CleanRun start turns) :
    (start.run turns).store.Numbered := by
  refine h.fresh.sound.run_induction (P := fun e => e.store.Numbered) h.clean h.fresh.numbered ?_ ?_
  · intro e e' hidle hnumbered
    have hcount : e'.store.count = e.store.count := by rw [Store.count, hidle.nextId, Store.count]
    refine ⟨?_, ?_⟩
    · rw [hidle.records, hcount]
      exact hnumbered.numbers
    · rw [hidle.nextId, hcount]
      exact hnumbered.next
  · intro e op answer f ledger hsound hsucceeds _ hnumbered
    obtain ⟨w, hadvance⟩ := hsucceeds.advance hsound
    exact Store.numbered_of_write hnumbered hadvance.written

/-! ### Records -/

namespace Dispute

/-- A record in order, seen from outside. -/
structure InOrder (config : Config) (d : Dispute) : Prop where
  distinct : d.initiator ≠ d.counterparty
  outsiders : d.initiator.isSystem = false ∧ d.counterparty.isSystem = false
  staked : 0 < d.baseStake.toNat ∧ d.baseStake ≤ d.initiatorStake
  matched : d.counterpartyStake = .zero ∨ d.counterpartyStake = d.initiatorStake
  bounded : d.subsidy ≤ d.initiatorStake ∧ d.earmarkedIncentive ≤ d.initiatorStake
  negotiated : d.proposal.isSome = true ∨ d.counterCount ≠ 0 → d.fullyStaked = true
  accepted : d.initiatorAccepted = true ∨ d.counterpartyAccepted = true → d.proposal.isSome = true
  agreed : d.initiatorAccepted = true ∧ d.counterpartyAccepted = true ↔
    d.outcome = .acceptedProposal
  decided : d.resolved = true ↔ d.outcome ≠ .pending
  settled : d.resolved = true ↔ d.settlement.isSome = true
  dated : d.resolved = true ↔ d.resolvedAt.isSome = true
  waiting : d.pendingRelease.isSome = true → d.resolved = true
  payout : ∀ s, d.settlement = some s →
    Policy.Payout config d.initiatorStake d.counterpartyStake d.earmarkedIncentive d.outcome s

variable {config : Config} {d : Dispute}

theorem bothAccepted_iff :
    d.bothAccepted = true ↔ d.initiatorAccepted = true ∧ d.counterpartyAccepted = true :=
  Bool.and_eq_true_iff

/-- What was paid shows that the dispute is no longer pending. -/
theorem outcome_ne_pending {i c earmarked : Amount} {outcome : Outcome} {s : Settlement}
    (h : Policy.Payout config i c earmarked outcome s) : outcome ≠ .pending := by
  rintro rfl
  cases h

/-- An incentive that was set aside is at most the stake. -/
theorem Sound.earmarked_le (hvalid : config.validate = .ok ()) (h : d.Sound config) :
    d.earmarkedIncentive ≤ d.initiatorStake := by
  obtain ⟨-, -, -, -, -, -, -, hincentive, -⟩ := Config.validate_eq_ok_iff.1 hvalid
  rw [Amount.le_iff]
  rcases h.setAside with hzero | howed
  · rw [hzero]
    exact Nat.zero_le _
  · exact Amount.mulBps_le hincentive howed

/-- **A sound record is in order.** What it says about its end it says all at once: nothing while
the dispute is open, and everything from its resolution on. -/
theorem Sound.inOrder (hvalid : config.validate = .ok ()) (h : d.Sound config) :
    d.InOrder config where
  distinct := h.distinct.symm
  outsiders := ⟨h.initiator, h.counterparty⟩
  staked := ⟨Amount.isZero_eq_false_iff.1 h.based, Amount.le_iff.2 h.raised⟩
  matched := by
    cases hstaked : d.fullyStaked with
    | true => exact .inr (h.matched hstaked)
    | false => exact .inl (isZero_counterpartyStake hstaked)
  bounded := ⟨Amount.le_iff.2 h.subsidised, h.earmarked_le hvalid⟩
  negotiated := fun hbegun => hbegun.elim h.proposed h.countered
  accepted := fun haccepted =>
    haccepted.elim (h.accepted .initiator) (h.accepted .counterparty)
  agreed := by
    rw [← bothAccepted_iff]
    cases hresolved : d.resolved with
    | true => exact (h.ended hresolved).2.1
    | false =>
      rw [h.undecided hresolved, (h.begun hresolved).1]
      exact iff_of_false nofun nofun
  decided := by
    cases hresolved : d.resolved with
    | true =>
      obtain ⟨-, -, s, -, hpayout⟩ := h.ended hresolved
      exact iff_of_true rfl (outcome_ne_pending hpayout)
    | false => exact iff_of_false nofun (not_not_intro (h.begun hresolved).1)
  settled := by
    cases hresolved : d.resolved with
    | true =>
      obtain ⟨-, -, s, hs, -⟩ := h.ended hresolved
      rw [hs]
      exact iff_of_true rfl rfl
    | false =>
      rw [(h.begun hresolved).2.1]
      exact iff_of_false nofun nofun
  dated := by
    cases hresolved : d.resolved with
    | true => exact iff_of_true rfl (h.ended hresolved).1
    | false =>
      rw [(h.begun hresolved).2.2.1]
      exact iff_of_false nofun nofun
  waiting := fun hwaiting => by
    cases hresolved : d.resolved with
    | true => rfl
    | false =>
      rw [(h.begun hresolved).2.2.2] at hwaiting
      cases hwaiting
  payout := fun s hs => by
    cases hresolved : d.resolved with
    | true =>
      obtain ⟨-, -, s', hs', hpayout⟩ := h.ended hresolved
      rw [hs] at hs'
      cases hs'
      exact hpayout
    | false =>
      rw [(h.begun hresolved).2.1] at hs
      cases hs

end Dispute

/-- **Records and numbers.** In every state of a clean run the numbers in use are exactly those
from one up to the next one, as many as were given out, and under each of them stands its own
record, which is in order. -/
theorem records_in_order {start : Engine} {turns : List Turn} (h : CleanRun start turns) :
    (∀ id : DisputeId, (∃ d, (start.run turns).store.get? id = some d) ↔
        1 ≤ id.toNat ∧ id.toNat < (start.run turns).store.nextId.toNat) ∧
      (start.run turns).store.records.size = (start.run turns).store.count ∧
      (start.run turns).store.nextId.toNat = (start.run turns).store.count + 1 ∧
      ∀ id d, (start.run turns).store.get? id = some d → d.id = id ∧ d.InOrder start.config := by
  have hsound := h.sound
  have hnumbered := h.numbered
  have hconfig := h.fresh.sound.config_run h.clean
  refine ⟨fun id => hnumbered.exists_get?_iff, hnumbered.size_eq, hnumbered.next,
    fun id d hget => ⟨hsound.keyed id d hget, ?_⟩⟩
  rw [← hconfig]
  exact (hsound.records id d hget).inOrder hsound.valid

/-- So it is with the one record of a dispute that was resolved while the registry refused the
release of its asset. -/
theorem unreleased_record_in_order :
    CleanRun Sample.lenient Sample.unreleased ∧
      (Sample.lenient.run Sample.unreleased).store.records.size = 1 ∧
      ∃ d, (Sample.lenient.run Sample.unreleased).store.get? .first = some d ∧
        d.pendingRelease.isSome = true ∧ d.InOrder Sample.lenient.config := by
  have hclean : CleanRun Sample.lenient Sample.unreleased :=
    ⟨Sample.engineUnder_fresh rfl, by decide +kernel⟩
  obtain ⟨-, hsize, -, horder⟩ := records_in_order hclean
  have hwaiting : ((Sample.lenient.run Sample.unreleased).store.get? .first).any
      (·.pendingRelease.isSome) = true := by
    decide +kernel
  obtain ⟨d, hget, hpending⟩ := (Option.any_eq_true _ _).1 hwaiting
  exact ⟨hclean, hsize.trans (by decide +kernel), d, hget, hpending, (horder _ d hget).2⟩

/-! ### Entries of the registry -/

/-- **The registry and the records agree** in every state of a clean run. The asset of a dispute is
frozen, and held by its initiator, exactly while the dispute is open or its release is pending; a
release that is pending, and one that was made, is on the terms of the outcome; and the fallback
license is there exactly if the outcome calls for it. Under a number without a record there is
neither. -/
theorem registry_agrees_with_records {start : Engine} {turns : List Turn}
    (h : CleanRun start turns) (id : DisputeId) :
    (∀ d, (start.run turns).store.get? id = some d →
        d.id = id ∧
        ((start.run turns).registry.isFrozen id = true ↔
          d.resolved = false ∨ d.pendingRelease.isSome = true) ∧
        (∀ holder, (start.run turns).registry.frozen.get? id = some holder →
          holder = d.initiator) ∧
        (d.resolved = true → d.pendingRelease = none →
          ∃ release, d.Grants d.outcome release ∧
            (start.run turns).registry.releaseOf id = some release) ∧
        (∀ release, d.pendingRelease = some release → d.Grants d.outcome release) ∧
        (start.run turns).registry.licenseOf id = d.license) ∧
      ((start.run turns).store.get? id = none →
        (start.run turns).registry.isFrozen id = false ∧
          (start.run turns).registry.licenseOf id = none) := by
  have hsound := h.sound
  constructor
  · intro d hget
    have hfits := hsound.registered.fits id d hget
    refine ⟨hsound.keyed id d hget, ?_, fun holder hheld => ?_, fun hresolved hnone => ?_,
      hfits.owed, hfits.licensed⟩
    · rw [hfits.isFrozen_eq]
      exact Dispute.holdsAsset_iff
    · obtain ⟨d', hget', hholder⟩ := hsound.registered.holder id holder hheld
      rw [hget] at hget'
      cases hget'
      exact hholder.symm
    · exact hfits.released (Dispute.holdsAsset_eq_false_iff.2 ⟨hresolved, hnone⟩)
  · intro hget
    obtain ⟨hfrozen, hlicenses⟩ := hsound.registered.unknown id hget
    exact ⟨Table.contains_eq_false_iff.2 hfrozen, hlicenses⟩

/-- While the registry refuses the release it still holds the asset, and once Alice has asked for
the release again it does not; the license is there all along. -/
theorem late_release_agrees :
    CleanRun Sample.lenient (Sample.unreleased ++ Sample.released) ∧
      (Sample.lenient.run Sample.unreleased).registry.isFrozen .first = true ∧
      (Sample.lenient.run Sample.unreleased).registry.licenseOf .first = some "terms" ∧
      (Sample.lenient.run (Sample.unreleased ++ Sample.released)).registry.isFrozen .first =
        false ∧
      (Sample.lenient.run (Sample.unreleased ++ Sample.released)).registry.licenseOf .first =
        some "terms" := by
  have hclean : CleanRun Sample.lenient (Sample.unreleased ++ Sample.released) :=
    ⟨Sample.engineUnder_fresh rfl, by decide +kernel⟩
  have hwaiting : ((Sample.lenient.run Sample.unreleased).store.get? .first).any
      (fun d => d.pendingRelease.isSome && d.license = some "terms") = true := by
    decide +kernel
  have hdone : ((Sample.lenient.run (Sample.unreleased ++ Sample.released)).store.get? .first).any
      (fun d => !d.holdsAsset && d.license = some "terms") = true := by
    decide +kernel
  obtain ⟨d, hget, hd⟩ := (Option.any_eq_true _ _).1 hwaiting
  obtain ⟨d', hget', hd'⟩ := (Option.any_eq_true _ _).1 hdone
  obtain ⟨hpending, hlicense⟩ := Bool.and_eq_true_iff.1 hd
  obtain ⟨hfree, hlicense'⟩ := Bool.and_eq_true_iff.1 hd'
  obtain ⟨-, hfrozen, -, -, -, hlicensed⟩ :=
    (registry_agrees_with_records hclean.of_append.1 .first).1 d hget
  obtain ⟨-, hfrozen', -, -, -, hlicensed'⟩ :=
    (registry_agrees_with_records hclean .first).1 d' hget'
  refine ⟨hclean, hfrozen.2 (.inr hpending), hlicensed.trans (of_decide_eq_true hlicense), ?_,
    hlicensed'.trans (of_decide_eq_true hlicense')⟩
  rw [Bool.eq_false_iff, Ne, hfrozen', ← Dispute.holdsAsset_iff]
  exact Bool.eq_false_iff.1 (Bool.not_eq_true' _ ▸ hfree)

end Arbitration
