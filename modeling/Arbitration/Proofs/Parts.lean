import Arbitration.Proofs.Checks
import Arbitration.Proofs.Tables

/-!
# What the registry, the treasury and the store do

For every call of a part there is one law that says **when it is carried out and what it
leaves**. The store keeps each record under the record's own number (`Store.Keyed`); quantities
of the records are added up by `Store.total`, which one write changes by the new record's
quantity less that of the record it replaces.
-/

namespace Arbitration

/-! ### The registry -/

namespace Registry

variable {r r' : Registry} {id : DisputeId}

/-- The calls by which fallback licenses were applied. -/
def licensing (r : Registry) : List RegistryCall :=
  r.calls.filter fun c => c = .applyFallback c.dispute

theorem isFrozen_eq_false_iff : r.isFrozen id = false ↔ r.frozen.get? id = none :=
  Table.contains_eq_false_iff

theorem freeze_eq_ok_iff {holder : AccountId} :
    r.freeze id holder = .ok r' ↔
      r.faults.freeze = false ∧ r.frozen.get? id = none ∧
        { r with
          frozen := r.frozen.insert id holder
          released := r.released.erase id
          calls := r.calls ++ [.freeze id] } = r' := by
  rw [← isFrozen_eq_false_iff, freeze]
  cases r.faults.freeze <;> cases r.isFrozen id <;> simp

theorem unfreeze_eq_ok_iff {release : Release} :
    r.unfreeze id release = .ok r' ↔
      r.faults.unfreeze = false ∧ (∃ holder, r.frozen.get? id = some holder) ∧
        { r with
          frozen := r.frozen.erase id
          released := r.released.insert id release
          calls := r.calls ++ [.unfreeze id release.kind] } = r' := by
  rw [← Table.contains_iff, ← isFrozen, unfreeze]
  cases r.faults.unfreeze <;> cases r.isFrozen id <;> simp

theorem applyFallback_eq_ok_iff {termsRef : String} :
    r.applyFallback id termsRef = .ok r' ↔
      r.faults.applyFallback = false ∧ r.licenses.get? id = none ∧
        { r with
          licenses := r.licenses.insert id termsRef
          calls := r.calls ++ [.applyFallback id] } = r' := by
  rw [← Table.contains_eq_false_iff, applyFallback]
  cases r.faults.applyFallback <;> cases r.licenses.contains id <;> simp

/-- The entries under a number are as before. -/
def SameAt (r r' : Registry) (id : DisputeId) : Prop :=
  r'.frozen.get? id = r.frozen.get? id ∧ r'.released.get? id = r.released.get? id ∧
    r'.licenses.get? id = r.licenses.get? id

theorem SameAt.refl (r : Registry) (id : DisputeId) : r.SameAt r id := ⟨rfl, rfl, rfl⟩

theorem SameAt.trans {r'' : Registry} (h : r.SameAt r' id) (h' : r'.SameAt r'' id) :
    r.SameAt r'' id :=
  ⟨h'.1.trans h.1, h'.2.1.trans h.2.1, h'.2.2.trans h.2.2⟩

section Elsewhere

variable {other : DisputeId} (hne : other ≠ id)
include hne

theorem sameAt_freeze {holder : AccountId} (h : r.freeze other holder = .ok r') :
    r.SameAt r' id := by
  obtain ⟨-, -, rfl⟩ := freeze_eq_ok_iff.1 h
  exact ⟨by rw [Table.get?_insert, if_neg hne], by rw [Table.get?_erase, if_neg hne], rfl⟩

theorem sameAt_unfreeze {release : Release} (h : r.unfreeze other release = .ok r') :
    r.SameAt r' id := by
  obtain ⟨-, -, rfl⟩ := unfreeze_eq_ok_iff.1 h
  exact ⟨by rw [Table.get?_erase, if_neg hne], by rw [Table.get?_insert, if_neg hne], rfl⟩

theorem sameAt_applyFallback {termsRef : String} (h : r.applyFallback other termsRef = .ok r') :
    r.SameAt r' id := by
  obtain ⟨-, -, rfl⟩ := applyFallback_eq_ok_iff.1 h
  exact ⟨rfl, rfl, by rw [Table.get?_insert, if_neg hne]⟩

end Elsewhere

/-- Freezing and releasing apply no license. -/
theorem licensing_freeze {holder : AccountId} (h : r.freeze id holder = .ok r') :
    r'.licensing = r.licensing := by
  obtain ⟨-, -, rfl⟩ := freeze_eq_ok_iff.1 h
  simp [licensing]

theorem licensing_unfreeze {release : Release} (h : r.unfreeze id release = .ok r') :
    r'.licensing = r.licensing := by
  obtain ⟨-, -, rfl⟩ := unfreeze_eq_ok_iff.1 h
  simp [licensing]

end Registry

/-! ### The treasury -/

namespace Treasury

variable {t t' : Treasury} {a : AccountId}

/-- The greatest count. -/
def fullScore : UInt32 := 4294967295

theorem score_recordHarassment (h : t.recordHarassment a = .ok t') (b : AccountId) :
    t'.score b =
      if a = b then (if t.score a = fullScore then t.score a else t.score a + 1)
      else t.score b := by
  simp only [recordHarassment] at h
  split at h
  · cases h
  · cases h
    simp only [score, Table.get?_insert, fullScore]
    split <;> rfl

theorem score_revertHarassment (t : Treasury) (a b : AccountId) :
    (t.revertHarassment a).score b =
      if a = b then (if t.score a ≤ 1 then 0 else t.score a - 1) else t.score b := by
  simp only [revertHarassment]
  split
  · simp only [score, Table.get?_erase]
    split <;> rfl
  · simp only [score, Table.get?_insert]
    split <;> rfl

/-- Taking a count back gives the score before it, **unless the score was full** and did not
grow. -/
theorem score_revert_record (h : t.recordHarassment a = .ok t') (hfull : t.score a ≠ fullScore) :
    (if t'.score a ≤ 1 then 0 else t'.score a - 1) = t.score a := by
  rw [score_recordHarassment h, if_pos rfl, if_neg hfull]
  -- below the full score counting does not wrap around
  have hlt : (t.score a).toNat < 4294967295 := by
    have hbound := (t.score a).toNat_lt
    have hne : (t.score a).toNat ≠ 4294967295 := fun hc => hfull (UInt32.toNat_inj.1 hc)
    omega
  have hsucc : (t.score a + 1).toNat = (t.score a).toNat + 1 := by
    rw [UInt32.toNat_add]
    exact Nat.mod_eq_of_lt (by simp only [UInt32.toNat_one]; omega)
  apply UInt32.toNat_inj.1
  split
  · rename_i hle
    have := UInt32.le_iff_toNat_le.1 hle
    simp only [hsucc, UInt32.toNat_one] at this
    simp only [UInt32.toNat_zero]
    omega
  · rename_i hle
    rw [UInt32.toNat_sub_of_le _ _ (UInt32.le_iff_toNat_le.2 (by simp [hsucc])), hsucc]
    simp

theorem recordHarassment_frame (h : t.recordHarassment a = .ok t') :
    t'.reserve = t.reserve ∧ t'.refuseUpdates = t.refuseUpdates := by
  simp only [recordHarassment] at h
  split at h <;> cases h
  exact ⟨rfl, rfl⟩

theorem revertHarassment_frame (t : Treasury) (a : AccountId) :
    (t.revertHarassment a).reserve = t.reserve ∧
      (t.revertHarassment a).refuseUpdates = t.refuseUpdates := by
  simp only [revertHarassment]
  split <;> exact ⟨rfl, rfl⟩

end Treasury

/-! ### The store -/

namespace Store

variable {s s' : Store} {w : StoreWrite} {id next : DisputeId}

/-- Every record is kept under its own number. -/
def Keyed (s : Store) : Prop := ∀ id d, s.get? id = some d → d.id = id

/-- No number comes twice. -/
def Distinct (s : Store) : Prop := s.records.keys.Nodup

/-- In a store that is in order the listed records are those that are found. -/
theorem get?_of_mem {d : Dispute} (hk : s.Keyed) (hd : s.Distinct) (h : d ∈ s.toList) :
    s.get? d.id = some d := by
  obtain ⟨⟨id, d'⟩, hmem, rfl⟩ := List.mem_map.1 h
  have hget : s.get? id = some d' := Table.get?_of_mem hd hmem
  rw [hk id d' hget]
  exact hget

theorem get?_put (s : Store) (w : StoreWrite) (next id : DisputeId) :
    (s.put w next).get? id = if w.record.id = id then some w.record else s.get? id :=
  Table.get?_insert s.records w.record.id id w.record

/-- A write replaces the record under its number or adds the next one. -/
theorem write_eq_ok_iff :
    s.write w = .ok s' ↔
      s.refuseWrites = false ∧
        ((∃ previous, s.get? w.record.id = some previous ∧ s.put w s.nextId = s') ∨
          s.get? w.record.id = none ∧ w.record.id = s.nextId ∧
            ∃ next, s.nextId.next = .ok next ∧ s.put w next = s') := by
  unfold write
  cases s.refuseWrites with
  | true => simp
  | false =>
    cases hget : s.get? w.record.id with
    | some previous => simp [Table.contains_iff.2 ⟨previous, hget⟩]
    | none =>
      -- an unknown record is taken under the next number only
      by_cases hid : w.record.id = s.nextId
      · rw [Table.contains_eq_false_iff.2 hget, if_neg Bool.false_ne_true,
          if_neg Bool.false_ne_true, if_pos hid, hid]
        cases s.nextId.next <;> simp
      · simp [Table.contains_eq_false_iff.2 hget, hid]

/-- The next record is refused only if there is no number after its own. -/
theorem write_next_eq_error {err : StoreError} (hwrites : s.refuseWrites = false)
    (hnew : s.get? s.nextId = none) (hid : w.record.id = s.nextId) (h : s.write w = .error err) :
    err = .exhausted .disputeId ∧ s.nextId.toNat + 1 = UInt64.size := by
  cases hnext : s.nextId.next with
  | ok next =>
    rw [write_eq_ok_iff.2 ⟨hwrites, .inr ⟨hid ▸ hnew, hid, next, hnext, rfl⟩⟩] at h
    cases h
  | error err' =>
    obtain ⟨rfl, hlast⟩ := DisputeId.next_eq_error hnext
    have hcontains : s.records.contains s.nextId = false := Table.contains_eq_false_iff.2 hnew
    rw [write, hwrites, if_neg Bool.false_ne_true, hid, hcontains, if_neg Bool.false_ne_true,
      if_pos rfl, hnext] at h
    exact ⟨(Except.error.inj h).symm, hlast⟩

theorem refuseWrites_of_write (h : s.write w = .ok s') : s'.refuseWrites = s.refuseWrites := by
  obtain ⟨-, ⟨_, _, rfl⟩ | ⟨_, _, _, _, rfl⟩⟩ := write_eq_ok_iff.1 h <;> rfl

/-- Where a record stands already, a write that is not refused replaces it. -/
theorem write_of_get? {previous : Dispute} (hget : s.get? w.record.id = some previous)
    (h : s.write w = .ok s') : s.put w s.nextId = s' := by
  obtain ⟨-, ⟨_, _, rfl⟩ | ⟨hnone, _⟩⟩ := write_eq_ok_iff.1 h
  · rfl
  · rw [hget] at hnone
    cases hnone

theorem get?_of_write (h : s.write w = .ok s') (id : DisputeId) :
    s'.get? id = if w.record.id = id then some w.record else s.get? id := by
  obtain ⟨-, ⟨_, _, rfl⟩ | ⟨_, _, _, _, rfl⟩⟩ := write_eq_ok_iff.1 h <;> exact get?_put ..

/-- The last nonce is the one that was written last. -/
theorem nonce_of_write (h : s.write w = .ok s') : s'.nonce = w.nonce.or s.nonce := by
  obtain ⟨-, ⟨_, _, rfl⟩ | ⟨_, _, _, _, rfl⟩⟩ := write_eq_ok_iff.1 h <;> rfl

/-- Writing the earlier record undoes a write, and is never refused. -/
theorem write_back {previous next : Dispute} (known : s.get? next.id = some previous)
    (same : previous.id = next.id) (h : s.write { record := next } = .ok s') :
    s'.write { record := previous } = .ok s := by
  have hwritten := get?_of_write h previous.id
  rw [if_pos same.symm] at hwritten
  have hopen := (refuseWrites_of_write h).trans (write_eq_ok_iff.1 h).1
  refine write_eq_ok_iff.2 ⟨hopen, .inl ⟨next, hwritten, ?_⟩⟩
  rw [← write_of_get? known h]
  simp only [put, Option.none_or, same, Table.insert_insert_of_get? next known]

theorem distinct_of_write (hd : s.Distinct) (h : s.write w = .ok s') : s'.Distinct := by
  obtain ⟨-, ⟨_, _, rfl⟩ | ⟨_, _, _, _, rfl⟩⟩ := write_eq_ok_iff.1 h <;>
    exact Table.nodup_keys_insert hd w.record.id w.record

/-- What holds of the record that is written, and of all records before, holds of all records
afterwards. -/
theorem forall_get?_of_write {P : DisputeId → Dispute → Prop} (h : s.write w = .ok s')
    (hnew : P w.record.id w.record) (hold : ∀ id d, s.get? id = some d → P id d) :
    ∀ id d, s'.get? id = some d → P id d := by
  intro id d hget
  rw [get?_of_write h] at hget
  split at hget
  · rename_i hid
    cases hget
    exact hid ▸ hnew
  · exact hold id d hget

theorem keyed_of_write (hk : s.Keyed) (h : s.write w = .ok s') : s'.Keyed :=
  forall_get?_of_write h rfl hk

/-- A quantity of all records together. -/
def total (f : Dispute → Nat) (s : Store) : Nat := sumOf f s.toList

/-- A write changes a total by the new record's quantity less the old one's. -/
theorem total_of_write (f : Dispute → Nat) (h : s.write w = .ok s') :
    s'.total f + ((s.get? w.record.id).map f).getD 0 = s.total f + f w.record := by
  -- the next number plays no part in the sum, so both kinds of write are one case
  have hput : ∀ next, (s.put w next).total f + ((s.get? w.record.id).map f).getD 0 =
      s.total f + f w.record := by
    intro next
    rw [total, total, toList, toList, sumOf_map, sumOf_map]
    exact Table.sumOf_put f w.record.id w.record s.records.entries
  obtain ⟨-, ⟨_, _, rfl⟩ | ⟨_, _, _, _, rfl⟩⟩ := write_eq_ok_iff.1 h <;> exact hput _

/-- A record's quantity is part of the total. -/
theorem le_total (f : Dispute → Nat) {d : Dispute} (h : s.get? id = some d) : f d ≤ s.total f := by
  rw [total, toList, sumOf_map]
  exact Table.lookup_le_sumOf f h

end Store

end Arbitration
