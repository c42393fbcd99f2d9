import Arbitration.Table

/-!
# Sums over tables

Balances, stakes and subsidies are added up over the entries of a table, and every operation
changes one entry at a time. The one fact behind all custody statements is `sumOf_put`: putting
a value under a key changes the sum by the new value **less the value that the key had before**.
It holds of the list of entries as it stands; no uniqueness of keys is needed, because `lookup`
and `put` both act on the first entry of a key.
-/

namespace Arbitration

/-! ### Sums over a list -/

/-- The sum of a quantity over a list. -/
def sumOf {α : Type} (f : α → Nat) (l : List α) : Nat := l.foldr (fun a rest => f a + rest) 0

section Sums

variable {α β : Type}

@[simp] theorem sumOf_nil (f : α → Nat) : sumOf f [] = 0 := rfl

@[simp] theorem sumOf_cons (f : α → Nat) (a : α) (l : List α) :
    sumOf f (a :: l) = f a + sumOf f l := rfl

theorem sumOf_append (f : α → Nat) (l₁ l₂ : List α) :
    sumOf f (l₁ ++ l₂) = sumOf f l₁ + sumOf f l₂ := by
  induction l₁ with
  | nil => simp
  | cons a l ih => rw [List.cons_append, sumOf_cons, sumOf_cons, ih, Nat.add_assoc]

/-- Summing over the image of a list is summing the composed quantity. -/
theorem sumOf_map (f : β → Nat) (g : α → β) (l : List α) :
    sumOf f (l.map g) = sumOf (fun a => f (g a)) l := by
  induction l with
  | nil => rfl
  | cons a l ih => rw [List.map_cons, sumOf_cons, sumOf_cons, ih]

/-- Leaving out entries is the same as counting them for nothing. -/
theorem sumOf_filter (f : α → Nat) (p : α → Bool) (l : List α) :
    sumOf f (l.filter p) = sumOf (fun a => if p a then f a else 0) l := by
  induction l with
  | nil => rfl
  | cons a l ih =>
    rw [List.filter_cons, sumOf_cons]
    split <;> simp [ih]

theorem sumOf_congr {f g : α → Nat} {l : List α} (h : ∀ a ∈ l, f a = g a) :
    sumOf f l = sumOf g l := by
  induction l with
  | nil => rfl
  | cons a l ih =>
    obtain ⟨ha, hl⟩ := List.forall_mem_cons.1 h
    rw [sumOf_cons, sumOf_cons, ha, ih hl]

theorem sumOf_eq_zero {f : α → Nat} {l : List α} (h : ∀ a ∈ l, f a = 0) : sumOf f l = 0 := by
  induction l with
  | nil => rfl
  | cons a l ih =>
    obtain ⟨ha, hl⟩ := List.forall_mem_cons.1 h
    rw [sumOf_cons, ha, ih hl]

end Sums

/-! ### One entry changes -/

namespace Table

variable {κ ν : Type} [DecidableEq κ]

/-- Putting a value under a key changes a sum by the new value less the old one. -/
theorem sumOf_put (f : ν → Nat) (key : κ) (value : ν) (entries : List (κ × ν)) :
    sumOf (fun e => f e.2) (put key value entries) + ((lookup key entries).map f).getD 0 =
      sumOf (fun e => f e.2) entries + f value := by
  induction entries with
  | nil => simp [put, lookup]
  | cons e rest ih =>
    obtain ⟨k, v⟩ := e
    by_cases hk : k = key
    · -- both act on this entry: its value leaves the sum and the new one enters it
      simp only [put, lookup, hk, if_true, sumOf_cons, Option.map_some, Option.getD_some]
      omega
    · simp only [put, lookup, hk, if_false, sumOf_cons]
      omega

/-- What a key holds is part of the sum. -/
theorem lookup_le_sumOf (f : ν → Nat) {key : κ} {value : ν} {entries : List (κ × ν)}
    (h : lookup key entries = some value) : f value ≤ sumOf (fun e => f e.2) entries := by
  induction entries with
  | nil => simp [lookup] at h
  | cons e rest ih =>
    obtain ⟨k, v⟩ := e
    rw [lookup] at h
    rw [sumOf_cons]
    split at h
    · cases h
      exact Nat.le_add_right _ _
    · exact Nat.le_trans (ih h) (Nat.le_add_left _ _)

/-- What two keys hold is part of the sum, each for itself. -/
theorem lookup_add_lookup_le_sumOf (f : ν → Nat) {a b : κ} (hab : a ≠ b)
    (entries : List (κ × ν)) :
    ((lookup a entries).map f).getD 0 + ((lookup b entries).map f).getD 0 ≤
      sumOf (fun e => f e.2) entries := by
  induction entries with
  | nil => simp [lookup]
  | cons e rest ih =>
    obtain ⟨k, v⟩ := e
    -- when one key is found at the head, the other can still be anywhere behind it
    have hother : ∀ c : κ, ((lookup c rest).map f).getD 0 ≤ sumOf (fun e => f e.2) rest := by
      intro c
      cases hc : lookup c rest with
      | none => exact Nat.zero_le _
      | some w => exact lookup_le_sumOf f hc
    simp only [lookup, sumOf_cons]
    by_cases ha : k = a
    · have hb : ¬ k = b := fun h => hab (ha ▸ h)
      have := hother b
      rw [if_pos ha, if_neg hb, Option.map_some, Option.getD_some]
      omega
    · rw [if_neg ha]
      by_cases hb : k = b
      · have := hother a
        rw [if_pos hb, Option.map_some, Option.getD_some]
        omega
      · rw [if_neg hb]
        exact Nat.le_trans ih (Nat.le_add_left _ _)

/-! ### Putting back what was there -/

theorem put_put (key : κ) (first second : ν) (entries : List (κ × ν)) :
    put key second (put key first entries) = put key second entries := by
  induction entries with
  | nil => simp [put]
  | cons e rest ih =>
    obtain ⟨k, v⟩ := e
    by_cases hk : k = key
    · simp [put, hk]
    · simp [put, hk, ih]

theorem put_of_lookup {key : κ} {value : ν} {entries : List (κ × ν)}
    (h : lookup key entries = some value) : put key value entries = entries := by
  induction entries with
  | nil => simp [lookup] at h
  | cons e rest ih =>
    obtain ⟨k, v⟩ := e
    by_cases hk : k = key
    · simp only [lookup, hk, if_true, Option.some.injEq] at h
      simp [put, hk, h]
    · simp only [lookup, hk, if_false] at h
      simp [put, hk, ih h]

/-- Putting the earlier value back gives the earlier table, entry by entry. -/
theorem insert_insert_of_get? {t : Table κ ν} {key : κ} {value : ν} (other : ν)
    (h : t.get? key = some value) : (t.insert key other).insert key value = t := by
  obtain ⟨entries⟩ := t
  simp only [insert, put_put, put_of_lookup h]

/-! ### Putting two values -/

theorem put_comm {a b : κ} {old : ν} {entries : List (κ × ν)} (hab : a ≠ b) (x y : ν)
    (ha : lookup a entries = some old) :
    put b y (put a x entries) = put a x (put b y entries) := by
  induction entries with
  | nil => cases ha
  | cons e rest ih =>
    obtain ⟨k, v⟩ := e
    by_cases hk : k = a
    · subst hk
      simp [put, hab]
    · simp only [lookup, if_neg hk] at ha
      by_cases hb : k = b
      · subst hb
        simp [put, hk]
      · simp [put, hk, hb, ih ha]

/-- Where the one key has a value already, it does not matter which of two keys is given its value
first: neither changes the place of the other. -/
theorem insert_comm {t : Table κ ν} {a b : κ} {old : ν} (hab : a ≠ b) (x y : ν)
    (ha : t.get? a = some old) : (t.insert a x).insert b y = (t.insert b y).insert a x :=
  congrArg Table.mk (put_comm hab x y ha)

/-! ### Keys -/

/-- Putting a value under a key leaves the keys as they are, or adds this one at the end. -/
theorem map_fst_put (key : κ) (value : ν) (entries : List (κ × ν)) :
    (put key value entries).map (·.1) =
      if key ∈ entries.map (·.1) then entries.map (·.1) else entries.map (·.1) ++ [key] := by
  induction entries with
  | nil => simp [put]
  | cons e rest ih =>
    obtain ⟨k, v⟩ := e
    by_cases hk : k = key
    · simp [put, hk]
    · rw [put, if_neg hk, List.map_cons, ih, List.map_cons]
      by_cases hmem : key ∈ rest.map (·.1)
      · rw [if_pos hmem, if_pos (List.mem_cons_of_mem k hmem)]
      · have hnot : key ∉ k :: rest.map (·.1) :=
          List.not_mem_cons_of_ne_of_not_mem (Ne.symm hk) hmem
        rw [if_neg hmem, if_neg hnot, List.cons_append]

theorem keys_insert (t : Table κ ν) (key : κ) (value : ν) :
    (t.insert key value).keys = if key ∈ t.keys then t.keys else t.keys ++ [key] :=
  map_fst_put key value t.entries

/-- The keys are those under which something is found. -/
theorem mem_keys_iff {t : Table κ ν} {key : κ} : key ∈ t.keys ↔ ∃ v, t.get? key = some v := by
  obtain ⟨entries⟩ := t
  change key ∈ entries.map (·.1) ↔ ∃ v, lookup key entries = some v
  induction entries with
  | nil => simp [lookup]
  | cons e rest ih =>
    obtain ⟨k, v⟩ := e
    by_cases hk : k = key
    · simp [lookup, hk]
    · simp [lookup, hk, Ne.symm hk, ← ih]

theorem nodup_keys_insert {t : Table κ ν} (h : t.keys.Nodup) (key : κ) (value : ν) :
    (t.insert key value).keys.Nodup := by
  rw [keys_insert]
  split
  · exact h
  · rename_i hnot
    refine List.nodup_append.2 ⟨h, by simp, ?_⟩
    rintro a ha b hb rfl
    exact hnot (List.mem_singleton.1 hb ▸ ha)

/-- Where no key comes twice, the entries are what is found under the keys. -/
theorem get?_of_mem {t : Table κ ν} (h : t.keys.Nodup) {key : κ} {value : ν}
    (hmem : (key, value) ∈ t.toList) : t.get? key = some value := by
  obtain ⟨entries⟩ := t
  change (entries.map (·.1)).Nodup at h
  change lookup key entries = some value
  change (key, value) ∈ entries at hmem
  induction entries with
  | nil => cases hmem
  | cons e rest ih =>
    obtain ⟨k, v⟩ := e
    rw [List.map_cons, List.nodup_cons] at h
    rcases List.mem_cons.1 hmem with hhead | htail
    · cases hhead
      exact if_pos rfl
    · -- the head has another key, since its own does not come again
      have hne : ¬ k = key := by
        intro hk
        exact h.1 (List.mem_map.2 ⟨(key, value), htail, hk.symm⟩)
      rw [lookup, if_neg hne]
      exact ih h.2 htail

theorem contains_iff {t : Table κ ν} {key : κ} : t.contains key = true ↔ ∃ v, t.get? key = some v :=
  Option.isSome_iff_exists

theorem contains_eq_false_iff {t : Table κ ν} {key : κ} :
    t.contains key = false ↔ t.get? key = none := by
  rw [contains, Option.isSome_eq_false_iff, Option.isNone_iff_eq_none]

end Table

end Arbitration
