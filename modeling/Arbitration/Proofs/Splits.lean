import Arbitration.Proofs.Arithmetic

/-!
# Two stakes, split at a deadlock

`Policy.timeoutSplit` divides twice: the share to burn is rounded down, and what is left of the
stakes is halved, the odd unit going to the sink. In closed form (`Policy.Halved`) this determines
the settlement, up to the largest stakes that can be added up at all: every unit is accounted for,
and the shares only fall as the rate grows.

The two divisions round in **opposite directions** for the parties. The fraction of a unit that the
first one loses stays with what is halved, and comes back to the sink only if there is an odd unit
to halve (`Policy.Halved.sink_covers_iff`).
-/

namespace Arbitration

namespace Policy

/-- What a deadlock comes to, in whole numbers. -/
structure Halved (i c : Amount) (bps : UInt64) (s : Settlement) : Prop where
  ratio : bps.toNat ≤ wholeBps
  range : i.toNat + c.toNat < UInt64.size
  burned : s.burned.toNat = (i.toNat + c.toNat) * bps.toNat / wholeBps
  toInitiator : s.toInitiator.toNat = (i.toNat + c.toNat - s.burned.toNat) / 2
  toCounterparty : s.toCounterparty.toNat = (i.toNat + c.toNat - s.burned.toNat) / 2
  dust : s.dust.toNat = (i.toNat + c.toNat - s.burned.toNat) % 2
  incentive : s.incentive = .zero

variable {i c : Amount} {bps more : UInt64} {s s' : Settlement}

/-- There is no other settlement with these numbers. -/
theorem Halved.unique (h : Halved i c bps s) (h' : Halved i c bps s') : s = s' := by
  have hburned : s.burned.toNat = s'.burned.toNat := h.burned.trans h'.burned.symm
  have hinitiator := h.toInitiator.trans (hburned ▸ h'.toInitiator.symm)
  have hcounterparty := h.toCounterparty.trans (hburned ▸ h'.toCounterparty.symm)
  have hdust := h.dust.trans (hburned ▸ h'.dust.symm)
  have hincentive := h.incentive.trans h'.incentive.symm
  cases s
  cases s'
  rw [Settlement.mk.injEq]
  exact ⟨Amount.toNat_inj.1 hinitiator, Amount.toNat_inj.1 hcounterparty,
    Amount.toNat_inj.1 hburned, Amount.toNat_inj.1 hdust, hincentive⟩

theorem halved_of_timeoutSplit (h : timeoutSplit i c bps = .ok s) : Halved i c bps s := by
  obtain ⟨hratio, total, ht, burned, hb, rest, hr, share, dust, hs, rfl⟩ :=
    timeoutSplit_eq_ok_iff.1 h
  rw [Amount.add_eq_ok_iff] at ht
  rw [Amount.mulBps_eq_ok_iff, ht] at hb
  rw [Amount.sub_eq_ok_iff] at hr
  obtain ⟨hshare, hdust⟩ := Amount.splitEven_two_eq_ok_iff.1 hs
  have hrest : rest.toNat = i.toNat + c.toNat - burned.toNat := by omega
  rw [hrest] at hshare hdust
  exact ⟨hratio, ht ▸ total.toNat_lt, hb, hshare, hshare, hdust, rfl⟩

/-- **Closed form of a deadlock.** The numbers of `Halved` are the result, and with a rate of up to
the whole and stakes that can be added up there is one. -/
theorem timeoutSplit_eq_ok_iff_halved : timeoutSplit i c bps = .ok s ↔ Halved i c bps s := by
  refine ⟨halved_of_timeoutSplit, fun h => ?_⟩
  obtain ⟨s', hs'⟩ := exists_timeoutSplit h.ratio h.range
  rw [hs', (halved_of_timeoutSplit hs').unique h]

namespace Halved

/-- Every unit is accounted for. -/
theorem leaving (h : Halved i c bps s) : s.leaving = i.toNat + c.toNat :=
  leaving_timeoutSplit (timeoutSplit_eq_ok_iff_halved.2 h)

/-- The division by the whole, with the fraction that it loses. -/
theorem burned_add_lost (h : Halved i c bps s) :
    wholeBps * s.burned.toNat + (i.toNat + c.toNat) * bps.toNat % wholeBps =
      (i.toNat + c.toNat) * bps.toNat :=
  h.burned ▸ Nat.div_add_mod ..

/-- The sink gets its exact share if the first division loses nothing, or an odd unit makes up for
what it loses. -/
theorem sink_covers_iff (h : Halved i c bps s) :
    (i.toNat + c.toNat) * bps.toNat ≤ wholeBps * (s.burned.toNat + s.dust.toNat) ↔
      wholeBps ∣ (i.toNat + c.toNat) * bps.toNat ∨
        (i.toNat + c.toNat - (i.toNat + c.toNat) * bps.toNat / wholeBps) % 2 = 1 := by
  have hlost := h.burned_add_lost
  have hfraction : (i.toNat + c.toNat) * bps.toNat % wholeBps < wholeBps := Nat.mod_lt _ (by decide)
  have hdust := h.dust
  rw [← h.burned, ← hdust, Nat.dvd_iff_mod_eq_zero]
  -- the odd unit weighs as much as the whole, and the fraction less than that
  rcases Nat.mod_two_eq_zero_or_one (i.toNat + c.toNat - s.burned.toNat) with heven | hodd
  · rw [heven] at hdust
    rw [hdust, Nat.add_zero]
    omega
  · rw [hodd] at hdust
    rw [hdust, Nat.mul_add]
    omega

/-- What the sink gets too little the parties get too much. -/
theorem parties_le_iff (h : Halved i c bps s) :
    wholeBps * (s.toInitiator.toNat + s.toCounterparty.toNat) ≤
        (i.toNat + c.toNat) * (wholeBps - bps.toNat) ↔
      (i.toNat + c.toNat) * bps.toNat ≤ wholeBps * (s.burned.toNat + s.dust.toNat) := by
  have hleaving : s.toInitiator.toNat + s.toCounterparty.toNat +
      (s.burned.toNat + s.dust.toNat) = i.toNat + c.toNat := by
    rw [← h.leaving, Settlement.leaving, Nat.add_assoc _ s.burned.toNat]
  have hscaled := congrArg (wholeBps * ·) hleaving
  have hshares : (i.toNat + c.toNat) * (wholeBps - bps.toNat) + (i.toNat + c.toNat) * bps.toNat =
      wholeBps * (i.toNat + c.toNat) := by
    rw [← Nat.mul_add, Nat.sub_add_cancel h.ratio, Nat.mul_comm]
  simp only [Nat.mul_add wholeBps (_ + _) (_ + _)] at hscaled
  omega

/-- Nobody gets more than the larger of the two stakes. -/
theorem share_le (h : Halved i c bps s) :
    s.toInitiator.toNat ≤ max i.toNat c.toNat ∧ s.toCounterparty.toNat ≤ max i.toNat c.toNat := by
  have := h.toInitiator
  have := h.toCounterparty
  omega

/-- The more is burned, the less goes back. -/
theorem share_anti (h : Halved i c bps s) (h' : Halved i c more s') (hle : bps ≤ more) :
    s'.toInitiator ≤ s.toInitiator ∧ s'.toCounterparty ≤ s.toCounterparty := by
  have hburned : s.burned.toNat ≤ s'.burned.toNat := by
    rw [h.burned, h'.burned]
    exact Nat.div_le_div_right (Nat.mul_le_mul_left _ (UInt64.le_iff_toNat_le.1 hle))
  have hhalf : (i.toNat + c.toNat - s'.burned.toNat) / 2 ≤
      (i.toNat + c.toNat - s.burned.toNat) / 2 :=
    Nat.div_le_div_right (Nat.sub_le_sub_left hburned _)
  rw [Amount.le_iff, Amount.le_iff, h.toInitiator, h'.toInitiator, h.toCounterparty,
    h'.toCounterparty]
  exact ⟨hhalf, hhalf⟩

end Halved

end Policy

/-! ### Every unit -/

/-- What is promised of a deadlock's settlement beyond its numbers. -/
structure Policy.Exact (i c : Amount) (bps : UInt64) (s : Settlement) : Prop
    extends Policy.Halved i c bps s where
  dust_eq : s.dust.toNat = 0 ∨ s.dust.toNat = 1
  /-- Nothing is lost and nothing is made. -/
  sum : s.toInitiator.toNat + s.toCounterparty.toNat + s.burned.toNat + s.dust.toNat =
    i.toNat + c.toNat
  /-- Neither sum that is taken later leaves the range. -/
  totalBurned : ∃ sunk, s.totalBurned = .ok sunk ∧
    sunk.toNat = s.burned.toNat + s.dust.toNat
  outflow : ∃ out, s.outflow = .ok out ∧ out.toNat = i.toNat + c.toNat
  /-- No share is larger than both stakes. -/
  share_le_max : s.toInitiator.toNat ≤ max i.toNat c.toNat ∧
    s.toCounterparty.toNat ≤ max i.toNat c.toNat
  /-- With equal stakes nobody gets more than was staked. -/
  le_stake : i = c → s.toInitiator ≤ i ∧ s.toCounterparty ≤ c

theorem Policy.Halved.exact {i c : Amount} {bps : UInt64} {s : Settlement}
    (h : Halved i c bps s) : Exact i c bps s := by
  have hleaving := h.leaving
  obtain ⟨total, htotal⟩ := Amount.exists_add h.range
  rw [Amount.add_eq_ok_iff] at htotal
  have hout : s.outflow = .ok total := Settlement.outflow_eq_ok_iff.2 (htotal.trans hleaving.symm)
  have hconserves := Settlement.conserves_iff.2 (htotal.trans hleaving.symm)
  obtain ⟨sunk, hsunk⟩ := Settlement.exists_totalBurned hconserves
  exact { h with
    dust_eq := by
      have := h.dust
      omega
    sum := hleaving
    totalBurned := ⟨sunk, hsunk, Amount.add_eq_ok_iff.1 hsunk⟩
    outflow := ⟨total, hout, htotal⟩
    share_le_max := h.share_le
    le_stake := by
      rintro rfl
      have hmax := h.share_le
      rwa [Nat.max_self] at hmax }

/-- **Exact splits.** Two stakes can be split exactly if the rate is at most the whole and their sum
is in range, and then every unit of them is accounted for. A higher rate leaves neither party with
more. And whatever a settlement is, it conserves a total exactly if its four parts add up to it as
whole numbers. -/
theorem timeoutSplit_exact (i c : Amount) (bps : UInt64) :
    ((∃ s, Policy.timeoutSplit i c bps = .ok s) ↔
        bps.toNat ≤ wholeBps ∧ i.toNat + c.toNat < UInt64.size) ∧
      (∀ s, Policy.timeoutSplit i c bps = .ok s → Policy.Exact i c bps s) ∧
      (∀ more s', bps ≤ more → Policy.timeoutSplit i c more = .ok s' →
        ∃ s, Policy.timeoutSplit i c bps = .ok s ∧
          s'.toInitiator ≤ s.toInitiator ∧ s'.toCounterparty ≤ s.toCounterparty) ∧
      ∀ (s : Settlement) (total : Amount), s.conserves total = true ↔
        s.toInitiator.toNat + s.toCounterparty.toNat + s.burned.toNat + s.dust.toNat =
          total.toNat := by
  refine ⟨⟨?_, fun h => Policy.exists_timeoutSplit h.1 h.2⟩, ?_, ?_, ?_⟩
  · rintro ⟨s, hs⟩
    have hhalved := Policy.halved_of_timeoutSplit hs
    exact ⟨hhalved.ratio, hhalved.range⟩
  · exact fun s hs => (Policy.halved_of_timeoutSplit hs).exact
  · intro more s' hle hs'
    have hhalved' := Policy.halved_of_timeoutSplit hs'
    have hratio := Nat.le_trans (UInt64.le_iff_toNat_le.1 hle) hhalved'.ratio
    obtain ⟨s, hs⟩ := Policy.exists_timeoutSplit hratio hhalved'.range
    exact ⟨s, hs, (Policy.halved_of_timeoutSplit hs).share_anti hhalved' hle⟩
  · exact fun s total => Settlement.conserves_iff.trans eq_comm

/-- Stakes that add up to the largest amount there is, three tenths of it burned: an odd unit is
left. With one unit more they cannot be added up. -/
theorem timeoutSplit_at_limit :
    (∃ s, Policy.timeoutSplit ⟨9223372036854775808⟩ ⟨9223372036854775807⟩ 3000 = .ok s ∧
      s.burned.toNat = 5534023222112865484 ∧ s.toInitiator.toNat = 6456360425798343065 ∧
      s.toCounterparty.toNat = 6456360425798343065 ∧ s.dust.toNat = 1) ∧
    ¬∃ s, Policy.timeoutSplit ⟨9223372036854775808⟩ ⟨9223372036854775808⟩ 3000 = .ok s := by
  obtain ⟨hexists, hexact, -⟩ :=
    timeoutSplit_exact ⟨9223372036854775808⟩ ⟨9223372036854775807⟩ 3000
  obtain ⟨s, hs⟩ := hexists.2 (by decide)
  have hsplit := hexact s hs
  have hburned : s.burned.toNat = 5534023222112865484 := hsplit.burned.trans (by decide)
  have hinitiator := hsplit.toInitiator
  have hcounterparty := hsplit.toCounterparty
  have hsum := hsplit.sum
  rw [hburned] at hinitiator hcounterparty hsum
  have hinitiator' : s.toInitiator.toNat = 6456360425798343065 := hinitiator.trans (by decide)
  have hcounterparty' : s.toCounterparty.toNat = 6456360425798343065 :=
    hcounterparty.trans (by decide)
  refine ⟨⟨s, hs, hburned, hinitiator', hcounterparty', ?_⟩, ?_⟩
  · rw [hinitiator', hcounterparty'] at hsum
    exact Nat.add_left_cancel (hsum.trans (by decide))
  · rw [(timeoutSplit_exact _ _ _).1]
    decide

/-! ### The fraction of a unit -/

/-- **Where rounding goes.** The sink gets at least its exact share of the stakes, and the parties
together no more than theirs, exactly if the share is a whole number of units or an odd unit is left
to halve. Otherwise the parties keep the fraction that rounding the share down has lost, which is
less than a unit. -/
theorem sink_covers_burn_share_iff {i c : Amount} {bps : UInt64} {s : Settlement}
    (h : Policy.timeoutSplit i c bps = .ok s) :
    ((i.toNat + c.toNat) * bps.toNat ≤ wholeBps * (s.burned.toNat + s.dust.toNat) ↔
        wholeBps ∣ (i.toNat + c.toNat) * bps.toNat ∨
          (i.toNat + c.toNat - (i.toNat + c.toNat) * bps.toNat / wholeBps) % 2 = 1) ∧
      (wholeBps * (s.toInitiator.toNat + s.toCounterparty.toNat) ≤
          (i.toNat + c.toNat) * (wholeBps - bps.toNat) ↔
        (i.toNat + c.toNat) * bps.toNat ≤ wholeBps * (s.burned.toNat + s.dust.toNat)) ∧
      (i.toNat + c.toNat) * bps.toNat < wholeBps * (s.burned.toNat + s.dust.toNat + 1) := by
  have hhalved := Policy.halved_of_timeoutSplit h
  refine ⟨hhalved.sink_covers_iff, hhalved.parties_le_iff, ?_⟩
  have hlost := hhalved.burned_add_lost
  have hfraction : (i.toNat + c.toNat) * bps.toNat % wholeBps < wholeBps := Nat.mod_lt _ (by decide)
  rw [Nat.mul_add, Nat.mul_add, Nat.mul_one]
  omega

/-- Of ninety-nine a fortieth is burned: the two that it comes to without the fraction, and the odd
unit of the rest. -/
theorem odd_unit_covers_fraction :
    ∃ s, Policy.timeoutSplit ⟨50⟩ ⟨49⟩ 250 = .ok s ∧
      (50 + 49) * 250 ≤ wholeBps * (s.burned.toNat + s.dust.toNat) := by
  have hs : Policy.timeoutSplit ⟨50⟩ ⟨49⟩ 250 = .ok ⟨⟨48⟩, ⟨48⟩, ⟨2⟩, ⟨1⟩, .zero⟩ := rfl
  exact ⟨_, hs, (sink_covers_burn_share_iff hs).1.2 (.inr (by decide))⟩

/-- Of a hundred a fortieth would be two and a half. Two are burned, the rest is even, and the
parties share the half that is left over. -/
theorem parties_keep_fraction :
    ∃ s, Policy.timeoutSplit ⟨50⟩ ⟨50⟩ 250 = .ok s ∧
      wholeBps * (s.burned.toNat + s.dust.toNat) < (50 + 50) * 250 ∧
      (50 + 50) * (wholeBps - 250) <
        wholeBps * (s.toInitiator.toNat + s.toCounterparty.toNat) :=
  ⟨⟨⟨49⟩, ⟨49⟩, ⟨2⟩, ⟨0⟩, .zero⟩, rfl, by decide, by decide⟩

end Arbitration
