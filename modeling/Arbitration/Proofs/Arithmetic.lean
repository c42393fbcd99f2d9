import Arbitration.Proofs.Checks

/-!
# Checked arithmetic in whole numbers

Each checked operation on amounts is read here as a statement about natural numbers, in the one
form that `omega` takes: an equation without subtraction. What a rule of `Policy` computes is said
in the same way, so that no later proof looks into an `Except` computation of an amount again.
-/

namespace Arbitration

namespace Amount

theorem isZero_iff {a : Amount} : a.isZero = true ↔ a = zero := beq_iff_eq

theorem isZero_eq_false_iff {a : Amount} : a.isZero = false ↔ 0 < a.toNat := by
  rw [Bool.eq_false_iff, Ne, isZero_iff, ← toNat_inj, toNat_zero, Nat.pos_iff_ne_zero]

@[simp] theorem isZero_zero : zero.isZero = true := rfl

theorem add_eq_ok_iff {a b c : Amount} : a.add b = .ok c ↔ c.toNat = a.toNat + b.toNat :=
  checked_eq_ok_iff

/-- A difference exists exactly if it makes the minuend up again. -/
theorem sub_eq_ok_iff {a b c : Amount} : a.sub b = .ok c ↔ c.toNat + b.toNat = a.toNat := by
  unfold sub
  split
  · rename_i h
    rw [checked_eq_ok_iff]
    have := le_iff.1 h
    omega
  · rename_i h
    have := mt le_iff.2 h
    exact iff_of_false (by simp) (by omega)

theorem mulBps_eq_ok_iff {a c : Amount} {bps : UInt64} :
    a.mulBps bps = .ok c ↔ c.toNat = a.toNat * bps.toNat / wholeBps :=
  checked_eq_ok_iff

/-- A calculation that stays in range has a result. -/
theorem exists_checked {n : Nat} (e : ArithmeticError) (h : n < UInt64.size) :
    ∃ c, checked e n = .ok c := by
  cases hc : ofNat? n with
  | some c => exact ⟨c, by rw [checked, hc]⟩
  | none =>
    have := ofNat?_eq_none_iff.1 hc
    omega

theorem exists_add {a b : Amount} (h : a.toNat + b.toNat < UInt64.size) : ∃ c, a.add b = .ok c :=
  exists_checked _ h

theorem exists_sub {a b : Amount} (h : b.toNat ≤ a.toNat) : ∃ c, a.sub b = .ok c := by
  obtain ⟨c, hc⟩ := exists_checked (n := a.toNat - b.toNat) .amountDifference
    (by have := a.toNat_lt; omega)
  exact ⟨c, by rw [sub, if_pos (le_iff.2 h), hc]⟩

/-- A share is no more than the whole. -/
theorem mul_div_wholeBps_le {n bps : Nat} (h : bps ≤ wholeBps) : n * bps / wholeBps ≤ n :=
  Nat.div_le_of_le_mul (Nat.mul_comm wholeBps n ▸ Nat.mul_le_mul_left n h)

/-- Taking a share of at most the whole never leaves the range. -/
theorem exists_mulBps {a : Amount} {bps : UInt64} (h : bps.toNat ≤ wholeBps) :
    ∃ c, a.mulBps bps = .ok c :=
  exists_checked _ (Nat.lt_of_le_of_lt (mul_div_wholeBps_le h) a.toNat_lt)

theorem mulBps_le {a c : Amount} {bps : UInt64} (h : bps.toNat ≤ wholeBps)
    (hc : a.mulBps bps = .ok c) : c.toNat ≤ a.toNat := by
  rw [mulBps_eq_ok_iff.1 hc]
  exact mul_div_wholeBps_le h

/-- Half of an amount, rounded down, and the odd unit. -/
theorem splitEven_two_eq_ok_iff {a share dust : Amount} :
    a.splitEven 2 = .ok (share, dust) ↔
      share.toNat = a.toNat / 2 ∧ dust.toNat = a.toNat % 2 := by
  have hsplit : a.splitEven 2 = .ok (⟨a.units / 2⟩, ⟨a.units % 2⟩) := rfl
  rw [hsplit, Except.ok.injEq, Prod.mk.injEq, ← toNat_inj, ← toNat_inj]
  exact and_congr eq_comm eq_comm

end Amount

/-! ### Settlements -/

namespace Settlement

/-- Everything that leaves escrow, without a bound. -/
def leaving (s : Settlement) : Nat :=
  s.toInitiator.toNat + s.toCounterparty.toNat + s.burned.toNat + s.dust.toNat

theorem outflow_eq_ok_iff {s : Settlement} {total : Amount} :
    s.outflow = .ok total ↔ total.toNat = s.leaving := by
  simp only [outflow, bind_eq_ok_iff, leaving]
  constructor
  · rintro ⟨parties, hp, kept, hk, h⟩
    rw [Amount.add_eq_ok_iff] at hp hk h
    omega
  · intro h
    -- every partial sum is at most the total, which is in range
    have hlt := total.toNat_lt
    obtain ⟨parties, hp⟩ :=
      Amount.exists_add (show s.toInitiator.toNat + s.toCounterparty.toNat < _ by omega)
    have hparties := Amount.add_eq_ok_iff.1 hp
    obtain ⟨kept, hk⟩ := Amount.exists_add (show parties.toNat + s.burned.toNat < _ by omega)
    have hkept := Amount.add_eq_ok_iff.1 hk
    exact ⟨parties, hp, kept, hk, Amount.add_eq_ok_iff.2 (by omega)⟩

/-- A settlement conserves a total exactly if its four parts make it up. -/
theorem conserves_iff {s : Settlement} {total : Amount} :
    s.conserves total = true ↔ total.toNat = s.leaving := by
  rw [← outflow_eq_ok_iff, conserves]
  cases h : s.outflow with
  | ok out => simp only [beq_iff_eq, Except.ok.injEq]
  | error err => simp

/-- What is burned is a part of what leaves escrow, so its sum stays in range. -/
theorem exists_totalBurned {s : Settlement} {total : Amount} (h : s.conserves total = true) :
    ∃ burned, s.totalBurned = .ok burned := by
  have := conserves_iff.1 h
  have := total.toNat_lt
  exact Amount.exists_add (by simp only [leaving] at *; omega)

end Settlement

namespace Policy

@[simp] theorem leaving_acceptedSplit (i c : Amount) :
    (acceptedSplit i c).leaving = i.toNat + c.toNat := by
  simp [acceptedSplit, Settlement.leaving]

@[simp] theorem leaving_defaultLicenseSplit (i incentive : Amount) :
    (defaultLicenseSplit i incentive).leaving = i.toNat := by
  simp [defaultLicenseSplit, Settlement.leaving]

/-- What a deadlock comes to: the burned share, and halves of the rest. -/
theorem timeoutSplit_eq_ok_iff {i c : Amount} {bps : UInt64} {s : Settlement} :
    timeoutSplit i c bps = .ok s ↔
      bps.toNat ≤ wholeBps ∧ ∃ total, i.add c = .ok total ∧
        ∃ burned, total.mulBps bps = .ok burned ∧ ∃ rest, total.sub burned = .ok rest ∧
          ∃ share dust, rest.splitEven 2 = .ok (share, dust) ∧
            ⟨share, share, burned, dust, .zero⟩ = s := by
  unfold timeoutSplit
  split
  · rename_i h
    exact iff_of_false (by simp) (fun hle => absurd h (Nat.not_lt.2 hle.1))
  · rename_i h
    simp only [bind_eq_ok_iff, pure_eq_ok_iff, Prod.exists, Nat.not_lt.1 h, true_and]

/-- A deadlock splits exactly the two stakes. -/
theorem leaving_timeoutSplit {i c : Amount} {bps : UInt64} {s : Settlement}
    (h : timeoutSplit i c bps = .ok s) : s.leaving = i.toNat + c.toNat := by
  obtain ⟨-, total, ht, burned, hb, rest, hr, share, dust, hs, rfl⟩ := timeoutSplit_eq_ok_iff.1 h
  obtain ⟨hshare, hdust⟩ := Amount.splitEven_two_eq_ok_iff.1 hs
  rw [Amount.add_eq_ok_iff] at ht
  rw [Amount.sub_eq_ok_iff] at hr
  simp only [Settlement.leaving]
  omega

/-- A deadlock treats both parties alike. -/
theorem timeoutSplit_equal {i c : Amount} {bps : UInt64} {s : Settlement}
    (h : timeoutSplit i c bps = .ok s) : s.toInitiator = s.toCounterparty := by
  obtain ⟨-, total, -, burned, -, rest, -, share, dust, -, rfl⟩ := timeoutSplit_eq_ok_iff.1 h
  rfl

/-- A deadlock rewards nobody. -/
theorem timeoutSplit_incentive {i c : Amount} {bps : UInt64} {s : Settlement}
    (h : timeoutSplit i c bps = .ok s) : s.incentive = .zero := by
  obtain ⟨-, total, -, burned, -, rest, -, share, dust, -, rfl⟩ := timeoutSplit_eq_ok_iff.1 h
  rfl

/-- Stakes that can be added up can be split. -/
theorem exists_timeoutSplit {i c : Amount} {bps : UInt64} (hb : bps.toNat ≤ wholeBps)
    (h : i.toNat + c.toNat < UInt64.size) : ∃ s, timeoutSplit i c bps = .ok s := by
  obtain ⟨total, ht⟩ := Amount.exists_add h
  obtain ⟨burned, hburned⟩ := Amount.exists_mulBps (a := total) hb
  obtain ⟨remaining, hr⟩ := Amount.exists_sub (Amount.mulBps_le hb hburned)
  exact ⟨_, timeoutSplit_eq_ok_iff.2
    ⟨hb, total, ht, burned, hburned, remaining, hr, _, _, rfl, rfl⟩⟩

/-- With a multiplier of at least one, filing again too soon never costs less. -/
theorem escalatedStake_le {base : Amount} {last : Option Timestamp} {now : Timestamp}
    {cooldown multiplier : UInt64} {esc : Escalation}
    (hm : wholeBps ≤ multiplier.toNat)
    (h : escalatedStake base last now cooldown multiplier = .ok esc) :
    base.toNat ≤ esc.stake.toNat := by
  unfold escalatedStake at h
  split at h
  · simp only [bind_eq_ok_iff, pure_eq_ok_iff] at h
    obtain ⟨stake, hs, rfl⟩ := h
    rw [Amount.mulBps_eq_ok_iff.1 hs]
    have hle : base.toNat * wholeBps ≤ base.toNat * multiplier.toNat := Nat.mul_le_mul_left _ hm
    exact (Nat.le_div_iff_mul_le (by decide)).2 hle
  · cases h
    exact Nat.le_refl _

/-- Only a stake that is raised beyond the range has no result. -/
theorem escalatedStake_eq_error {base : Amount} {last : Option Timestamp} {now : Timestamp}
    {cooldown multiplier : UInt64} {err : ArithmeticError}
    (h : escalatedStake base last now cooldown multiplier = .error err) :
    err = .rateScaling ∧ UInt64.size ≤ base.toNat * multiplier.toNat / wholeBps := by
  unfold escalatedStake at h
  split at h
  · cases hscaled : base.mulBps multiplier with
    | ok stake =>
      rw [hscaled] at h
      cases h
    | error err' =>
      rw [hscaled] at h
      cases h
      obtain ⟨hlarge, rfl⟩ := Amount.checked_eq_error_iff.1 hscaled
      exact ⟨rfl, hlarge⟩
  · cases h

/-- A fee is asked for below the limit of rounds only. -/
theorem counterFee_ok {base fee : Amount} {round limit : UInt32}
    (h : counterFee base round limit = .ok fee) : round < limit := by
  unfold counterFee at h
  split at h
  · cases h
  · rename_i hround
    exact UInt32.not_le.1 hround

/-- With a limit of up to 64 rounds the exponent stays in range, and only the fee may not. -/
theorem counterFee_arithmetic {base : Amount} {round limit : UInt32} {err : ArithmeticError}
    (hlimit : limit ≤ 64) (h : counterFee base round limit = .error (.arithmetic err)) :
    err = .amountProduct ∧ UInt64.size ≤ base.toNat * Nat.pow 2 round.toNat := by
  unfold counterFee at h
  split at h
  · cases h
  · rename_i hround
    have hsmall : round < 64 := UInt32.lt_of_lt_of_le (UInt32.not_le.1 hround) hlimit
    rw [if_neg (UInt32.not_le.2 hsmall)] at h
    split at h
    · cases h
    · rename_i err' hfee
      cases h
      obtain ⟨hlarge, rfl⟩ := Amount.checked_eq_error_iff.1 hfee
      have hpow : Nat.pow 2 round.toNat < UInt64.size :=
        Nat.pow_lt_pow_right (by decide) (UInt32.lt_iff_toNat_lt.1 hsmall)
      rw [UInt64.toNat_ofNat_of_lt' hpow] at hlarge
      exact ⟨rfl, hlarge⟩

/-- The extension of a round is the usual one, or what is left up to the cap. -/
theorem toNat_counterExtension (perRound cumulative cap : UInt64) :
    (counterExtension perRound cumulative cap).toNat =
      min perRound.toNat (cap.toNat - cumulative.toNat) := by
  have hleft : (if cumulative ≤ cap then cap - cumulative else 0).toNat =
      cap.toNat - cumulative.toNat := by
    split
    · rename_i hbelow
      exact UInt64.toNat_sub_of_le _ _ hbelow
    · rename_i hbeyond
      have := mt UInt64.le_iff_toNat_le.2 hbeyond
      rw [UInt64.toNat_zero]
      omega
  rw [counterExtension, ← hleft, Std.min_eq_if, Nat.min_def, apply_ite UInt64.toNat]
  simp only [UInt64.le_iff_toNat_le]

/-- What was granted so far and the next extension stay in range together. -/
theorem counterExtension_lt (perRound cumulative cap : UInt64) :
    cumulative.toNat + (counterExtension perRound cumulative cap).toNat < UInt64.size := by
  have hcumulative : cumulative.toNat < UInt64.size := cumulative.toNat_lt
  have hcap : cap.toNat < UInt64.size := cap.toNat_lt
  rw [toNat_counterExtension]
  omega

theorem incentiveDraw_le (owed available : Amount) :
    (incentiveDraw owed available).toNat ≤ available.toNat := by
  unfold incentiveDraw
  split
  · rename_i h
    exact Amount.le_iff.1 h
  · exact Nat.zero_le _

/-- An incentive is drawn in full or not at all. -/
theorem incentiveDraw_allOrNothing {stake owed : Amount} {bps : UInt64} (available : Amount)
    (howes : incentiveAmount stake bps = .ok owed) :
    incentiveDraw owed available = .zero ∨
      incentiveAmount stake bps = .ok (incentiveDraw owed available) := by
  unfold incentiveDraw
  split
  · exact .inr howes
  · exact .inl rfl

/-- The rate of a subsidy without a bound: where the product is too large to be held, it is above
any ceiling. -/
theorem toNat_subsidyRate (score : UInt32) (baseBps maxBps : UInt64) :
    (subsidyRate score baseBps maxBps).toNat =
      min (baseBps.toNat * (score.toNat + 1)) maxBps.toNat := by
  have hmax : maxBps.toNat < UInt64.size := maxBps.toNat_lt
  simp only [subsidyRate]
  split
  · rename_i hheld
    rw [Std.min_eq_if, Nat.min_def, apply_ite UInt64.toNat]
    simp only [UInt64.le_iff_toNat_le, UInt64.toNat_ofNat_of_lt' hheld]
  · rename_i hlarge
    omega

/-- Whatever the score, the rate of a subsidy stays below its ceiling. -/
theorem subsidyRate_le (score : UInt32) (baseBps maxBps : UInt64) :
    (subsidyRate score baseBps maxBps).toNat ≤ maxBps.toNat := by
  rw [toNat_subsidyRate]
  exact Nat.min_le_right _ _

/-- A subsidy is a share of the stake that it is for. -/
theorem subsidyAmount_le {stake amount : Amount} {score : UInt32} {baseBps maxBps : UInt64}
    (hmax : maxBps.toNat ≤ wholeBps)
    (h : subsidyAmount stake score baseBps maxBps = .ok amount) : amount.toNat ≤ stake.toNat :=
  Amount.mulBps_le (Nat.le_trans (subsidyRate_le score baseBps maxBps) hmax) h

end Policy

/-! ### Deadlines -/

namespace Timestamp

variable {t u : Timestamp} {secs : UInt64}

theorem le_refl (t : Timestamp) : t ≤ t := le_iff.2 (.inr ⟨rfl, Nat.le_refl _⟩)

theorem le_trans {v : Timestamp} (htu : t ≤ u) (huv : u ≤ v) : t ≤ v := by
  have htu := le_iff.1 htu
  have huv := le_iff.1 huv
  exact le_iff.2 (by omega)

/-- There is a span of some seconds if their milliseconds can be counted. -/
theorem span?_eq_some_iff {span : Int} :
    span? secs = some span ↔ (secs.toNat : Int) ≤ 9223372036854775 ∧ span = secs.toNat := by
  have hgreatest : greatestSigned = 9223372036854775807 := rfl
  unfold span?
  split
  · exact iff_of_false nofun (by omega)
  · split
    · exact iff_of_false nofun (by omega)
    · rw [Option.some.injEq]
      omega

/-- What is longer than that is longer than the calendar. -/
theorem addSeconds_eq_ok_iff :
    t.addSeconds secs = .ok u ↔
      u.seconds = t.seconds + secs.toNat ∧ u.nanos = t.carriedNanos secs := by
  have hfirst := t.first_le
  have hlast := u.le_last
  have hadd : t.addSeconds secs = .ok u ↔ ∃ span, span? secs = some span ∧
      ofParts? (t.seconds + span) (t.carriedNanos secs) = some u := by
    rw [← Option.bind_eq_some_iff, addSeconds]
    cases (span? secs).bind fun span => ofParts? (t.seconds + span) (t.carriedNanos secs) <;> simp
  simp only [hadd, span?_eq_some_iff, ofParts?_eq_some_iff]
  constructor
  · rintro ⟨_, ⟨-, rfl⟩, hparts⟩
    exact hparts
  · rintro ⟨hseconds, hnanos⟩
    exact ⟨_, ⟨by omega, rfl⟩, hseconds, hnanos⟩

/-- There is an instant some seconds later if the calendar goes on as long. -/
theorem exists_addSeconds_iff :
    (∃ u, t.addSeconds secs = .ok u) ↔ t.seconds + secs.toNat ≤ lastSecond := by
  have hlastSecond : lastSecond = 8210266876799 := rfl
  simp only [addSeconds_eq_ok_iff]
  constructor
  · rintro ⟨u, hseconds, -⟩
    have hlast := u.le_last
    omega
  · intro hle
    have hfirst := t.first_le
    have hnanos : t.carriedNanos secs < 2000000000 := by
      have := t.nanos_lt
      unfold carriedNanos
      split <;> omega
    exact ⟨⟨t.seconds + secs.toNat, t.carriedNanos secs, by omega, hle, hnanos⟩, rfl, rfl⟩

theorem isWhole_iff : t.isWhole = true ↔ t.nanos = 0 := beq_iff_eq

/-- What is whole seconds after a whole second is one. -/
theorem isWhole_of_addSeconds (ht : t.isWhole = true) (h : t.addSeconds secs = .ok u) :
    u.isWhole = true := by
  have hzero := isWhole_iff.1 ht
  rw [isWhole_iff, (addSeconds_eq_ok_iff.1 h).2, carriedNanos, if_neg (by omega), hzero]

/-- Whole seconds are in the order of their numbers. -/
theorem le_iff_of_isWhole (ht : t.isWhole = true) (hu : u.isWhole = true) :
    t ≤ u ↔ t.seconds ≤ u.seconds := by
  have ht := isWhole_iff.1 ht
  have hu := isWhole_iff.1 hu
  rw [le_iff]
  omega

theorem lt_iff_of_isWhole (ht : t.isWhole = true) (hu : u.isWhole = true) :
    t < u ↔ t.seconds < u.seconds := by
  have ht := isWhole_iff.1 ht
  have hu := isWhole_iff.1 hu
  rw [lt_iff]
  omega

/-- No two instants are further apart than 64 bits can count. -/
theorem secondsSince_eq (t u : Timestamp) : t.secondsSince u = (t.seconds - u.seconds).toNat := by
  have ht := And.intro t.first_le t.le_last
  have hu := And.intro u.first_le u.le_last
  have hsmall : saturated (t.seconds - u.seconds) = t.seconds - u.seconds := by
    rw [saturated, leastSigned, greatestSigned, if_neg (by omega), if_neg (by omega)]
  rw [secondsSince, hsmall]

/-- There is no other reason to have no instant than the end of the calendar. -/
theorem addSeconds_eq_error {err : ArithmeticError} (h : t.addSeconds secs = .error err) :
    err = .timestamp := by
  unfold addSeconds at h
  split at h <;> cases h
  rfl

/-- Of two instants after the same one, the one more seconds away is the later one. -/
theorem addSeconds_le {more : UInt64} {v : Timestamp} (hle : secs ≤ more)
    (hu : t.addSeconds secs = .ok u) (hv : t.addSeconds more = .ok v) : u ≤ v := by
  by_cases heq : secs = more
  · subst heq
    rw [hu, Except.ok.injEq] at hv
    exact hv ▸ le_refl u
  · have hsecs := UInt64.lt_iff_toNat_lt.1 (UInt64.lt_of_le_of_ne hle heq)
    obtain ⟨husecs, -⟩ := addSeconds_eq_ok_iff.1 hu
    obtain ⟨hvsecs, -⟩ := addSeconds_eq_ok_iff.1 hv
    exact le_iff.2 (.inl (by omega))

/-- No seconds later it is the same instant. -/
theorem addSeconds_zero (t : Timestamp) : t.addSeconds 0 = .ok t := by
  refine addSeconds_eq_ok_iff.2 ⟨?_, ?_⟩
  · rw [UInt64.toNat_zero, Int.natCast_zero, Int.add_zero]
  · rw [carriedNanos, if_neg fun hc => hc.2 rfl]

/-- Any seconds leave a leap second behind. -/
theorem carriedNanos_of_ne_zero (t : Timestamp) (hne : secs ≠ 0) :
    t.carriedNanos secs = t.nanos % 1000000000 := by
  have := t.nanos_lt
  simp only [carriedNanos, ne_eq, hne, not_false_eq_true, and_true]
  split <;> omega

/-- Some seconds and then some more are all of them together. -/
theorem addSeconds_trans {more all : UInt64} {v : Timestamp}
    (hall : all.toNat = secs.toNat + more.toNat) (hu : t.addSeconds secs = .ok u)
    (hv : u.addSeconds more = .ok v) : t.addSeconds all = .ok v := by
  by_cases hzero : secs = 0
  · subst hzero
    rw [addSeconds_zero, Except.ok.injEq] at hu
    subst hu
    rw [UInt64.toNat_zero, Nat.zero_add] at hall
    rw [UInt64.toNat_inj.1 hall, hv]
  · obtain ⟨husecs, hunanos⟩ := addSeconds_eq_ok_iff.1 hu
    obtain ⟨hvsecs, hvnanos⟩ := addSeconds_eq_ok_iff.1 hv
    have hpos : secs.toNat ≠ 0 := fun hc => hzero (UInt64.toNat_inj.1 hc)
    have hne : all ≠ 0 := by
      rintro rfl
      rw [UInt64.toNat_zero] at hall
      omega
    rw [carriedNanos_of_ne_zero t hzero] at hunanos
    refine addSeconds_eq_ok_iff.2 ⟨by omega, ?_⟩
    -- the first seconds have left the leap second behind, so the others carry what they find
    have hless : ¬(1000000000 ≤ u.nanos ∧ more ≠ 0) := fun hc => by omega
    rw [hvnanos, carriedNanos, if_neg hless, hunanos, carriedNanos_of_ne_zero t hne]

/-- What is some seconds away is later by a second or more. -/
theorem seconds_lt_of_addSeconds (hne : secs ≠ 0) (h : t.addSeconds secs = .ok u) :
    t.seconds < u.seconds := by
  obtain ⟨hsecs, -⟩ := addSeconds_eq_ok_iff.1 h
  have hpos : secs.toNat ≠ 0 := fun hc => hne (UInt64.toNat_inj.1 hc)
  omega

theorem le_addSeconds (h : t.addSeconds secs = .ok u) : t ≤ u := by
  by_cases hzero : secs = 0
  · subst hzero
    rw [addSeconds_zero, Except.ok.injEq] at h
    exact h ▸ le_refl t
  · exact le_iff.2 (.inl (seconds_lt_of_addSeconds hzero h))

/-- What is counted from a later start is over later. -/
theorem addSeconds_le_of_later {more : UInt64} {v w : Timestamp} (hu : t.addSeconds secs = .ok u)
    (hv : t.addSeconds more = .ok v) (hw : u.addSeconds more = .ok w) : v ≤ w := by
  by_cases hzero : secs = 0
  · subst hzero
    rw [addSeconds_zero, Except.ok.injEq] at hu
    subst hu
    rw [hv, Except.ok.injEq] at hw
    exact hw ▸ le_refl v
  · -- the start may leave a leap second behind, but then it is later by a second at least
    have hlt := seconds_lt_of_addSeconds hzero hu
    obtain ⟨hvsecs, -⟩ := addSeconds_eq_ok_iff.1 hv
    obtain ⟨hwsecs, -⟩ := addSeconds_eq_ok_iff.1 hw
    exact le_iff.2 (.inl (by omega))

end Timestamp

end Arbitration
