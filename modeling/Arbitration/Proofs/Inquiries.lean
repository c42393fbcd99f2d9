import Arbitration.Inquiry
import Arbitration.Proofs.Arithmetic

/-!
# Asking for the stake of a filing

The question about a raised stake is answered with a made-up pair of filings, one second apart, as
many seconds after the first of January 1970 as the cooldown lasts. `Inquiry.charged` is the answer
that the filings of an engine give, inside the cooldown and outside of it.

The two agree as long as the made-up instants stand for what they are to stand for. A cooldown of
**one second** is over when the second filing comes, so it is not raised. And instants are counted
in 64 bits with a sign: a long cooldown ends outside the calendar, until for the longest ones the
count wraps around, and the instants are in the calendar again, before 1970.
`escalation_inquiry_iff` has the exact ranges.
-/

namespace Arbitration

namespace Inquiry

variable {c : Config} {stake : Amount}

/-! ### The made-up instants -/

theorem toInt_filings (cooldown : UInt64) :
    (filings cooldown).1.toInt = ((cooldown.toNat : Int) + 1).bmod UInt64.size ∧
      (filings cooldown).2.toInt = (cooldown.toNat : Int).bmod UInt64.size := by
  have hearlier : cooldown.toInt64.toInt = (cooldown.toNat : Int).bmod UInt64.size :=
    BitVec.toInt_eq_toNat_bmod cooldown.toBitVec
  refine ⟨?_, hearlier⟩
  rw [filings, Int64.toInt_add, hearlier, Int.bmod_add_bmod]
  rfl

theorem instant_eq_ok_iff {seconds : Int64} {t : Timestamp} :
    instant seconds = .ok t ↔ Timestamp.ofEpoch? seconds.toInt = some t := by
  rw [instant, mapError_eq_ok_iff, Timestamp.ofEpoch]
  cases Timestamp.ofEpoch? seconds.toInt with
  | none => exact iff_of_false nofun nofun
  | some u => rw [Except.ok.injEq, Option.some.injEq]

theorem exists_instant_iff {seconds : Int64} : (∃ t, instant seconds = .ok t) ↔
    Timestamp.firstSecond ≤ seconds.toInt ∧ seconds.toInt ≤ Timestamp.lastSecond := by
  constructor
  · rintro ⟨t, ht⟩
    obtain ⟨hseconds, -⟩ := Timestamp.ofParts?_eq_some_iff.1 (instant_eq_ok_iff.1 ht)
    exact hseconds ▸ ⟨t.first_le, t.le_last⟩
  · rintro ⟨hfirst, hlast⟩
    exact ⟨⟨seconds.toInt, 0, hfirst, hlast, by decide⟩,
      instant_eq_ok_iff.2 (Timestamp.ofParts?_eq_some_iff.2 ⟨rfl, rfl⟩)⟩

/-- A second that is not in the calendar is the only fault of an instant. -/
theorem instant_eq_error {seconds : Int64} {err : InquiryError}
    (h : instant seconds = .error err) : err = .instant (.epoch seconds.toInt) := by
  rw [instant, Timestamp.ofEpoch] at h
  cases hepoch : Timestamp.ofEpoch? seconds.toInt <;> rw [hepoch] at h <;> cases h
  rfl

/-- A count of seconds is in the calendar unless it is too long, and again if it is so long that it
wraps around to a second before 1970. -/
theorem bmod_in_calendar_iff {count : Int} (hfirst : 0 ≤ count) (hlast : count ≤ UInt64.size) :
    Timestamp.firstSecond ≤ count.bmod UInt64.size ∧
        count.bmod UInt64.size ≤ Timestamp.lastSecond ↔
      count ≤ Timestamp.lastSecond ∨ Timestamp.firstSecond + UInt64.size ≤ count := by
  simp only [Int.bmod_def, Timestamp.firstSecond, Timestamp.lastSecond, UInt64.size] at hlast ⊢
  split <;> omega

theorem exists_now_iff {cooldown : UInt64} : (∃ t, instant (filings cooldown).1 = .ok t) ↔
    (cooldown.toNat : Int) + 1 ≤ Timestamp.lastSecond ∨
      Timestamp.firstSecond + UInt64.size ≤ cooldown.toNat + 1 := by
  have hlt : cooldown.toNat < UInt64.size := cooldown.toNat_lt
  rw [exists_instant_iff, (toInt_filings cooldown).1]
  exact bmod_in_calendar_iff (by omega) (by omega)

theorem exists_earlier_iff {cooldown : UInt64} : (∃ t, instant (filings cooldown).2 = .ok t) ↔
    (cooldown.toNat : Int) ≤ Timestamp.lastSecond ∨
      Timestamp.firstSecond + UInt64.size ≤ cooldown.toNat := by
  have hlt : cooldown.toNat < UInt64.size := cooldown.toNat_lt
  rw [exists_instant_iff, (toInt_filings cooldown).2]
  exact bmod_in_calendar_iff (by omega) (by omega)

/-- The seconds that the two instants stand for. -/
theorem seconds_of_instants {cooldown : UInt64} {now earlier : Timestamp}
    (hnow : instant (filings cooldown).1 = .ok now)
    (hearlier : instant (filings cooldown).2 = .ok earlier) :
    now.seconds = ((cooldown.toNat : Int) + 1).bmod UInt64.size ∧
      earlier.seconds = (cooldown.toNat : Int).bmod UInt64.size := by
  rw [← (toInt_filings cooldown).1, ← (toInt_filings cooldown).2]
  exact ⟨(Timestamp.ofParts?_eq_some_iff.1 (instant_eq_ok_iff.1 hnow)).1,
    (Timestamp.ofParts?_eq_some_iff.1 (instant_eq_ok_iff.1 hearlier)).1⟩

/-- Wherever both are in the calendar, they are one second apart. -/
theorem secondsSince_earlier {cooldown : UInt64} {now earlier : Timestamp}
    (hnow : instant (filings cooldown).1 = .ok now)
    (hearlier : instant (filings cooldown).2 = .ok earlier) : now.secondsSince earlier = 1 := by
  obtain ⟨hsecond, hbefore⟩ := seconds_of_instants hnow hearlier
  have hlast : earlier.seconds ≤ 8210266876799 := earlier.le_last
  have hlt := cooldown.toNat_lt
  simp only [Int.bmod_def, UInt64.size] at hsecond hbefore
  rw [Timestamp.secondsSince_eq]
  split at hsecond <;> split at hbefore <;> omega

/-- The instants are what they are to stand for if the cooldown ends in the calendar. -/
theorem exists_exact_iff {cooldown : UInt64} :
    (∃ now earlier, instant (filings cooldown).1 = .ok now ∧
      instant (filings cooldown).2 = .ok earlier ∧
      now.seconds = (cooldown.toNat : Int) + 1 ∧ earlier.seconds = (cooldown.toNat : Int)) ↔
    (cooldown.toNat : Int) < Timestamp.lastSecond := by
  constructor
  · rintro ⟨now, earlier, -, -, hsecond, -⟩
    have hlast : now.seconds ≤ Timestamp.lastSecond := now.le_last
    omega
  · intro hlong
    obtain ⟨now, hnow⟩ := exists_now_iff.2 (.inl hlong)
    obtain ⟨earlier, hearlier⟩ := exists_earlier_iff.2 (.inl (Int.le_of_lt hlong))
    obtain ⟨hsecond, hbefore⟩ := seconds_of_instants hnow hearlier
    have hlt : (cooldown.toNat : Int) < 8210266876799 := hlong
    have hsize : (UInt64.size : Int) = 18446744073709551616 := rfl
    refine ⟨now, earlier, hnow, hearlier, ?_, ?_⟩
    · rw [hsecond]
      exact Int.bmod_eq_of_le_mul_two (by omega) (by omega)
    · rw [hbefore]
      exact Int.bmod_eq_of_le_mul_two (by omega) (by omega)

/-! ### What is charged -/

/-- The answer that a filing gives: inside the cooldown the stake is scaled, outside it is not. -/
def charged (c : Config) (stake : Amount) : Bool → Except InquiryError Finding
  | true => do
    let raised ← (stake.mulBps c.escalationMultiplierBps).mapError (.policy ∘ .arithmetic)
    return .escalate stake ⟨raised, true⟩ c.escalationMultiplierBps
  | false => return .escalate stake ⟨stake, false⟩ c.escalationMultiplierBps

/-- It is the rule that says so, for whatever two instants. -/
theorem charged_inCooldown (last : Option Timestamp) (now : Timestamp) : (do
    let escalation ← (Policy.escalatedStake stake last now c.cooldownSecs
      c.escalationMultiplierBps).mapError (.policy ∘ .arithmetic)
    return .escalate stake escalation c.escalationMultiplierBps) =
      charged c stake (Policy.inCooldown last now c.cooldownSecs) := by
  rw [Policy.escalatedStake]
  cases Policy.inCooldown last now c.cooldownSecs with
  | false => rfl
  | true =>
    rw [charged, if_pos rfl]
    cases stake.mulBps c.escalationMultiplierBps <;> rfl

/-- What an engine admits a filing with is what is charged. -/
theorem charged_of_admitFiling {e : Engine} {caller : AccountId} {r : InitiateRequest}
    {escalation : Policy.Escalation} (h : e.admitFiling caller r = .ok escalation) :
    charged e.config r.stake (Policy.inCooldown (e.store.lastBetween caller r.counterparty) e.now
        e.config.cooldownSecs) =
      .ok (.escalate r.stake escalation e.config.escalationMultiplierBps) := by
  obtain ⟨-, -, -, -, -, hescalation⟩ := Engine.admitFiling_eq_ok_iff.1 h
  rw [← charged_inCooldown, hescalation]
  rfl

/-- A filing inside the cooldown costs the scaled stake, rounded down. -/
theorem charged_true_eq_ok_iff {finding : Finding} : charged c stake true = .ok finding ↔
    ∃ raised : Amount,
      raised.toNat = stake.toNat * c.escalationMultiplierBps.toNat / wholeBps ∧
        .escalate stake ⟨raised, true⟩ c.escalationMultiplierBps = finding := by
  simp only [charged, bind_eq_ok_iff, mapError_eq_ok_iff, pure_eq_ok_iff, Amount.mulBps_eq_ok_iff]

/-- It has no answer only if that exceeds the range. -/
theorem charged_true_eq_error_iff {err : InquiryError} : charged c stake true = .error err ↔
    UInt64.size ≤ stake.toNat * c.escalationMultiplierBps.toNat / wholeBps ∧
      err = .policy (.arithmetic .rateScaling) := by
  rw [charged]
  cases hscaled : stake.mulBps c.escalationMultiplierBps with
  | ok raised =>
    have hrange := (Amount.mulBps_eq_ok_iff.1 hscaled) ▸ raised.toNat_lt
    refine iff_of_false nofun fun h => Nat.not_le.2 hrange h.1
  | error fault =>
    obtain ⟨hlarge, rfl⟩ := Amount.checked_eq_error_iff.1 hscaled
    constructor
    · intro h
      cases h
      exact ⟨hlarge, rfl⟩
    · rintro ⟨-, rfl⟩
      rfl

theorem charged_ne : charged c stake false ≠ charged c stake true := by
  intro h
  obtain ⟨raised, -, hfinding⟩ := charged_true_eq_ok_iff.1 h.symm
  cases hfinding

/-- There is always an instant to charge it at. -/
theorem charged_ne_instant (recent : Bool) (fault : Timestamp.Error) :
    charged c stake recent ≠ .error (.instant fault) := by
  intro h
  cases recent with
  | false => cases h
  | true =>
    obtain ⟨-, herr⟩ := charged_true_eq_error_iff.1 h
    cases herr

/-! ### The answer -/

/-- The question about a filing soon after another one needs both instants. -/
theorem answer_recent : (escalate stake true).answer c = (do
    let now ← instant (filings c.cooldownSecs).1
    let earlier ← instant (filings c.cooldownSecs).2
    charged c stake (Policy.inCooldown (some earlier) now c.cooldownSecs)) := by
  simp only [← charged_inCooldown]
  rw [answer]
  generalize filings c.cooldownSecs = seconds
  obtain ⟨second, before⟩ := seconds
  dsimp only
  cases instant second <;> cases instant before <;> rfl

/-- The one about a first filing needs an instant too, though nothing is made of it. -/
theorem answer_first : (escalate stake false).answer c = (do
    let _ ← instant (filings c.cooldownSecs).1
    charged c stake false) := by
  rw [answer]
  generalize filings c.cooldownSecs = seconds
  obtain ⟨second, before⟩ := seconds
  dsimp only
  cases instant second <;> rfl

/-- A cooldown of two seconds or more has not passed between the two filings. -/
theorem answer_recent_iff : (escalate stake true).answer c = charged c stake true ↔
    2 ≤ c.cooldownSecs.toNat ∧ (∃ t, instant (filings c.cooldownSecs).1 = .ok t) ∧
      ∃ t, instant (filings c.cooldownSecs).2 = .ok t := by
  rw [answer_recent]
  cases hnow : instant (filings c.cooldownSecs).1 with
  | error err =>
    obtain rfl := instant_eq_error hnow
    exact iff_of_false (fun h => charged_ne_instant _ _ h.symm) (by simp)
  | ok now =>
    cases hearlier : instant (filings c.cooldownSecs).2 with
    | error err =>
      obtain rfl := instant_eq_error hearlier
      exact iff_of_false (fun h => charged_ne_instant _ _ h.symm) (by simp)
    | ok earlier =>
      have hcooldown : Policy.inCooldown (some earlier) now c.cooldownSecs =
          decide (1 < c.cooldownSecs.toNat) := by
        rw [Policy.inCooldown, secondsSince_earlier hnow hearlier]
      show charged c stake (Policy.inCooldown (some earlier) now c.cooldownSecs) = _ ↔ _
      rw [hcooldown]
      by_cases hlong : 1 < c.cooldownSecs.toNat
      · rw [decide_eq_true hlong]
        exact iff_of_true rfl ⟨hlong, ⟨now, rfl⟩, earlier, rfl⟩
      · rw [decide_eq_false hlong]
        exact iff_of_false charged_ne fun h => hlong h.1

theorem answer_first_iff : (escalate stake false).answer c = charged c stake false ↔
    ∃ t, instant (filings c.cooldownSecs).1 = .ok t := by
  rw [answer_first]
  cases hnow : instant (filings c.cooldownSecs).1 with
  | error err =>
    obtain rfl := instant_eq_error hnow
    exact iff_of_false (fun h => charged_ne_instant _ _ h.symm) (by simp)
  | ok now => exact iff_of_true rfl ⟨now, rfl⟩

end Inquiry

/-- **Asking for the stake of a filing.** What a filing is charged is what an engine admits it with:
inside the cooldown the stake scaled by the multiplier and rounded down, with an error only if that
exceeds 64 bits, and the stake itself outside of it. The answer to the question is the same, inside
the cooldown if and only if that lasts two seconds or more and ends in the calendar, or is so long
that the count of seconds wraps around into the calendar; and outside of it for the same cooldowns,
the short ones included. No count leaves the calendar or wraps around if and only if the cooldown
ends before the last second of the calendar. -/
theorem escalation_inquiry_iff (c : Config) (stake : Amount) :
    let cooldown : Int := c.cooldownSecs.toNat
    let raised := stake.toNat * c.escalationMultiplierBps.toNat / wholeBps
    ((Inquiry.escalate stake true).answer c = Inquiry.charged c stake true ↔
        2 ≤ cooldown ∧ (cooldown < Timestamp.lastSecond ∨
          Timestamp.firstSecond + UInt64.size ≤ cooldown)) ∧
      ((Inquiry.escalate stake false).answer c = Inquiry.charged c stake false ↔
        cooldown < Timestamp.lastSecond ∨
          Timestamp.firstSecond + UInt64.size ≤ cooldown + 1) ∧
      ((∃ now earlier, Inquiry.instant (Inquiry.filings c.cooldownSecs).1 = .ok now ∧
          Inquiry.instant (Inquiry.filings c.cooldownSecs).2 = .ok earlier ∧
          now.seconds = cooldown + 1 ∧ earlier.seconds = cooldown) ↔
        cooldown < Timestamp.lastSecond) ∧
      (∀ (e : Engine) (caller : AccountId) (r : InitiateRequest) (escalation : Policy.Escalation),
        e.admitFiling caller r = .ok escalation →
          Inquiry.charged e.config r.stake (Policy.inCooldown
              (e.store.lastBetween caller r.counterparty) e.now e.config.cooldownSecs) =
            .ok (.escalate r.stake escalation e.config.escalationMultiplierBps)) ∧
      (∀ finding, Inquiry.charged c stake true = .ok finding ↔ ∃ amount : Amount,
        amount.toNat = raised ∧
          .escalate stake ⟨amount, true⟩ c.escalationMultiplierBps = finding) ∧
      ∀ err, Inquiry.charged c stake true = .error err ↔
        UInt64.size ≤ raised ∧ err = .policy (.arithmetic .rateScaling) := by
  intro cooldown raised
  have hsize : (UInt64.size : Int) = 18446744073709551616 := rfl
  have hlast : Timestamp.lastSecond = 8210266876799 := rfl
  have hfirst : Timestamp.firstSecond = -8334601228800 := rfl
  refine ⟨?_, ?_, Inquiry.exists_exact_iff, fun _ _ _ _ => Inquiry.charged_of_admitFiling,
    fun _ => Inquiry.charged_true_eq_ok_iff, fun _ => Inquiry.charged_true_eq_error_iff⟩
  · rw [Inquiry.answer_recent_iff, Inquiry.exists_now_iff, Inquiry.exists_earlier_iff]
    omega
  · rw [Inquiry.answer_first_iff, Inquiry.exists_now_iff]
    omega

/-- With a cooldown of one second the question is answered as if the cooldown were over, though a
filing inside it costs half as much again. With one that ends where the calendar does there is no
answer at all. Both configurations are valid. -/
theorem short_and_long_cooldowns_misanswered :
    let short : Config := { Config.default with cooldownSecs := 1 }
    let long : Config := { Config.default with cooldownSecs := 8210266876799 }
    short.validate = .ok () ∧ long.validate = .ok () ∧
      (Inquiry.escalate ⟨100⟩ true).answer short = .ok (.escalate ⟨100⟩ ⟨⟨100⟩, false⟩ 15000) ∧
      Inquiry.charged short ⟨100⟩ true = .ok (.escalate ⟨100⟩ ⟨⟨150⟩, true⟩ 15000) ∧
      (Inquiry.escalate ⟨100⟩ false).answer long = .error (.instant (.epoch 8210266876800)) :=
  ⟨rfl, rfl, rfl, rfl, rfl⟩

end Arbitration
