import Arbitration.Proofs.Escalation

/-!
# Deadlines and cooldowns

What has to happen by an instant is dated by adding seconds to another one, and a cooldown is kept
by taking one instant from another. Three limits are on the way: the seconds of a span, and its
milliseconds, are held in 64 bits with a sign, and the calendar ends in the year 262142. Only **the
last one counts**. A span that is too long to be held is longer than the calendar
(`Timestamp.exists_addSeconds_iff`), and no two instants are as far apart as a difference of 64 bits
can be (`Timestamp.secondsSince_eq`).

A sum and a difference say the same then: the cooldown lasts up to the instant that lies its seconds
after the last filing (`Policy.inCooldown_iff_lt_of_addSeconds`). The difference also says it where
the calendar has no such instant. Such a cooldown never ends.
-/

namespace Arbitration

variable {t u now : Timestamp} {secs : UInt64}

namespace Timestamp

/-- There is no other limit than the last second of the calendar, and it has one error. -/
theorem addSeconds_eq_error_iff {err : ArithmeticError} :
    t.addSeconds secs = .error err ↔ lastSecond < t.seconds + secs.toNat ∧ err = .timestamp := by
  have hexists : (∃ u, t.addSeconds secs = .ok u) ↔ t.seconds + secs.toNat ≤ lastSecond :=
    exists_addSeconds_iff
  constructor
  · intro hadd
    refine ⟨?_, addSeconds_eq_error hadd⟩
    rw [← Int.not_le, ← hexists]
    rintro ⟨u, hok⟩
    rw [hadd] at hok
    cases hok
  · rintro ⟨hbeyond, rfl⟩
    rw [← Int.not_le, ← hexists] at hbeyond
    cases hadd : t.addSeconds secs with
    | ok u => exact absurd ⟨u, hadd⟩ hbeyond
    | error err => rw [addSeconds_eq_error hadd]

/-- From a whole second, what is some seconds later is the whole second with that number. -/
theorem addSeconds_eq_ok_iff_of_isWhole (ht : t.isWhole = true) :
    t.addSeconds secs = .ok u ↔ u.isWhole = true ∧ u.seconds = t.seconds + secs.toNat := by
  constructor
  · intro hadd
    exact ⟨isWhole_of_addSeconds ht hadd, (addSeconds_eq_ok_iff.1 hadd).1⟩
  · rintro ⟨hu, hseconds⟩
    have hzero := isWhole_iff.1 ht
    have hcarried : t.carriedNanos secs = 0 := by
      rw [carriedNanos, if_neg (by omega), hzero]
    exact addSeconds_eq_ok_iff.2 ⟨hseconds, hcarried ▸ isWhole_iff.1 hu⟩

/-- The seconds that were added lie between the two instants, in this order only. -/
theorem secondsSince_of_addSeconds (hadd : t.addSeconds secs = .ok u) :
    u.secondsSince t = secs.toNat ∧ t.secondsSince u = 0 := by
  obtain ⟨hseconds, -⟩ := addSeconds_eq_ok_iff.1 hadd
  rw [secondsSince_eq, secondsSince_eq]
  omega

end Timestamp

namespace Policy

/-- A cooldown is kept up to the second that lies as many after the last filing, in the calendar or
beyond it. -/
theorem inCooldown_iff_seconds_lt (hle : t.seconds ≤ now.seconds) :
    inCooldown (some t) now secs = true ↔ now.seconds < t.seconds + secs.toNat := by
  simp only [inCooldown_iff, Option.some.injEq, exists_eq_left']
  omega

/-- Where the calendar has this second, a cooldown is kept before it. -/
theorem inCooldown_iff_lt_of_addSeconds (ht : t.isWhole = true) (hnow : now.isWhole = true)
    (hle : t ≤ now) (hadd : t.addSeconds secs = .ok u) :
    inCooldown (some t) now secs = true ↔ now < u := by
  obtain ⟨hu, hseconds⟩ := (Timestamp.addSeconds_eq_ok_iff_of_isWhole ht).1 hadd
  rw [inCooldown_iff_seconds_lt ((Timestamp.le_iff_of_isWhole ht hnow).1 hle),
    Timestamp.lt_iff_of_isWhole hnow hu, hseconds]

end Policy

/-- **Deadlines and cooldowns are exact.** From a whole second, a deadline is the whole second with
the number that is the sum; there is one if and only if this number is in the calendar, and the
error is the same whatever limit is exceeded. Between the two lie the seconds that were added, and
none the other way round. A cooldown of as many seconds is kept at exactly the instants whose number
is below the sum, whether the calendar has an instant with that number or not, and so exactly before
the deadline where there is one. -/
theorem deadlines_are_exact (ht : t.isWhole = true) (secs : UInt64) :
    (∀ u, t.addSeconds secs = .ok u ↔
      u.isWhole = true ∧ u.seconds = t.seconds + secs.toNat) ∧
    ((∃ u, t.addSeconds secs = .ok u) ↔ t.seconds + secs.toNat ≤ 8210266876799) ∧
    (∀ err, t.addSeconds secs = .error err ↔
      8210266876799 < t.seconds + secs.toNat ∧ err = .timestamp) ∧
    (∀ u, t.addSeconds secs = .ok u → u.secondsSince t = secs.toNat ∧ t.secondsSince u = 0) ∧
    (∀ now, now.isWhole = true → t ≤ now →
      (Policy.inCooldown (some t) now secs = true ↔ now.seconds < t.seconds + secs.toNat) ∧
      ∀ u, t.addSeconds secs = .ok u →
        (Policy.inCooldown (some t) now secs = true ↔ now < u)) := by
  refine ⟨fun u => Timestamp.addSeconds_eq_ok_iff_of_isWhole ht, Timestamp.exists_addSeconds_iff,
    fun err => Timestamp.addSeconds_eq_error_iff,
    fun u => Timestamp.secondsSince_of_addSeconds, fun now hnow hle => ⟨?_, fun u hadd => ?_⟩⟩
  · exact Policy.inCooldown_iff_seconds_lt ((Timestamp.le_iff_of_isWhole ht hnow).1 hle)
  · exact Policy.inCooldown_iff_lt_of_addSeconds ht hnow hle hadd

/-- The last second of the calendar. -/
def Sample.calendarEnd : Timestamp := (Timestamp.ofEpoch? Timestamp.lastSecond).get (by decide)

/-- A cooldown of the most seconds that there are has no last instant, and goes on to the end. The
seconds up to there are the most that can be added. -/
theorem cooldown_outlasts_calendar :
    Sample.newYear.addSeconds 8208499651199 = .ok Sample.calendarEnd ∧
    Sample.newYear.addSeconds 8208499651200 = .error .timestamp ∧
    Sample.newYear.addSeconds 18446744073709551615 = .error .timestamp ∧
    Policy.inCooldown (some Sample.newYear) Sample.calendarEnd 8208499651199 = false ∧
    Policy.inCooldown (some Sample.newYear) Sample.calendarEnd 18446744073709551615 = true := by
  have hwhole : Sample.newYear.isWhole = true := by decide
  obtain ⟨hreached, -, -, -, hcooldown⟩ := deadlines_are_exact hwhole 8208499651199
  obtain ⟨-, -, hpast, -⟩ := deadlines_are_exact hwhole 8208499651200
  obtain ⟨-, -, hlongest, -, hendless⟩ := deadlines_are_exact hwhole 18446744073709551615
  obtain ⟨hends, -⟩ := hcooldown Sample.calendarEnd (by decide) (by decide)
  obtain ⟨hlasts, -⟩ := hendless Sample.calendarEnd (by decide) (by decide)
  exact ⟨(hreached _).2 (by decide), (hpast _).2 (by decide), (hlongest _).2 (by decide),
    Bool.eq_false_iff.2 (mt hends.1 (by decide)), hlasts.2 (by decide)⟩

end Arbitration
