import Arbitration.Proofs.Arithmetic
import Arbitration.Timestamp.Text
import Mathlib.Data.List.TakeDrop
import Mathlib.Data.List.TakeWhile
import Mathlib.Tactic.IntervalCases

/-!
# Dates and times as text

What is written for an instant is read back as that instant, if a fraction of a second or more lies
in a leap second; and no other instants are ever read (`Timestamp.read?_text_iff`). There are two
steps to reading back. The date with a number has that number (`Date.toDays_ofDays`) and exists: a
day is found by centuries, by four years, by years and by days, and what remains at each of these is
small enough (`Date.exists_parts`). And the text of a date and a time is read from the front, field
by field, each up to the character that ends it.
-/

namespace Arbitration

namespace Date

/-! ### Days -/

/-- A day of the four hundred years is a day of a year of four years of a century. The last day of
a century is missing but in the last one, and only the last of four years has a leap day. -/
theorem exists_parts {k : Int} (hfirst : 0 ≤ k) (hlast : k < 146097) :
    ∃ c q r d : Int, (0 ≤ c ∧ c ≤ 3) ∧ (0 ≤ q ∧ q ≤ 24) ∧ (0 ≤ r ∧ r ≤ 3) ∧
      (0 ≤ d ∧ d ≤ 365) ∧ k = 36524 * c + 1461 * q + 365 * r + d ∧
      (d = 365 → r = 3 ∧ (q = 24 → c = 3)) := by
  obtain ⟨c, hc⟩ : ∃ c, c = if k = 146096 then 3 else k / 36524 := ⟨_, rfl⟩
  obtain ⟨q, hq⟩ : ∃ q, q = (k - 36524 * c) / 1461 := ⟨_, rfl⟩
  obtain ⟨r, hr⟩ : ∃ r, r = min ((k - 36524 * c - 1461 * q) / 365) 3 := ⟨_, rfl⟩
  refine ⟨c, q, r, k - 36524 * c - 1461 * q - 365 * r, ?_, ?_, ?_, ?_, by omega, ?_⟩ <;> omega

/-- The year that a day of the four hundred years lies in. -/
theorem yearOfCycle_eq {k c q r d : Int} (hc : 0 ≤ c ∧ c ≤ 3) (hq : 0 ≤ q ∧ q ≤ 24)
    (hr : 0 ≤ r ∧ r ≤ 3) (hd : 0 ≤ d ∧ d ≤ 365)
    (hk : k = 36524 * c + 1461 * q + 365 * r + d) (hleap : d = 365 → r = 3 ∧ (q = 24 → c = 3)) :
    (k - k / 1460 + k / 36524 - k / 146096) / 365 = 100 * c + 4 * q + r := by
  have hquads : k / 1460 = 25 * c + q + (24 * c + q + 365 * r + d) / 1460 := by omega
  by_cases hlast : k = 146096
  · omega
  · have hcenturies : k / 36524 = c := by omega
    have hcycle : k / 146096 = 0 := by omega
    rw [hquads, hcenturies, hcycle]
    omega

/-- What the years of four hundred come to in fours and in hundreds. -/
theorem year_quotients {c q r : Int} (hc : 0 ≤ c ∧ c ≤ 3) (hq : 0 ≤ q ∧ q ≤ 24)
    (hr : 0 ≤ r ∧ r ≤ 3) (era : Int) :
    (100 * c + 4 * q + r) / 4 = 25 * c + q ∧ (100 * c + 4 * q + r) / 100 = c ∧
      (100 * c + 4 * q + r + era * 400) / 400 = era ∧
      (100 * c + 4 * q + r + era * 400) % 400 = 100 * c + 4 * q + r := by
  refine ⟨?_, ?_, ?_, ?_⟩ <;> omega

/-- The date of a day of a year that begins in March. -/
def ofYearDay (year day : Int) : Date :=
  let monthOfYear := (5 * day + 2) / 153
  let month := if monthOfYear < 10 then monthOfYear + 3 else monthOfYear - 9
  ⟨if month ≤ 2 then year + 1 else year, month.toNat,
    (day - (153 * monthOfYear + 2) / 5 + 1).toNat⟩

/-- The number of the first day of a year that begins in March. -/
def yearStart (year : Int) : Int :=
  year / 400 * 146097 + year % 400 * 365 + year % 400 / 4 - year % 400 / 100 - 719468

/-- The date with a number lies in some year, not after its last day. -/
theorem exists_ofYearDay (n : Int) : ∃ year day : Int, ofDays n = ofYearDay year day ∧
    (0 ≤ day ∧ day ≤ 365) ∧ (day = 365 → isLeapYear (year + 1) = true) ∧
    n = yearStart year + day := by
  obtain ⟨k, hk⟩ : ∃ k, k = (n + daysToEpoch) % daysInCycle := ⟨_, rfl⟩
  obtain ⟨era, hera⟩ : ∃ era, era = (n + daysToEpoch) / daysInCycle := ⟨_, rfl⟩
  have hn : 146097 * era + k = n + 719468 := by
    rw [hera, hk]
    exact Int.mul_ediv_add_emod _ _
  have hrange : 0 ≤ k ∧ k < 146097 := by
    rw [hk]
    exact ⟨Int.emod_nonneg _ (by decide), Int.emod_lt_of_pos _ (by decide)⟩
  obtain ⟨c, q, r, d, hc, hq, hr, hd, hparts, hleap⟩ := exists_parts hrange.1 hrange.2
  have hyear := yearOfCycle_eq hc hq hr hd hparts hleap
  obtain ⟨hfours, hhundreds, hcycle, hrest⟩ := year_quotients hc hq hr era
  refine ⟨100 * c + 4 * q + r + era * 400, d, ?_, hd, fun hlast => ?_, ?_⟩
  · have hday : k - (365 * (100 * c + 4 * q + r) + (25 * c + q) - c) = d := by
      clear hk hera hyear
      omega
    unfold ofDays ofYearDay
    dsimp only
    rw [← hk, ← hera, hyear, hfours, hhundreds, hday]
  · obtain ⟨hthird, hcentury⟩ := hleap hlast
    have hfour : (100 * c + 4 * q + r + era * 400 + 1) % 4 = 0 := by
      clear hk hera hyear hparts
      omega
    have hhundred : (100 * c + 4 * q + r + era * 400 + 1) % 100 = 0 →
        (100 * c + 4 * q + r + era * 400 + 1) % 400 = 0 := by
      clear hk hera hyear hparts hfour
      omega
    simp only [isLeapYear, hfour, beq_self_eq_true, Bool.true_and, Bool.or_eq_true, bne_iff_ne,
      beq_iff_eq]
    exact Decidable.or_iff_not_imp_left.2 fun h => hhundred (Decidable.not_not.1 h)
  · rw [yearStart, hcycle, hrest, hfours, hhundreds]
    clear hk hera hyear
    omega

/-- The months of a year that begins in March follow one another without a gap. -/
theorem exists_month {day : Int} (hday : 0 ≤ day ∧ day ≤ 365) :
    ∃ m : Int, m = (5 * day + 2) / 153 ∧ (0 ≤ m ∧ m ≤ 11) ∧ (153 * m + 2) / 5 ≤ day ∧
      day < (153 * (m + 1) + 2) / 5 :=
  ⟨_, rfl, by omega, by omega, by omega⟩

theorem toDays_ofYearDay {year day : Int} (hday : 0 ≤ day ∧ day ≤ 365) :
    (ofYearDay year day).toDays = yearStart year + day := by
  obtain ⟨m, hm, hrange, hle, -⟩ := exists_month hday
  have hday' : ((day - (153 * m + 2) / 5 + 1).toNat : Int) = day - (153 * m + 2) / 5 + 1 :=
    Int.toNat_of_nonneg (by omega)
  rw [toDays, ofYearDay, ← hm]
  dsimp only
  rw [hday']
  -- January and February belong to the year before
  by_cases hlate : m < 10
  · have hmonth : ((m + 3).toNat : Int) = m + 3 := Int.toNat_of_nonneg (by omega)
    have hback : (m + 3 + 9) % 12 = m := by omega
    rw [if_pos hlate, if_neg (by omega), if_neg (by omega), hmonth, hback, yearStart, daysInCycle,
      daysToEpoch]
    omega
  · have hmonth : ((m - 9).toNat : Int) = m - 9 := Int.toNat_of_nonneg (by omega)
    have hback : (m - 9 + 9) % 12 = m := by omega
    rw [if_neg hlate, if_pos (by omega), if_pos (by omega), hmonth, hback, Int.add_sub_cancel,
      yearStart, daysInCycle, daysToEpoch]
    omega

theorem exists?_iff {d : Date} : d.exists? = true ↔
    1 ≤ d.month ∧ d.month ≤ 12 ∧ 1 ≤ d.day ∧ d.day ≤ daysInMonth d.year d.month := by
  simp only [exists?, Bool.and_eq_true, decide_eq_true_eq, and_assoc]

theorem daysInMonth_le (year : Int) (month : Nat) : daysInMonth year month ≤ 31 := by
  unfold daysInMonth
  split
  · split <;> decide
  all_goals decide

/-- Every month but February, the last one, ends the day before the next one begins. -/
theorem daysInMonth_eq {k : Nat} (hk : k < 11) (year : Int) :
    (daysInMonth year (if k < 10 then k + 3 else k - 9) : Int) =
      (153 * (k + 1) + 2) / 5 - (153 * k + 2) / 5 := by
  interval_cases k <;> rfl

theorem exists?_ofYearDay {year day : Int} (hday : 0 ≤ day ∧ day ≤ 365)
    (hleap : day = 365 → isLeapYear (year + 1) = true) : (ofYearDay year day).exists? = true := by
  obtain ⟨m, hm, hrange, hle, hlt⟩ := exists_month hday
  obtain ⟨k, rfl⟩ : ∃ k : Nat, m = k := Int.eq_ofNat_of_zero_le hrange.1
  have hmonth : (if (k : Int) < 10 then (k : Int) + 3 else k - 9).toNat =
      if k < 10 then k + 3 else k - 9 := by
    split_ifs <;> omega
  rw [ofYearDay, ← hm, exists?_iff]
  dsimp only
  rw [hmonth]
  by_cases hlast : k = 11
  · subst hlast
    -- the last day of a year that begins in March is there in some years only
    have hshort : isLeapYear (year + 1) = false → day ≠ 365 := fun hyear h => by
      rw [hleap h] at hyear
      cases hyear
    have hdays : (day - (153 * 11 + 2) / 5 + 1).toNat ≤ daysInMonth (year + 1) 2 := by
      rw [daysInMonth]
      cases hyear : isLeapYear (year + 1) with
      | true => rw [if_pos rfl]; omega
      | false =>
        have := hshort hyear
        rw [if_neg Bool.false_ne_true]
        omega
    exact ⟨by decide, by decide, by omega, hdays⟩
  · have hlength := daysInMonth_eq (k := k) (by omega)
      (if (if (k : Int) < 10 then (k : Int) + 3 else k - 9) ≤ 2 then year + 1 else year)
    refine ⟨?_, ?_, by omega, by omega⟩ <;> split_ifs <;> omega

/-- **The number of the date with a number.** -/
theorem toDays_ofDays (n : Int) : (ofDays n).toDays = n := by
  obtain ⟨year, day, hdate, hday, -, hn⟩ := exists_ofYearDay n
  rw [hdate, toDays_ofYearDay hday, hn]

/-- And that date exists. -/
theorem exists?_ofDays (n : Int) : (ofDays n).exists? = true := by
  obtain ⟨year, day, hdate, hday, hleap, -⟩ := exists_ofYearDay n
  rw [hdate, exists?_ofYearDay hday hleap]

end Date

namespace Timestamp

/-! ### Digits -/

/-- The characters of a padded number. -/
def paddedChars (width n : Nat) : List Char :=
  List.replicate (width - (Nat.toDigits 10 n).length) '0' ++ Nat.toDigits 10 n

theorem toList_padded (width n : Nat) : (padded width n).toList = paddedChars width n :=
  String.toList_ofList

theorem isDigit_of_mem_paddedChars {width n : Nat} {c : Char} (h : c ∈ paddedChars width n) :
    c.isDigit = true := by
  rcases List.mem_append.1 h with hzero | hdigit
  · rw [List.eq_of_mem_replicate hzero]
    rfl
  · exact Nat.isDigit_of_mem_toDigits (by decide) (by decide) hdigit

/-- Zeros in front do not count. -/
theorem digitsValue_paddedChars (width n : Nat) : digitsValue (paddedChars width n) = n := by
  show Nat.ofDigitChars 10 (paddedChars width n) 0 = n
  rw [paddedChars, Nat.ofDigitChars_append, Nat.ofDigitChars_replicate_zero, Nat.mul_zero,
    Nat.ofDigitChars_ten_toDigits]

theorem length_paddedChars (width n : Nat) :
    (paddedChars width n).length = max width (Nat.toDigits 10 n).length := by
  rw [paddedChars, List.length_append, List.length_replicate]
  omega

/-- A number that fits the width takes just that. -/
theorem length_paddedChars_of_lt {width n : Nat} (hwidth : 0 < width) (h : n < 10 ^ width) :
    (paddedChars width n).length = width := by
  have hle := (Nat.length_toDigits_le_iff (by decide) hwidth).2 h
  rw [length_paddedChars]
  omega

/-- **A number is read up to the first character that is no digit**, if it has neither too few
digits nor too many. -/
theorem number_append {least : Nat} {most : Option Nat} {ds : List Char}
    (hdigits : ∀ d ∈ ds, d.isDigit = true) (hleast : least ≤ ds.length)
    (hmost : ∀ m ∈ most, ds.length ≤ m) {c : Char} (hc : c.isDigit = false) (rest : List Char) :
    number least most (ds ++ c :: rest) = .ok (digitsValue ds, c :: rest) := by
  have hall : (ds ++ c :: rest).takeWhile Char.isDigit = ds := by
    rw [List.takeWhile_append_of_pos hdigits, List.takeWhile_cons_of_neg (by simp [hc]),
      List.append_nil]
  -- a bound on the number of digits does not cut off any
  have hwindow : ∀ m ∈ most, ((ds ++ c :: rest).take m).takeWhile Char.isDigit = ds := by
    intro m hm
    rw [List.take_append, List.take_of_length_le (hmost m hm),
      List.takeWhile_append_of_pos hdigits]
    cases m - ds.length with
    | zero => rw [List.take_zero, List.takeWhile_nil, List.append_nil]
    | succ k => rw [List.take_succ_cons, List.takeWhile_cons_of_neg (by simp [hc]), List.append_nil]
  have hlength : ¬ (ds ++ c :: rest).length < least := by
    rw [List.length_append]
    omega
  unfold number
  rw [if_neg hlength]
  cases most with
  | none => simp only [hall, if_neg (Nat.not_lt.2 hleast), List.drop_left]
  | some m => simp only [hwindow m rfl, if_neg (Nat.not_lt.2 hleast), List.drop_left]

/-- A digit is no blank. -/
theorem isBlank_of_isDigit {c : Char} (h : c.isDigit = true) : Text.isBlank c = false := by
  simp only [Char.isDigit, Bool.and_eq_true, decide_eq_true_eq] at h
  have hlow : 48 ≤ c.toNat := h.1
  have hhigh : c.toNat ≤ 57 := h.2
  simp only [Text.isBlank, Text.inRanges, Text.blankRanges, List.any_cons, List.any_nil,
    Bool.or_eq_false_iff, Bool.and_eq_false_iff, decide_eq_false_iff_not]
  refine ⟨?_, ?_, ?_, ?_, ?_, ?_, ?_, ?_, ?_, ?_, trivial⟩ <;> omega

/-- So a number is not moved by looking for blanks before it. -/
theorem dropWhile_isBlank_digits {ds rest : List Char} (hdigits : ∀ d ∈ ds, d.isDigit = true)
    (hne : 0 < ds.length) : (ds ++ rest).dropWhile Text.isBlank = ds ++ rest := by
  cases ds with
  | nil => cases hne
  | cons d ds =>
    have hd := isBlank_of_isDigit (hdigits d List.mem_cons_self)
    exact List.dropWhile_cons_of_neg (by simp [hd])

/-- Two digits, as months, days, hours, minutes and seconds are written. -/
theorem laxPair_padded {n : Nat} (hn : n < 100) {c : Char} (hc : c.isDigit = false)
    (rest : List Char) : laxPair (paddedChars 2 n ++ c :: rest) = .ok (n, c :: rest) := by
  have hlength : (paddedChars 2 n).length = 2 := length_paddedChars_of_lt (by decide) hn
  have hdigits : ∀ d ∈ paddedChars 2 n, d.isDigit = true := fun d => isDigit_of_mem_paddedChars
  have hmost : ∀ m ∈ some 2, (paddedChars 2 n).length ≤ m := fun m hm => by
    cases hm
    exact hlength.le
  rw [laxPair, dropWhile_isBlank_digits hdigits (by omega),
    number_append hdigits (by omega) hmost hc, digitsValue_paddedChars]

/-- A year without a sign is read as one. -/
theorem laxYear_digits {ds rest : List Char} (hdigits : ∀ d ∈ ds, d.isDigit = true)
    (hne : 0 < ds.length) :
    laxYear (ds ++ rest) = (number 1 (some 4) (ds ++ rest)).map (fun r => ((r.1 : Int), r.2)) := by
  rw [laxYear, dropWhile_isBlank_digits hdigits hne]
  cases ds with
  | nil => cases hne
  | cons d ds =>
    have hd := hdigits d List.mem_cons_self
    rw [List.cons_append]
    split
    · rename_i hsign
      cases hsign
      cases hd
    · rename_i hsign
      cases hsign
      cases hd
    · cases number 1 (some 4) (d :: (ds ++ rest)) <;> rfl

/-- A year, with the sign that it needs. -/
theorem laxYear_yearText (year : Int) (rest : List Char) :
    laxYear ((yearText year).toList ++ '-' :: rest) = .ok (year, '-' :: rest) := by
  have hdigits : ∀ n : Nat, ∀ d ∈ paddedChars 4 n, d.isDigit = true :=
    fun n d => isDigit_of_mem_paddedChars
  have hlength : ∀ n : Nat, 4 ≤ (paddedChars 4 n).length := fun n => by
    rw [length_paddedChars]
    exact Nat.le_max_left _ _
  -- after a sign any number of digits is read
  have hsigned : ∀ n : Nat, number 1 none (paddedChars 4 n ++ '-' :: rest) =
      .ok (n, '-' :: rest) := fun n => by
    have := hlength n
    rw [number_append (hdigits n) (by omega) (fun _ hm => absurd hm (Option.not_mem_none _)) rfl,
      digitsValue_paddedChars]
  unfold yearText
  split
  · rename_i hrange
    obtain ⟨n, rfl⟩ := Int.eq_ofNat_of_zero_le hrange.1
    have hfour : (paddedChars 4 n).length = 4 :=
      length_paddedChars_of_lt (by decide) (by have := hrange.2; omega)
    have hmost : ∀ m ∈ some 4, (paddedChars 4 n).length ≤ m := fun m hm => by
      cases hm
      exact hfour.le
    rw [Int.toNat_natCast, toList_padded, laxYear_digits (hdigits n) (by omega),
      number_append (hdigits n) (by omega) hmost rfl, digitsValue_paddedChars]
    rfl
  · rw [String.toList_append, toList_padded]
    split
    · have hyear : -(year.natAbs : Int) = year := by omega
      show (number 1 none (paddedChars 4 year.natAbs ++ '-' :: rest)).bind _ = _
      rw [hsigned]
      show Except.ok (-(year.natAbs : Int), '-' :: rest) = _
      rw [hyear]
    · have hyear : (year.natAbs : Int) = year := by omega
      show (number 1 none (paddedChars 4 year.natAbs ++ '-' :: rest)).bind _ = _
      rw [hsigned]
      show Except.ok ((year.natAbs : Int), '-' :: rest) = _
      rw [hyear]

/-- The digits after the point, of which there are at most nine. -/
theorem fraction_digits {ds : List Char} (hdigits : ∀ d ∈ ds, d.isDigit = true)
    (hone : 1 ≤ ds.length) (hnine : ds.length ≤ 9) {c : Char} (hc : c.isDigit = false)
    (rest : List Char) :
    fraction (ds ++ c :: rest) = .ok (digitsValue ds * 10 ^ (9 - ds.length), c :: rest) := by
  have hmost : ∀ m ∈ some 9, ds.length ≤ m := fun m hm => by
    cases hm
    exact hnine
  have hread : (ds ++ c :: rest).length - (c :: rest).length = ds.length := by
    rw [List.length_append, Nat.add_sub_cancel]
  have hdrop : (c :: rest).dropWhile Char.isDigit = c :: rest :=
    List.dropWhile_cons_of_neg (by simp [hc])
  show (number 1 (some 9) (ds ++ c :: rest)).bind _ = _
  rw [number_append hdigits hone hmost hc]
  show Except.ok (digitsValue ds * Nat.pow 10 (9 - ((ds ++ c :: rest).length -
    (c :: rest).length)), (c :: rest).dropWhile Char.isDigit) = _
  rw [hread, hdrop]
  rfl

/-- A fraction of a second, up to what follows it. -/
theorem optionalFraction_fractionText {nanos : Nat} (h : nanos < 1000000000) (rest : List Char) :
    optionalFraction ((fractionText nanos).toList ++ 'Z' :: rest) = .ok (nanos, 'Z' :: rest) := by
  -- as many digits as the fraction needs, three, six or nine
  have hpoint : ∀ width n, 1 ≤ width → width ≤ 9 → n < 10 ^ width → n * 10 ^ (9 - width) = nanos →
      optionalFraction (("." ++ padded width n).toList ++ 'Z' :: rest) =
        .ok (nanos, 'Z' :: rest) := by
    intro width n hone hnine hn hnanos
    have hlength := length_paddedChars_of_lt hone hn
    rw [String.toList_append, toList_padded]
    show fraction (paddedChars width n ++ 'Z' :: rest) = _
    rw [fraction_digits (fun d => isDigit_of_mem_paddedChars) (by omega) (by omega) rfl, hlength,
      digitsValue_paddedChars, hnanos]
  unfold fractionText
  split_ifs with hzero hmillis hmicros
  · rw [hzero]
    rfl
  · exact hpoint 3 _ (by decide) (by decide) (by omega) (by omega)
  · exact hpoint 6 _ (by decide) (by decide) (by omega) (by omega)
  · exact hpoint 9 _ (by decide) (by decide) h (Nat.mul_one _)

/-- A fraction and what follows it do not begin with a digit. -/
theorem exists_fractionText_append (nanos : Nat) (rest : List Char) :
    ∃ c cs, (fractionText nanos).toList ++ 'Z' :: rest = c :: cs ∧ c.isDigit = false := by
  unfold fractionText
  split_ifs
  · exact ⟨'Z', _, rfl, rfl⟩
  all_goals
    rw [String.toList_append]
    exact ⟨'.', _, rfl, rfl⟩

/-! ### Instants -/

/-- A fraction of a second or more belongs to a leap second, and that is the last of a minute.
Clock readings are such instants, and text that is read gives no others. -/
def Regular (t : Timestamp) : Prop := t.nanos < 1000000000 ∨ t.seconds % 60 = 59

instance (t : Timestamp) : Decidable t.Regular := inferInstanceAs (Decidable (_ ∨ _))

/-- The characters of an instant. -/
theorem toList_text (t : Timestamp) : t.text.toList =
    (yearText t.date.year).toList ++ '-' :: (paddedChars 2 t.date.month ++ '-' ::
      (paddedChars 2 t.date.day ++ 'T' :: (paddedChars 2 (t.secondOfDay / 3600) ++ ':' ::
        (paddedChars 2 (t.secondOfDay / 60 % 60) ++ ':' ::
          (paddedChars 2 (t.secondOfDay % 60 + t.nanos / 1000000000) ++
            ((fractionText (t.nanos % 1000000000)).toList ++ ['Z'])))))) := by
  simp only [text, isoChars, String.toList_append, toList_padded, String.reduceToList,
    List.append_assoc, List.cons_append, List.nil_append]

/-- The date of an instant exists, so its month and its day have two digits. -/
theorem date_lt (t : Timestamp) : t.date.month < 100 ∧ t.date.day < 100 := by
  have hexists := Date.exists?_iff.1 (Date.exists?_ofDays (t.seconds / 86400))
  have hlength := Date.daysInMonth_le (Date.ofDays (t.seconds / 86400)).year
    (Date.ofDays (t.seconds / 86400)).month
  exact ⟨by rw [date]; omega, by rw [date]; omega⟩

/-- The instant of its own date and time. -/
theorem ofCivil_date {t : Timestamp} (h : t.Regular) :
    ofCivil t.date (t.secondOfDay / 3600) (t.secondOfDay / 60 % 60)
      (t.secondOfDay % 60 + t.nanos / 1000000000) (t.nanos % 1000000000) 0 = .ok t := by
  have hlt := t.nanos_lt
  have hday : (t.secondOfDay : Int) = t.seconds % 86400 := Int.toNat_of_nonneg (by omega)
  have hself : ofParts? t.seconds t.nanos = some t := ofParts?_eq_some_iff.2 ⟨rfl, rfl⟩
  have hdays : t.date.toDays = t.seconds / 86400 := Date.toDays_ofDays _
  have hexists : t.date.exists? = true := Date.exists?_ofDays _
  -- the sixtieth second is read exactly where the fraction is that of a leap second
  by_cases hleap : t.nanos < 1000000000
  · have hwhole : t.nanos / 1000000000 = 0 := by omega
    have hfraction : t.nanos % 1000000000 = t.nanos := by omega
    have hsecond : (t.secondOfDay % 60 == 60) = false := beq_false_of_ne (by omega)
    have hsum : 86400 * (t.seconds / 86400) + (3600 * (t.secondOfDay / 3600 : Nat) +
        60 * (t.secondOfDay / 60 % 60 : Nat) + (t.secondOfDay % 60 : Nat) : Int) = t.seconds := by
      omega
    simp only [ofCivil, hexists, Bool.not_true, Bool.false_eq_true, if_false, hwhole, Nat.add_zero,
      hsecond, hfraction, hdays, hsum, hself, Int.sub_zero]
  · have hwhole : t.nanos / 1000000000 = 1 := by omega
    have hfraction : t.nanos % 1000000000 + 1000000000 = t.nanos := by omega
    have hminute : t.secondOfDay % 60 = 59 := by
      have := h.resolve_left hleap
      omega
    have hsum : 86400 * (t.seconds / 86400) + (3600 * (t.secondOfDay / 3600 : Nat) +
        60 * (t.secondOfDay / 60 % 60 : Nat) + (59 : Nat) : Int) = t.seconds := by
      omega
    simp only [ofCivil, hexists, Bool.not_true, Bool.false_eq_true, if_false, hwhole, hminute,
      Nat.reduceAdd, beq_self_eq_true, if_true, hfraction, hdays, hsum, hself, Int.sub_zero]

/-- **An instant is read back** from what is written for it. -/
theorem read?_text {t : Timestamp} (h : t.Regular) : read? t.text = some t := by
  obtain ⟨hmonth, hday⟩ := t.date_lt
  have hsecond : t.secondOfDay < 86400 := by
    rw [secondOfDay]
    omega
  have hhours : t.secondOfDay / 3600 < 24 := by omega
  have hhour : t.secondOfDay / 3600 < 100 := by omega
  have hminutes : t.secondOfDay / 60 % 60 < 60 := by omega
  have hminute : t.secondOfDay / 60 % 60 < 100 := by omega
  have hsixty : t.secondOfDay % 60 + t.nanos / 1000000000 ≤ 60 := by
    have := t.nanos_lt
    omega
  have hliteral : ∀ c rest, Text.isBlank c = false → laxLiteral c (c :: rest) = .ok rest := by
    intro c rest hc
    rw [laxLiteral, List.dropWhile_cons_of_neg (by simp [hc]), literal, if_pos rfl]
  have hwithin : ∀ {p : Prop} [Decidable p], p → within (decide p) = .ok () := by
    intro p _ hp
    rw [within, if_pos (decide_eq_true hp)]
  obtain ⟨c, cs, hnext, hc⟩ := exists_fractionText_append (t.nanos % 1000000000) []
  have hfraction := optionalFraction_fractionText (Nat.mod_lt t.nanos (by decide)) []
  rw [hnext] at hfraction
  have hread : readLax t.text.toList = .ok t := by
    rw [toList_text, hnext, readLax]
    simp only [bind, Except.bind, laxYear_yearText, hliteral '-' _ rfl, hliteral ':' _ rfl,
      laxPair_padded hmonth (c := '-') rfl, laxPair_padded hday (c := 'T') rfl,
      laxPair_padded hhour (c := ':') rfl, laxPair_padded hminute (c := ':') rfl,
      laxPair_padded (Nat.lt_of_le_of_lt hsixty (by decide)) hc, dateTimeSeparator, true_or,
      if_true, hwithin hhours, hwithin hminutes, hwithin hsixty, hfraction]
    show ofCivil t.date _ _ _ _ 0 = _
    exact ofCivil_date h
  rw [read?, hread]
  rfl

/-! ### What is read -/

/-- Some digits stand for less than the power of ten of their number. -/
theorem digitsValue_lt {ds : List Char} (hdigits : ∀ d ∈ ds, d.isDigit = true) :
    digitsValue ds < 10 ^ ds.length := by
  have hfold : ∀ n, ds.foldl (fun n c => 10 * n + (c.toNat - 48)) n < (n + 1) * 10 ^ ds.length := by
    induction ds with
    | nil =>
      intro n
      rw [List.foldl_nil, List.length_nil, Nat.pow_zero, Nat.mul_one]
      exact Nat.lt_succ_self n
    | cons d ds ih =>
      intro n
      obtain ⟨hd, hds⟩ := List.forall_mem_cons.1 hdigits
      have hnine : d.toNat - 48 ≤ 9 := by
        simp only [Char.isDigit, Bool.and_eq_true, decide_eq_true_eq] at hd
        have hhigh : d.toNat ≤ 57 := hd.2
        omega
      calc (d :: ds).foldl (fun n c => 10 * n + (c.toNat - 48)) n
          < (10 * n + (d.toNat - 48) + 1) * 10 ^ ds.length := ih hds _
        _ ≤ (n + 1) * 10 * 10 ^ ds.length := Nat.mul_le_mul_right _ (by omega)
        _ = (n + 1) * 10 ^ (d :: ds).length := by
          rw [List.length_cons, Nat.pow_succ', Nat.mul_assoc]
  have hlt := hfold 0
  rwa [Nat.zero_add, Nat.one_mul] at hlt

/-- A number that is read is that of some digits at the front, and no more than allowed. -/
theorem exists_of_number {least : Nat} {most : Option Nat} {cs rest : List Char} {n : Nat}
    (h : number least most cs = .ok (n, rest)) :
    ∃ ds : List Char, (∀ d ∈ ds, d.isDigit = true) ∧ (∀ m ∈ most, ds.length ≤ m) ∧
      ds.length ≤ cs.length ∧ n = digitsValue ds ∧ rest = cs.drop ds.length := by
  unfold number at h
  split_ifs at h
  cases most with
  | none =>
    dsimp only at h
    split_ifs at h
    cases h
    exact ⟨_, fun d => List.mem_takeWhile_imp, fun m hm => absurd hm (Option.not_mem_none m),
      (List.takeWhile_sublist _).length_le, rfl, rfl⟩
  | some m =>
    dsimp only at h
    split_ifs at h
    cases h
    have hwindow := (List.takeWhile_sublist Char.isDigit (l := cs.take m)).length_le
    rw [List.length_take] at hwindow
    refine ⟨_, fun d => List.mem_takeWhile_imp, fun m' hm' => ?_, by omega, rfl, rfl⟩
    cases hm'
    omega

/-- A fraction is less than a second. -/
theorem fraction_lt {cs rest : List Char} {nanos : Nat} (h : fraction cs = .ok (nanos, rest)) :
    nanos < 1000000000 := by
  obtain ⟨⟨n, rest'⟩, hnumber, hpure⟩ := bind_eq_ok_iff.1 h
  obtain ⟨ds, hdigits, hmost, hlength, rfl, rfl⟩ := exists_of_number hnumber
  obtain ⟨rfl, -⟩ := Prod.mk.inj (pure_eq_ok_iff.1 hpure)
  have hnine : ds.length ≤ 9 := hmost 9 rfl
  have hread : cs.length - (cs.drop ds.length).length = ds.length := by
    rw [List.length_drop]
    omega
  rw [hread]
  calc digitsValue ds * 10 ^ (9 - ds.length)
      < 10 ^ ds.length * 10 ^ (9 - ds.length) :=
        Nat.mul_lt_mul_of_pos_right (digitsValue_lt hdigits) (Nat.pow_pos (by decide))
    _ = 1000000000 := by rw [← Nat.pow_add, Nat.add_sub_cancel' hnine]

theorem optionalFraction_lt {cs rest : List Char} {nanos : Nat}
    (h : optionalFraction cs = .ok (nanos, rest)) : nanos < 1000000000 := by
  unfold optionalFraction at h
  split at h
  · exact fraction_lt h
  · cases h
    decide

/-- An offset is a number of minutes. -/
theorem offset_emod {lax : Bool} {cs rest : List Char} {off : Int}
    (h : offset lax cs = .ok (off, rest)) : off % 60 = 0 := by
  unfold offset at h
  split at h
  · cases h
  · split at h
    · cases h
      rfl
    · split at h
      · obtain ⟨⟨hours, rest₁⟩, -, h⟩ := bind_eq_ok_iff.1 h
        obtain ⟨rest₂, -, h⟩ := bind_eq_ok_iff.1 h
        obtain ⟨⟨minutes, rest₃⟩, -, h⟩ := bind_eq_ok_iff.1 h
        obtain ⟨-, -, h⟩ := bind_eq_ok_iff.1 h
        obtain ⟨-, -, h⟩ := bind_eq_ok_iff.1 h
        obtain ⟨rfl, -⟩ := Prod.mk.inj (pure_eq_ok_iff.1 h)
        split <;> omega
      · cases h

theorem laxOffset_emod {cs rest : List Char} {off : Int} (h : laxOffset cs = .ok (off, rest)) :
    off % 60 = 0 := by
  unfold laxOffset at h
  split_ifs at h
  · cases h
    rfl
  · exact offset_emod h

/-- An instant of the calendar with a fraction of a second is regular at any such offset. -/
theorem regular_of_ofCivil {d : Date} {hour minute second nanos : Nat} {off : Int} {t : Timestamp}
    (hnanos : nanos < 1000000000) (hoff : off % 60 = 0)
    (h : ofCivil d hour minute second nanos off = .ok t) : t.Regular := by
  unfold ofCivil at h
  split_ifs at h with hexists
  dsimp only at h
  split at h
  · cases h
  · rename_i local' hlocal
    split at h
    · cases h
    · rename_i u hparts
      cases h
      obtain ⟨hlocalSeconds, -⟩ := ofParts?_eq_some_iff.1 hlocal
      obtain ⟨hseconds, hfraction⟩ := ofParts?_eq_some_iff.1 hparts
      rw [Regular, hseconds, hfraction, hlocalSeconds]
      -- the sixtieth second is the last one and a second more
      by_cases hleap : second = 60
      · subst hleap
        refine Or.inr ?_
        simp only [beq_self_eq_true, if_true]
        omega
      · refine Or.inl ?_
        rw [beq_false_of_ne hleap, if_neg Bool.false_ne_true]
        exact hnanos

/-- **Only regular instants** are read. -/
theorem regular_of_read? {s : String} {t : Timestamp} (h : read? s = some t) : t.Regular := by
  have hread : readLax s.toList = .ok t := by
    rw [read?] at h
    cases hlax : readLax s.toList with
    | error fault =>
      rw [hlax] at h
      cases h
    | ok u =>
      rw [hlax] at h
      cases h
      rfl
  -- of the eleven parts only the fraction and the offset matter
  obtain ⟨⟨year, cs₁⟩, -, h⟩ := bind_eq_ok_iff.1 hread
  obtain ⟨cs₂, -, h⟩ := bind_eq_ok_iff.1 h
  obtain ⟨⟨month, cs₃⟩, -, h⟩ := bind_eq_ok_iff.1 h
  obtain ⟨cs₄, -, h⟩ := bind_eq_ok_iff.1 h
  obtain ⟨⟨day, cs₅⟩, -, h⟩ := bind_eq_ok_iff.1 h
  obtain ⟨cs₆, -, h⟩ := bind_eq_ok_iff.1 h
  obtain ⟨⟨hour, cs₇⟩, -, h⟩ := bind_eq_ok_iff.1 h
  obtain ⟨-, -, h⟩ := bind_eq_ok_iff.1 h
  obtain ⟨cs₈, -, h⟩ := bind_eq_ok_iff.1 h
  obtain ⟨⟨minute, cs₉⟩, -, h⟩ := bind_eq_ok_iff.1 h
  obtain ⟨-, -, h⟩ := bind_eq_ok_iff.1 h
  obtain ⟨cs₁₀, -, h⟩ := bind_eq_ok_iff.1 h
  obtain ⟨⟨second, cs₁₁⟩, -, h⟩ := bind_eq_ok_iff.1 h
  obtain ⟨-, -, h⟩ := bind_eq_ok_iff.1 h
  obtain ⟨⟨nanos, cs₁₂⟩, hnanos, h⟩ := bind_eq_ok_iff.1 h
  obtain ⟨⟨off, cs₁₃⟩, hoff, h⟩ := bind_eq_ok_iff.1 h
  exact regular_of_ofCivil (optionalFraction_lt hnanos) (laxOffset_emod hoff)
    (refuse_eq_ok_iff.1 h).2

/-- So these are exactly the instants that are read back. -/
theorem read?_text_iff {t : Timestamp} : read? t.text = some t ↔ t.Regular :=
  ⟨regular_of_read?, read?_text⟩

/-- An instant some seconds later is regular too: it lies in no leap second, unless it is the
same instant. -/
theorem Regular.addSeconds {t u : Timestamp} {secs : UInt64} (h : t.Regular)
    (hadd : t.addSeconds secs = .ok u) : u.Regular := by
  obtain ⟨hseconds, hnanos⟩ := addSeconds_eq_ok_iff.1 hadd
  rw [Regular, hseconds, hnanos, carriedNanos]
  split_ifs with hcarried
  · have hlt := t.nanos_lt
    exact Or.inl (by omega)
  · -- either there is nothing to leave behind, or no second has passed
    by_cases hzero : secs = 0
    · subst hzero
      rw [UInt64.toNat_zero, Int.ofNat_zero, Int.add_zero]
      exact h
    · exact Or.inl (Nat.lt_of_not_le fun hle => hcarried ⟨hle, hzero⟩)

end Timestamp

end Arbitration
