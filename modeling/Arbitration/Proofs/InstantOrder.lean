import Arbitration.Proofs.Instants
import Arbitration.Proofs.Lexicographic
import Mathlib.Data.String.Basic
import Mathlib.Order.Monotone.Basic

/-!
# The order of instants and of their texts

Instants of the years with four digits are in the order of their seconds, of their dates and times,
and of their texts. Days follow one another as their dates do (`Date.before_ofDays_iff`): within a
year that begins in March by counting, and from one year to the next because a year has as many days
as its last month allows (`Date.yearStart_succ`). In the text each field has its own width, so the
first field that differs decides, and there the digits do.
-/

namespace Arbitration

namespace Date

/-! ### Days -/

/-- One date comes before another, by the year, then by the month, then by the day. -/
def Before (d e : Date) : Prop :=
  d.year < e.year ∨ d.year = e.year ∧ (d.month < e.month ∨ d.month = e.month ∧ d.day < e.day)

instance (d e : Date) : Decidable (d.Before e) := inferInstanceAs (Decidable (_ ∨ _))

theorem Before.asymm {d e : Date} (h : d.Before e) : ¬ e.Before d := by
  unfold Before at *
  omega

/-- Dates are the same if their years, months and days are. -/
theorem eq_iff {d e : Date} : d = e ↔ d.year = e.year ∧ d.month = e.month ∧ d.day = e.day := by
  constructor
  · rintro rfl
    exact ⟨rfl, rfl, rfl⟩
  · obtain ⟨year, month, day⟩ := d
    rintro ⟨rfl, rfl, rfl⟩
    rfl

/-- Every year has its days, every fourth one more, but of the full centuries only every fourth. -/
theorem yearStart_eq (year : Int) :
    yearStart year = 365 * year + year / 4 - year / 100 + year / 400 - 719468 := by
  unfold yearStart
  omega

theorem isLeapYear_iff {year : Int} :
    isLeapYear year = true ↔ year % 4 = 0 ∧ (year % 100 = 0 → year % 400 = 0) := by
  simp only [isLeapYear, Bool.and_eq_true, Bool.or_eq_true, beq_iff_eq, bne_iff_ne,
    Decidable.imp_iff_not_or]

theorem yearStart_succ (year : Int) :
    yearStart (year + 1) = yearStart year + if isLeapYear (year + 1) then 366 else 365 := by
  rw [yearStart_eq, yearStart_eq]
  split_ifs with hleap
  · rw [isLeapYear_iff] at hleap
    omega
  · rw [isLeapYear_iff] at hleap
    omega

/-- A day of a year that begins in March comes before every later year. -/
theorem lt_yearStart {year later day : Int} (hday : day ≤ 365)
    (hleap : day = 365 → isLeapYear (year + 1) = true) (h : year < later) :
    yearStart year + day < yearStart later := by
  have hmono : Monotone yearStart := monotone_int_of_le_succ fun y => by
    rw [yearStart_succ]
    split_ifs <;> omega
  have hnext : yearStart year + day < yearStart (year + 1) := by
    rw [yearStart_succ]
    split_ifs with hyear
    · omega
    · have hne : day ≠ 365 := fun hlast => hyear (hleap hlast)
      omega
  exact lt_of_lt_of_le hnext (hmono h)

/-- Within years that begin in March, dates are in the order of the years and of the days. -/
theorem before_ofYearDay {year year' day day' : Int} (hday : 0 ≤ day ∧ day ≤ 365)
    (hday' : 0 ≤ day' ∧ day' ≤ 365) (h : year < year' ∨ year = year' ∧ day < day') :
    (ofYearDay year day).Before (ofYearDay year' day') := by
  obtain ⟨m, hm, hrange, hle, hlt⟩ := exists_month hday
  obtain ⟨m', hm', hrange', hle', hlt'⟩ := exists_month hday'
  unfold Before ofYearDay
  rw [← hm, ← hm']
  dsimp only
  clear hm hm'
  split_ifs <;> omega

/-- **Days are in the order of their dates.** -/
theorem before_ofDays_iff {m n : Int} : (ofDays m).Before (ofDays n) ↔ m < n := by
  have hforward : ∀ {m n : Int}, m < n → (ofDays m).Before (ofDays n) := by
    intro m n h
    obtain ⟨year, day, hdate, hday, hleap, hm⟩ := exists_ofYearDay m
    obtain ⟨year', day', hdate', hday', hleap', hn⟩ := exists_ofYearDay n
    rw [hdate, hdate']
    refine before_ofYearDay hday hday' ?_
    rcases lt_trichotomy year year' with hlt | rfl | hgt
    · exact Or.inl hlt
    · exact Or.inr ⟨rfl, by omega⟩
    · have hlate := lt_yearStart hday'.2 hleap' hgt
      omega
  constructor
  · intro h
    by_contra hle
    rcases lt_or_eq_of_le (not_lt.1 hle) with hlt | rfl
    · exact h.asymm (hforward hlt)
    · exact h.asymm h
  · exact hforward

end Date

namespace Timestamp

/-! ### Digits -/

/-- The first digit counts as often as there are numbers of the digits after it. -/
theorem digitsValue_cons (d : Char) (ds : List Char) :
    digitsValue (d :: ds) = (d.toNat - 48) * 10 ^ ds.length + digitsValue ds := by
  show Nat.ofDigitChars 10 (d :: ds) 0 = _ * _ + Nat.ofDigitChars 10 ds 0
  rw [Nat.ofDigitChars_cons, Nat.ofDigitChars_eq_ofDigitChars_zero, Nat.mul_zero, Nat.zero_add,
    Nat.mul_comm]
  rfl

/-- Numbers of one width are in the order of their digits. -/
theorem digitsValue_lt_of_lt {ds es : List Char} (hds : ∀ d ∈ ds, d.isDigit = true)
    (hes : ∀ e ∈ es, e.isDigit = true) (hlength : ds.length = es.length) (h : ds < es) :
    digitsValue ds < digitsValue es := by
  induction ds generalizing es with
  | nil =>
    rw [List.eq_nil_of_length_eq_zero hlength.symm] at h
    exact absurd h (lt_irrefl _)
  | cons d ds ih =>
    cases es with
    | nil => cases hlength
    | cons e es =>
      obtain ⟨hd, hdigits⟩ := List.forall_mem_cons.1 hds
      obtain ⟨-, hdigits'⟩ := List.forall_mem_cons.1 hes
      have hrest : ds.length = es.length := Nat.succ.inj hlength
      rw [digitsValue_cons, digitsValue_cons, hrest]
      rcases List.cons_lt_cons_iff.1 h with hlt | ⟨rfl, hlt⟩
      · have hcode : d.toNat < e.toNat := hlt
        have hlow : 48 ≤ d.toNat := (Char.isDigit_iff_toNat.1 hd).1
        have hbound := digitsValue_lt hdigits
        have hstep : d.toNat - 48 + 1 ≤ e.toNat - 48 := by omega
        rw [hrest] at hbound
        calc (d.toNat - 48) * 10 ^ es.length + digitsValue ds
            < (d.toNat - 48 + 1) * 10 ^ es.length := by rw [Nat.succ_mul]; omega
          _ ≤ (e.toNat - 48) * 10 ^ es.length := Nat.mul_le_mul_right _ hstep
          _ ≤ (e.toNat - 48) * 10 ^ es.length + digitsValue es := Nat.le_add_right _ _
      · exact Nat.add_lt_add_left (ih hdigits hdigits' hrest hlt) _

section Fields

variable {width m n : Nat}

/-- **Numbers that are padded to one width** are in the order of their texts. -/
theorem paddedChars_lt_iff (hwidth : 0 < width) (hm : m < 10 ^ width) (hn : n < 10 ^ width) :
    paddedChars width m < paddedChars width n ↔ m < n := by
  have hforward : ∀ {m n : Nat}, m < 10 ^ width → n < 10 ^ width →
      paddedChars width m < paddedChars width n → m < n := by
    intro m n hm hn h
    have hlength : (paddedChars width m).length = (paddedChars width n).length := by
      rw [length_paddedChars_of_lt hwidth hm, length_paddedChars_of_lt hwidth hn]
    have hvalue := digitsValue_lt_of_lt (fun d => isDigit_of_mem_paddedChars)
      (fun d => isDigit_of_mem_paddedChars) hlength h
    rwa [digitsValue_paddedChars, digitsValue_paddedChars] at hvalue
  constructor
  · exact hforward hm hn
  · intro h
    rcases lt_trichotomy (paddedChars width m) (paddedChars width n) with hlt | heq | hgt
    · exact hlt
    · have hvalue := congrArg digitsValue heq
      rw [digitsValue_paddedChars, digitsValue_paddedChars] at hvalue
      omega
    · have := hforward hn hm hgt
      omega

/-- A field of the text decides, unless it is the same in both. -/
theorem field_lt_iff (hwidth : 0 < width) (hm : m < 10 ^ width) (hn : n < 10 ^ width) (c : Char)
    (rest rest' : List Char) :
    paddedChars width m ++ c :: rest < paddedChars width n ++ c :: rest' ↔
      m < n ∨ m = n ∧ rest < rest' := by
  have hlength : (paddedChars width m).length = (paddedChars width n).length := by
    rw [length_paddedChars_of_lt hwidth hm, length_paddedChars_of_lt hwidth hn]
  have hsame : paddedChars width m = paddedChars width n ↔ m = n := by
    constructor
    · intro h
      have hvalue := congrArg digitsValue h
      rwa [digitsValue_paddedChars, digitsValue_paddedChars] at hvalue
    · rintro rfl
      rfl
  rw [append_lt_append_iff hlength, paddedChars_lt_iff hwidth hm hn, hsame,
    List.cons_lt_cons_iff]
  simp only [lt_self_iff_false, true_and, false_or]

end Fields

/-! ### Texts -/

/-- A whole second of the years that have four digits. -/
structure Plain (t : Timestamp) : Prop where
  whole : t.isWhole = true
  first : 0 ≤ t.date.year
  last : t.date.year ≤ 9999

section Plain

variable {t u : Timestamp}

theorem Plain.nanos_eq (h : t.Plain) : t.nanos = 0 := eq_of_beq h.whole

/-- The fields of a text, each of its own width. -/
theorem Plain.toList_iso (h : t.Plain) : t.iso.toList =
    paddedChars 4 t.date.year.toNat ++ '-' :: (paddedChars 2 t.date.month ++ '-' ::
      (paddedChars 2 t.date.day ++ 'T' :: (paddedChars 2 (t.secondOfDay / 3600) ++ ':' ::
        (paddedChars 2 (t.secondOfDay / 60 % 60) ++ ':' ::
          (paddedChars 2 (t.secondOfDay % 60) ++ ['Z']))))) := by
  have hyear : yearText t.date.year = padded 4 t.date.year.toNat := if_pos ⟨h.first, h.last⟩
  simp only [iso, isoChars, hyear, h.nanos_eq, Nat.zero_div, Nat.add_zero, String.toList_append,
    toList_padded, String.reduceToList, List.append_assoc, List.cons_append, List.nil_append]

/-- A text has no fewer bytes than characters. -/
theorem length_le_utf8ByteSize (cs : List Char) : cs.length ≤ (String.ofList cs).utf8ByteSize := by
  induction cs with
  | nil => exact Nat.zero_le _
  | cons c cs ih =>
    have hcons : String.ofList (c :: cs) = String.singleton c ++ String.ofList cs := by
      rw [← String.toList_inj]
      simp
    have hpos := c.utf8Size_pos
    rw [hcons, String.utf8ByteSize_append, String.utf8ByteSize_singleton, List.length_cons]
    omega

/-- A number of the width that is asked for, up to what follows it. -/
theorem exactly_padded {width n : Nat} (hwidth : 0 < width) (hn : n < 10 ^ width) {c : Char}
    (hc : c.isDigit = false) (rest : List Char) :
    exactly width (paddedChars width n ++ c :: rest) = .ok (n, c :: rest) := by
  have hlength := length_paddedChars_of_lt hwidth hn
  have hmost : ∀ m ∈ some width, (paddedChars width n).length ≤ m := by
    rintro m ⟨⟩
    exact hlength.le
  rw [exactly, number_append (fun d => isDigit_of_mem_paddedChars) hlength.ge hmost hc,
    digitsValue_paddedChars]

/-- Months and days are counted from one, and there are no more than twelve and thirty-one. -/
theorem date_bounds (t : Timestamp) :
    (1 ≤ t.date.month ∧ t.date.month ≤ 12) ∧ 1 ≤ t.date.day ∧ t.date.day ≤ 31 := by
  have hexists := Date.exists?_iff.1 (Date.exists?_ofDays (t.seconds / 86400))
  have hlength := Date.daysInMonth_le t.date.year t.date.month
  exact ⟨⟨hexists.1, hexists.2.1⟩, hexists.2.2.1, Nat.le_trans hexists.2.2.2 hlength⟩

theorem secondOfDay_lt (t : Timestamp) : t.secondOfDay < 86400 := by
  rw [secondOfDay]
  omega

/-- Each field after the year has two digits. -/
theorem fields_lt (t : Timestamp) : (t.date.month < 100 ∧ t.date.day < 100) ∧
    t.secondOfDay / 3600 < 100 ∧ t.secondOfDay / 60 % 60 < 100 ∧ t.secondOfDay % 60 < 100 := by
  have hlt := t.secondOfDay_lt
  exact ⟨t.date_lt, by omega, by omega, by omega⟩

theorem Plain.year_lt (h : t.Plain) : t.date.year.toNat < 10 ^ 4 := by
  have hlast := h.last
  omega

theorem Plain.length_iso (h : t.Plain) : t.iso.toList.length = 20 := by
  obtain ⟨⟨hmonth, hday⟩, hhour, hminute, hsecond⟩ := t.fields_lt
  have htwo : ∀ {n : Nat}, n < 100 → (paddedChars 2 n).length = 2 := fun hn =>
    length_paddedChars_of_lt (by decide) hn
  rw [h.toList_iso]
  simp only [List.length_append, List.length_cons, List.length_nil,
    length_paddedChars_of_lt (by decide) h.year_lt, htwo hmonth, htwo hday, htwo hhour,
    htwo hminute, htwo hsecond]

/-- The strict form is that of the text. -/
theorem Plain.readStrict_iso (h : t.Plain) : readStrict t.iso.toList = .ok t := by
  obtain ⟨⟨hmonth, hday⟩, hhour, hminute, hsecond⟩ := t.fields_lt
  obtain ⟨hmonths, hdays⟩ := t.date_bounds
  have hlt := t.secondOfDay_lt
  have hsize : ¬ (String.ofList t.iso.toList).utf8ByteSize < 19 := by
    have hle := length_le_utf8ByteSize t.iso.toList
    rw [h.length_iso] at hle
    omega
  have hfour : ∀ rest, exactly 4 (paddedChars 4 t.date.year.toNat ++ '-' :: rest) =
      .ok (t.date.year.toNat, '-' :: rest) := exactly_padded (by decide) h.year_lt rfl
  have htwo : ∀ {n : Nat}, n < 100 → ∀ {c : Char}, c.isDigit = false → ∀ rest,
      exactly 2 (paddedChars 2 n ++ c :: rest) = .ok (n, c :: rest) := fun hn =>
    exactly_padded (by decide) hn
  have hwithin : ∀ {p : Bool}, p = true → within p = .ok () := fun hp => if_pos hp
  have hinMonth : (1 ≤ t.date.month && t.date.month ≤ 12) = true := by simp [hmonths]
  have hinDay : (1 ≤ t.date.day && t.date.day ≤ 31) = true := by simp [hdays]
  have hinHour : (t.secondOfDay / 3600 < 24 : Bool) = true := decide_eq_true (by omega)
  have hinMinute : (t.secondOfDay / 60 % 60 < 60 : Bool) = true := decide_eq_true (by omega)
  have hinSecond : (t.secondOfDay % 60 ≤ 60 : Bool) = true := decide_eq_true (by omega)
  have hdate : (⟨t.date.year.toNat, t.date.month, t.date.day⟩ : Date) = t.date := by
    rw [Int.toNat_of_nonneg h.first]
  have hcivil := ofCivil_date (t := t) (Or.inl (by rw [h.nanos_eq]; decide))
  rw [h.nanos_eq, Nat.zero_div, Nat.zero_mod, Nat.add_zero] at hcivil
  rw [readStrict, if_neg hsize, h.toList_iso]
  simp only [bind, Except.bind, hfour, htwo hmonth (c := '-') rfl, htwo hday (c := 'T') rfl,
    htwo hhour (c := ':') rfl, htwo hminute (c := ':') rfl, htwo hsecond (c := 'Z') rfl, literal,
    dateTimeSeparator, if_true, true_or, hwithin hinMonth, hwithin hinDay, hwithin hinHour,
    hwithin hinMinute, hwithin hinSecond]
  -- a bare `Z` is no fraction and no offset
  show ofCivil ⟨t.date.year.toNat, t.date.month, t.date.day⟩ _ _ _ 0 0 = _
  rw [hdate, hcivil]

/-- **What is written is read back.** -/
theorem Plain.parse_iso (h : t.Plain) : parse t.iso = .ok t := by
  have hlast : t.iso.toList.getLast? = some 'Z' := by
    rw [iso, String.toList_append]
    exact List.getLast?_concat
  have hwhole : t.truncate = t := ext rfl h.nanos_eq.symm
  rw [parse, if_neg (by simp [hlast]), h.readStrict_iso]
  exact congrArg Except.ok hwhole

/-! ### Order -/

/-- Instants are in the order of their dates and of their times of day. -/
theorem seconds_lt_iff : t.seconds < u.seconds ↔
    t.date.Before u.date ∨ t.date = u.date ∧ t.secondOfDay < u.secondOfDay := by
  have hdate : t.date = u.date ↔ t.seconds / 86400 = u.seconds / 86400 := by
    constructor
    · intro h
      have hdays := congrArg Date.toDays h
      rwa [date, date, Date.toDays_ofDays, Date.toDays_ofDays] at hdays
    · intro h
      rw [date, date, h]
  rw [hdate, date, date, Date.before_ofDays_iff, secondOfDay, secondOfDay]
  omega

/-- Instants are in the order of their texts. -/
theorem Plain.iso_lt_iff (h : t.Plain) (h' : u.Plain) :
    t.iso < u.iso ↔ t.seconds < u.seconds := by
  obtain ⟨⟨hmonth, hday⟩, hhour, hminute, hsecond⟩ := t.fields_lt
  obtain ⟨⟨hmonth', hday'⟩, hhour', hminute', hsecond'⟩ := u.fields_lt
  have hfirst := h.first
  have hfirst' := h'.first
  have htwo : ∀ {m n : Nat}, m < 100 → n < 100 → ∀ c rest rest',
      paddedChars 2 m ++ c :: rest < paddedChars 2 n ++ c :: rest' ↔
        m < n ∨ m = n ∧ rest < rest' := fun hm hn => field_lt_iff (by decide) hm hn
  rw [String.lt_iff_toList_lt, h.toList_iso, h'.toList_iso,
    field_lt_iff (by decide) h.year_lt h'.year_lt, htwo hmonth hmonth', htwo hday hday',
    htwo hhour hhour', htwo hminute hminute', htwo hsecond hsecond', seconds_lt_iff, Date.eq_iff,
    Date.Before]
  simp only [lt_self_iff_false, and_false, or_false]
  omega

end Plain

/-- **Instants survive their text.** A whole second of the years 0 to 9999 is read back from its
text, in the strict form, and from its number of seconds. Two of them are in the order of these
numbers and in the order of their texts. -/
theorem text_of_instants_is_faithful {t u : Timestamp} (ht : t.Plain) (hu : u.Plain) :
    parse t.iso = .ok t ∧ ofEpoch t.seconds = .ok t ∧ (t < u ↔ t.seconds < u.seconds) ∧
      (t < u ↔ t.iso < u.iso) := by
  have hself : ofEpoch? t.seconds = some t := ofParts?_eq_some_iff.2 ⟨rfl, ht.nanos_eq⟩
  have hlt : t < u ↔ t.seconds < u.seconds := by
    rw [lt_iff, ht.nanos_eq, hu.nanos_eq]
    simp only [lt_self_iff_false, and_false, or_false]
  refine ⟨ht.parse_iso, ?_, hlt, hlt.trans (ht.iso_lt_iff hu).symm⟩
  rw [ofEpoch, hself]

end Timestamp

namespace Sample

/-- The last second of the leap day of the year zero. -/
def leapDayEnds : Timestamp := (Timestamp.ofEpoch? (-62162035201)).get (by decide)

/-- The second after it. -/
def marchBegins : Timestamp := (Timestamp.ofEpoch? (-62162035200)).get (by decide)

end Sample

/-- The leap day of the year zero ends before March begins, by the texts too. -/
theorem leap_day_precedes_march :
    Sample.leapDayEnds.Plain ∧ Sample.marchBegins.Plain ∧
      Sample.leapDayEnds.iso = "0000-02-29T23:59:59Z" ∧
      Timestamp.parse "0000-02-29T23:59:59Z" = .ok Sample.leapDayEnds ∧
      Sample.leapDayEnds < Sample.marchBegins ∧
      Sample.leapDayEnds.iso < Sample.marchBegins.iso := by
  have ht : Sample.leapDayEnds.Plain := ⟨by decide, by decide, by decide⟩
  have hu : Sample.marchBegins.Plain := ⟨by decide, by decide, by decide⟩
  have hiso : Sample.leapDayEnds.iso = "0000-02-29T23:59:59Z" := by decide +kernel
  obtain ⟨hparse, -, hseconds, htext⟩ := Timestamp.text_of_instants_is_faithful ht hu
  have hlt : Sample.leapDayEnds < Sample.marchBegins := hseconds.2 (by decide)
  rw [hiso] at hparse
  exact ⟨ht, hu, hiso, hparse, hlt, htext.1 hlt⟩

end Arbitration
