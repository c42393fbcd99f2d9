import Arbitration.Proofs.Canonical
import Arbitration.Proofs.Lexicographic
import Mathlib.Data.String.Basic

/-!
# Two orders of keys

A canonical text has the members of an object in the order of their keys **as they are written**,
with quotes and escapes (`Json.WrittenBefore`). RFC 8785 asks for the order of the keys themselves,
by their code units in UTF-16 (`Json.UnitsBefore`). The two differ at the first characters that are
not the same, in three ways and in these only (`Json.overtakes_iff`). The quote that ends a written
key comes after a blank and an exclamation mark, so that a key that goes on with one of these comes
before the key that it begins with. An escaped character is written as a backslash, which comes
after the digits and the capital letters, and two of them are told apart by what is behind it. And
the characters beyond the basic plane have units that come before the last ones of this plane.

Neither the units nor the escapes of one character begin those of another, as either can be read
again. So the first characters that differ decide in both orders.
-/

namespace Arbitration

namespace Json

/-! ### Code units -/

/-- The code units of a character in UTF-16: its code, or a surrogate pair. -/
def codeUnits (c : Char) : List Nat :=
  if c.toNat < 0x10000 then [c.toNat]
  else [0xD800 + (c.toNat - 0x10000) / 1024, 0xDC00 + (c.toNat - 0x10000) % 1024]

/-- The code units of a text. -/
def utf16 (s : String) : List Nat := s.toList.flatMap codeUnits

theorem toNat_range (c : Char) : c.toNat < 0xD800 ∨ 0xDFFF < c.toNat ∧ c.toNat < 0x110000 := c.valid

/-- The reader joins the units of a character again. -/
theorem joinPairs_codeUnits (c : Char) (rest : List Nat) :
    joinPairs (codeUnits c ++ rest) = (joinPairs rest).map (c :: ·) := by
  have hrange := toNat_range c
  unfold codeUnits
  split_ifs with hplane
  · have hhigh : ¬ (0xD800 ≤ c.toNat ∧ c.toNat < 0xDC00) := by omega
    have hlow : ¬ (0xDC00 ≤ c.toNat ∧ c.toNat < 0xE000) := by omega
    rw [List.singleton_append, joinPairs.eq_def]
    simp only [if_neg hhigh, if_neg hlow, Char.ofNat_toNat]
  · have hhigh : 0xD800 ≤ 0xD800 + (c.toNat - 0x10000) / 1024 ∧
        0xD800 + (c.toNat - 0x10000) / 1024 < 0xDC00 := by omega
    have hlow : 0xDC00 ≤ 0xDC00 + (c.toNat - 0x10000) % 1024 ∧
        0xDC00 + (c.toNat - 0x10000) % 1024 < 0xE000 := by omega
    have hcode : 0x10000 + (0xD800 + (c.toNat - 0x10000) / 1024 - 0xD800) * 1024 +
        (0xDC00 + (c.toNat - 0x10000) % 1024 - 0xDC00) = c.toNat := by omega
    rw [List.cons_append, List.singleton_append, joinPairs.eq_def]
    simp only [if_pos hhigh, if_pos hlow, hcode, Char.ofNat_toNat]

theorem joinPairs_utf16 (s : String) : joinPairs (utf16 s) = some s.toList := by
  rw [utf16]
  induction s.toList with
  | nil => rfl
  | cons c cs ih => rw [List.flatMap_cons, joinPairs_codeUnits, ih, Option.map_some]

theorem utf16_inj {s t : String} (h : utf16 s = utf16 t) : s = t := by
  have hread := congrArg joinPairs h
  rw [joinPairs_utf16, joinPairs_utf16, Option.some.injEq] at hread
  exact String.toList_inj.1 hread

/-- The units of one character do not begin those of another. -/
theorem eq_of_prefix_codeUnits {a b : Char} (h : codeUnits a <+: codeUnits b) : a = b := by
  obtain ⟨rest, hrest⟩ := h
  have hread := joinPairs_codeUnits b []
  rw [List.append_nil, ← hrest, joinPairs_codeUnits, joinPairs, Option.map_some,
    Option.map_eq_some_iff] at hread
  obtain ⟨cs, -, hcs⟩ := hread
  exact (List.cons.inj hcs).1

/-- Nor does a character as it is written. -/
theorem eq_of_prefix_escapeChar {a b : Char} (h : escapeChar a <+: escapeChar b) : a = b := by
  obtain ⟨rest, hrest⟩ := h
  have hread := (spelled_escapeChar b).unescape []
  rw [List.append_nil, ← hrest, (spelled_escapeChar a).unescape, unescape, Option.map_some,
    Option.map_eq_some_iff] at hread
  obtain ⟨codes, -, hcodes⟩ := hread
  exact Char.toNat_inj.1 (List.cons.inj hcodes).1

/-- The units are in the order of the codes, but for surrogate pairs, which come before the last
characters of the basic plane. -/
theorem codeUnits_lt_iff {a b : Char} : codeUnits b < codeUnits a ↔
    b < a ∧ ¬ (0xE000 ≤ b.toNat ∧ b.toNat < 0x10000 ∧ 0x10000 ≤ a.toNat) ∨
      0xE000 ≤ a.toNat ∧ a.toNat < 0x10000 ∧ 0x10000 ≤ b.toNat := by
  have hlt : b < a ↔ b.toNat < a.toNat := Iff.rfl
  have ha := toNat_range a
  have hb := toNat_range b
  rw [hlt]
  unfold codeUnits
  split_ifs <;>
    simp only [List.cons_lt_cons_iff, List.not_lt_nil, List.nil_lt_cons, and_false, and_true,
      or_false] <;> omega

/-! ### Characters -/

/-- Whether a character is written with a backslash. -/
def isEscaped (c : Char) : Bool := c.toNat < 32 || c == '"' || c == '\\'

/-- What stands behind the backslash. -/
def escapeLetter (c : Char) : Char :=
  if c.toNat = 8 then 'b'
  else if c.toNat = 12 then 'f'
  else if c = '\n' then 'n'
  else if c = '\r' then 'r'
  else if c = '\t' then 't'
  else if c.toNat < 32 then 'u'
  else c

/-- Whether a character is written before another one, of which the units come first. -/
def charOvertakes (a b : Char) : Bool :=
  if isEscaped b then
    b < a && if isEscaped a then escapeLetter a < escapeLetter b else a < '\\'
  else 0xE000 ≤ a.toNat && a.toNat < 0x10000 && 0x10000 ≤ b.toNat

theorem toNat_lt_of_isEscaped {c : Char} (h : isEscaped c = true) : c.toNat < 93 := by
  simp only [isEscaped, Bool.or_eq_true, decide_eq_true_eq, beq_iff_eq] at h
  rcases h with (h | rfl) | rfl
  · omega
  · decide
  · decide

theorem escapeChar_of_isEscaped {c : Char} (h : isEscaped c = true) :
    ∃ rest, escapeChar c = '\\' :: escapeLetter c :: rest := by
  have all : ∀ m : Fin 93, isEscaped (Char.ofNat m) = true →
      ['\\', escapeLetter (Char.ofNat m)] <+: escapeChar (Char.ofNat m) := by
    decide +kernel
  have hprefix := all ⟨c.toNat, toNat_lt_of_isEscaped h⟩
  simp only [Char.ofNat_toNat] at hprefix
  obtain ⟨rest, hrest⟩ := hprefix h
  exact ⟨rest, hrest.symm⟩

theorem escapeChar_of_not_isEscaped {c : Char} (h : isEscaped c = false) : escapeChar c = [c] := by
  simp only [isEscaped, Bool.or_eq_false_iff, decide_eq_false_iff_not, beq_eq_false_iff_ne] at h
  obtain ⟨⟨hprinted, hquote⟩, hbackslash⟩ := h
  have hne : ∀ d : Char, d.toNat < 32 → c ≠ d := by
    rintro d hd rfl
    exact hprinted hd
  rw [escapeChar, if_neg hquote, if_neg hbackslash, if_neg (by omega), if_neg (by omega),
    if_neg (hne '\n' (by decide)), if_neg (hne '\r' (by decide)), if_neg (hne '\t' (by decide)),
    if_neg hprinted]

/-- Two escaped characters are in the order of their letters, unless both are written by their
codes. -/
theorem escapeChar_lt_iff {a b : Char} (ha : isEscaped a = true) (hb : isEscaped b = true)
    (h : b < a) : escapeChar a < escapeChar b ↔ escapeLetter a < escapeLetter b := by
  have all : ∀ m : Fin 93, isEscaped (Char.ofNat m) = true → ∀ n : Fin 93,
      isEscaped (Char.ofNat n) = true → Char.ofNat n < Char.ofNat m →
        (escapeChar (Char.ofNat m) < escapeChar (Char.ofNat n) ↔
          escapeLetter (Char.ofNat m) < escapeLetter (Char.ofNat n)) := by
    decide +kernel
  have hcodes := all ⟨a.toNat, toNat_lt_of_isEscaped ha⟩
  simp only [Char.ofNat_toNat] at hcodes
  have hpair := hcodes ha ⟨b.toNat, toNat_lt_of_isEscaped hb⟩
  simp only [Char.ofNat_toNat] at hpair
  exact hpair hb h

theorem charOvertakes_iff {a b : Char} (h : a ≠ b) :
    charOvertakes a b = true ↔ escapeChar a < escapeChar b ∧ codeUnits b < codeUnits a := by
  have hlt : ∀ {c d : Char}, c < d ↔ c.toNat < d.toNat := Iff.rfl
  have hbackslash : '\\'.toNat = 92 := rfl
  rw [codeUnits_lt_iff, charOvertakes]
  cases hb : isEscaped b with
  | true =>
    have hbcode := toNat_lt_of_isEscaped hb
    cases ha : isEscaped a with
    | true =>
      have hacode := toNat_lt_of_isEscaped ha
      have hletters := escapeChar_lt_iff ha hb
      simp only [if_true, Bool.and_eq_true, decide_eq_true_eq, hlt] at hletters ⊢
      constructor
      · rintro ⟨hba, hletter⟩
        exact ⟨(hletters hba).2 hletter, by omega⟩
      · rintro ⟨hwritten, hunits⟩
        have hba : b.toNat < a.toNat := by omega
        exact ⟨hba, (hletters hba).1 hwritten⟩
    | false =>
      obtain ⟨rest, hrest⟩ := escapeChar_of_isEscaped hb
      have hne : a ≠ '\\' := by
        rintro rfl
        cases ha
      rw [escapeChar_of_not_isEscaped ha, hrest, List.cons_lt_cons_iff]
      simp only [if_true, Bool.false_eq_true, if_false, Bool.and_eq_true, decide_eq_true_eq, hne,
        false_and, or_false, hlt, hbackslash]
      omega
  | false =>
    cases ha : isEscaped a with
    | true =>
      have hacode := toNat_lt_of_isEscaped ha
      obtain ⟨rest, hrest⟩ := escapeChar_of_isEscaped ha
      have hne : '\\' ≠ b := by
        rintro rfl
        cases hb
      rw [escapeChar_of_not_isEscaped hb, hrest, List.cons_lt_cons_iff]
      simp only [Bool.false_eq_true, if_false, Bool.and_eq_true, decide_eq_true_eq, hne, false_and,
        or_false, hlt, hbackslash]
      omega
    | false =>
      rw [escapeChar_of_not_isEscaped ha, escapeChar_of_not_isEscaped hb, List.cons_lt_cons_iff]
      simp only [Bool.false_eq_true, if_false, Bool.and_eq_true, decide_eq_true_eq,
        List.not_lt_nil, and_false, or_false, hlt]
      omega

/-! ### Keys -/

/-- Whether a key is written before another one, of which the units come first. The first characters
that differ decide. Where one key ends, its quote does, and only two characters come before it. -/
def overtakes : List Char → List Char → Bool
  | [], _ => false
  | a :: _, [] => a == ' ' || a == '!'
  | a :: as, b :: bs => if a = b then overtakes as bs else charOvertakes a b

/-- One key comes before another in a canonical text. -/
def WrittenBefore (k l : String) : Prop := writtenKey k < writtenKey l

/-- One key comes before another by code units. -/
def UnitsBefore (k l : String) : Prop := utf16 k < utf16 l

instance (k l : String) : Decidable (UnitsBefore k l) :=
  inferInstanceAs (Decidable (utf16 k < utf16 l))

/-- One key comes before another in a canonical text, and after it by code units. -/
def Overtakes (k l : String) : Prop := overtakes k.toList l.toList = true

instance (k l : String) : Decidable (Overtakes k l) := inferInstanceAs (Decidable (_ = true))

/-- Only a blank and an exclamation mark are written before a quote. -/
theorem escapeChar_append_lt_quote_iff {c : Char} (rest : List Char) :
    escapeChar c ++ rest < ['"'] ↔ c = ' ' ∨ c = '!' := by
  cases hc : isEscaped c with
  | true =>
    obtain ⟨written, hwritten⟩ := escapeChar_of_isEscaped hc
    rw [hwritten, List.cons_append, List.cons_lt_cons_iff]
    refine iff_of_false (by simp) ?_
    rintro (rfl | rfl) <;> cases hc
  | false =>
    have hprinted : ¬ c.toNat < 32 := by
      intro hlt
      simp [isEscaped, hlt] at hc
    have hlt : c < '"' ↔ c.toNat < 34 := Iff.rfl
    rw [escapeChar_of_not_isEscaped hc, List.singleton_append, List.cons_lt_cons_iff, hlt]
    simp only [List.not_lt_nil, and_false, or_false, ← Char.toNat_inj, Char.reduceToNat]
    omega

theorem overtakes_chars_iff {cs ds : List Char} : overtakes cs ds = true ↔
    escape cs ++ ['"'] < escape ds ++ ['"'] ∧ ds.flatMap codeUnits < cs.flatMap codeUnits := by
  induction cs generalizing ds with
  | nil => simp [overtakes]
  | cons a cs ih =>
    cases ds with
    | nil =>
      have hunits : [] < (a :: cs).flatMap codeUnits := by
        unfold codeUnits
        rw [List.flatMap_cons]
        split_ifs <;> exact List.nil_lt_cons _ _
      rw [overtakes, escape, escape, List.append_assoc, List.nil_append, List.flatMap_nil,
        escapeChar_append_lt_quote_iff, Bool.or_eq_true, beq_iff_eq, beq_iff_eq,
        and_iff_left hunits]
    | cons b ds =>
      rw [overtakes, escape, escape, List.append_assoc, List.append_assoc, List.flatMap_cons,
        List.flatMap_cons]
      split_ifs with hab
      · subst hab
        rw [append_left_lt_iff, append_left_lt_iff, ih]
      · rw [append_lt_append_iff_of_not_begins (mt eq_of_prefix_escapeChar hab)
          (mt eq_of_prefix_escapeChar (Ne.symm hab)),
          append_lt_append_iff_of_not_begins (mt eq_of_prefix_codeUnits (Ne.symm hab))
          (mt eq_of_prefix_codeUnits hab), charOvertakes_iff hab]

/-- **Where the two orders differ.** -/
theorem overtakes_iff {k l : String} : Overtakes k l ↔ WrittenBefore k l ∧ UnitsBefore l k := by
  have hwritten : WrittenBefore k l ↔ escape k.toList ++ ['"'] < escape l.toList ++ ['"'] := by
    rw [WrittenBefore, String.lt_iff_toList_lt, writtenKey, writtenKey, String.toList_ofList,
      String.toList_ofList, stringChars, stringChars, List.cons_lt_cons_iff]
    simp only [lt_self_iff_false, true_and, false_or]
  rw [hwritten]
  exact overtakes_chars_iff

example : Overtakes "exhibit 2" "exhibit" ∧ Overtakes "A" "\n" ∧
    Overtakes "\uFFFF" (String.singleton (Char.ofNat 0x10000)) := by
  decide

end Json

end Arbitration
