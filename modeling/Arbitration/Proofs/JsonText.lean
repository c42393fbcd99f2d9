import Arbitration.Json.Canonical
import Arbitration.Json.Reader
import Mathlib.Data.List.TakeDrop

/-!
# Where a string and a number end

In a JSON text a string goes up to the first quote that is not escaped, and a number as far as
there are digits. A writer that keeps to this can be undone from the front: the reader gives back
the string (`readString_escape`) or the number (`takeDigits_natChars`), and what follows. So two
texts that start with a string or a number and are equal start with the same one.

Every character is written in one of three ways (`Spelled`). The two passes of the reader, one
that looks for the quote and one that resolves the escapes, are followed through these three cases.
-/

namespace Arbitration

namespace Json

/-! ### Strings -/

/-- How a character stands in a string: as it is, as a letter after a backslash, or by its code. -/
inductive Spelled (c : Char) : List Char → Prop
  | plain (quote : c ≠ '"') (backslash : c ≠ '\\') (printed : 32 ≤ c.toNat) : Spelled c [c]
  | short {letter : Char} (code : shortEscape letter = some c.toNat) : Spelled c ['\\', letter]
  | unit (control : c.toNat < 32) :
      Spelled c ['\\', 'u', '0', '0', Text.hexDigit (c.toNat / 16), Text.hexDigit (c.toNat % 16)]

theorem spelled_escapeChar (c : Char) : Spelled c (escapeChar c) := by
  have hshort : ∀ letter : Char, ∀ code : Nat, shortEscape letter = some code → c.toNat = code →
      Spelled c ['\\', letter] := fun letter code hletter hcode => .short (hcode ▸ hletter)
  unfold escapeChar
  split
  · rename_i h
    exact hshort '"' 34 rfl (h ▸ rfl)
  split
  · rename_i h
    exact hshort '\\' 92 rfl (h ▸ rfl)
  split
  · rename_i h
    exact hshort 'b' 8 rfl h
  split
  · rename_i h
    exact hshort 'f' 12 rfl h
  split
  · rename_i h
    exact hshort 'n' 10 rfl (h ▸ rfl)
  split
  · rename_i h
    exact hshort 'r' 13 rfl (h ▸ rfl)
  split
  · rename_i h
    exact hshort 't' 9 rfl (h ▸ rfl)
  split
  · rename_i h
    exact .unit h
  · rename_i hquote hbackslash _ _ _ _ _ hcontrol
    exact .plain hquote hbackslash (Nat.not_lt.1 hcontrol)

section Characters

variable {c : Char} {written : List Char}

/-- A character that is neither a quote nor a backslash goes into the string. -/
theorem takeString_cons (hquote : c ≠ '"') (hbackslash : c ≠ '\\') (rest : List Char) :
    takeString (c :: rest) = (takeString rest).map fun r => (c :: r.1, r.2) := by
  rw [takeString]
  · exact hquote
  · intro _ _ h
    exact absurd h hbackslash

theorem hexDigit_ne {n : Nat} (h : n < 16) :
    Text.hexDigit n ≠ '"' ∧ Text.hexDigit n ≠ '\\' := by
  have all : ∀ m : Fin 16, Text.hexDigit m ≠ '"' ∧ Text.hexDigit m ≠ '\\' := by decide
  exact all ⟨n, h⟩

/-- Looking for the closing quote passes over a character as it is written. -/
theorem Spelled.takeString (h : Spelled c written) (rest : List Char) :
    takeString (written ++ rest) = (takeString rest).map fun r => (written ++ r.1, r.2) := by
  cases h with
  | plain hquote hbackslash _ => exact takeString_cons hquote hbackslash rest
  | short _ => rfl
  | unit hcontrol =>
    obtain ⟨hq₁, hb₁⟩ := hexDigit_ne (show c.toNat / 16 < 16 by omega)
    obtain ⟨hq₂, hb₂⟩ := hexDigit_ne (show c.toNat % 16 < 16 by omega)
    -- the backslash takes the `u` along, and the four digits are ordinary characters
    show (Json.takeString ('0' :: '0' :: _ :: _ :: rest)).map _ = _
    rw [takeString_cons (by decide) (by decide), takeString_cons (by decide) (by decide),
      takeString_cons hq₁ hb₁, takeString_cons hq₂ hb₂]
    simp only [Option.map_map]
    rfl

/-- Resolving the escapes gives the code of the character. -/
theorem Spelled.unescape (h : Spelled c written) (rest : List Char) :
    unescape (written ++ rest) = (unescape rest).map (c.toNat :: ·) := by
  cases h with
  | plain hquote hbackslash hprinted =>
    have hnot : ¬ (c = '\\' ∨ c.toNat < 32) := by
      rintro (h | h)
      · exact hbackslash h
      · omega
    show Json.unescape (c :: rest) = _
    rw [Json.unescape, if_neg hnot]
    · intro _ _ _ _ _ h
      exact absurd h hbackslash
    · intro _ _ h
      exact absurd h hbackslash
  | @short letter code =>
    have hletter : letter ≠ 'u' := by
      rintro rfl
      cases code
    show Json.unescape ('\\' :: letter :: rest) = _
    rw [Json.unescape, code]
    · cases Json.unescape rest <;> rfl
    · intro _ _ _ _ _ hu
      exact absurd hu hletter
  | unit hcontrol =>
    have hunit : unitValue '0' '0' (Text.hexDigit (c.toNat / 16)) (Text.hexDigit (c.toNat % 16)) =
        some c.toNat := by
      have hzero : Text.hexValue '0' = some 0 := rfl
      rw [unitValue, hzero, Text.hexValue_hexDigit (by omega), Text.hexValue_hexDigit (by omega)]
      show some _ = some _
      congr 1
      omega
    show Json.unescape ('\\' :: 'u' :: '0' :: '0' :: _ :: _ :: rest) = _
    rw [Json.unescape, hunit]
    cases Json.unescape rest <;> rfl

end Characters

theorem takeString_escape (cs rest : List Char) :
    takeString (escape cs ++ '"' :: rest) = some (escape cs, rest) := by
  induction cs with
  | nil => rfl
  | cons c cs ih =>
    rw [escape, List.append_assoc, (spelled_escapeChar c).takeString, ih, Option.map_some]

theorem unescape_escape (cs : List Char) : unescape (escape cs) = some (cs.map Char.toNat) := by
  induction cs with
  | nil => rfl
  | cons c cs ih =>
    rw [escape, (spelled_escapeChar c).unescape, ih, Option.map_some, List.map_cons]

/-- Codes of characters are no halves of surrogate pairs. -/
theorem joinPairs_map_toNat (cs : List Char) : joinPairs (cs.map Char.toNat) = some cs := by
  induction cs with
  | nil => rfl
  | cons c cs ih =>
    have hvalid : c.toNat < 0xD800 ∨ 0xDFFF < c.toNat ∧ c.toNat < 0x110000 := c.valid
    have hhigh : ¬ (0xD800 ≤ c.toNat ∧ c.toNat < 0xDC00) := by omega
    have hlow : ¬ (0xDC00 ≤ c.toNat ∧ c.toNat < 0xE000) := by omega
    rw [List.map_cons, joinPairs.eq_def]
    simp only [if_neg hhigh, if_neg hlow, ih, Option.map_some, Char.ofNat_toNat]

/-- **A string that is written is read back**, up to its closing quote. -/
theorem readString_escape (s : String) (rest : List Char) :
    readString (escape s.toList ++ '"' :: rest) = some (s, rest) := by
  simp only [readString, takeString_escape, unescape_escape, joinPairs_map_toNat,
    Option.bind_eq_bind, Option.bind_some, Option.pure_def, String.ofList_toList]

/-- What is written before a closing quote, and what follows it, are known from the text. -/
theorem escape_append_inj {s t : String} {rest rest' : List Char}
    (h : escape s.toList ++ '"' :: rest = escape t.toList ++ '"' :: rest') :
    s = t ∧ rest = rest' := by
  have hread := congrArg readString h
  rw [readString_escape, readString_escape] at hread
  exact Prod.mk.inj (Option.some.inj hread)

/-! ### Numbers -/

theorem natOfDigits_natChars (n : Nat) : natOfDigits (natChars n) = n :=
  Nat.ofDigitChars_ten_toDigits

theorem isDigit_of_mem_natChars {n : Nat} {c : Char} (h : c ∈ natChars n) : c.isDigit = true :=
  Nat.isDigit_of_mem_toDigits (by decide) (by decide) h

/-- **A number that is written is read back**, up to the first character that is no digit. -/
theorem takeDigits_natChars (n : Nat) {c : Char} (hc : c.isDigit = false) (rest : List Char) :
    takeDigits (natChars n ++ c :: rest) = (natChars n, c :: rest) := by
  have hdigits : ∀ d ∈ natChars n, d.isDigit = true := fun d => isDigit_of_mem_natChars
  rw [takeDigits, List.span_eq_takeWhile_dropWhile, List.takeWhile_append_of_pos hdigits,
    List.dropWhile_append_of_pos hdigits, List.takeWhile_cons_of_neg (by simp [hc]),
    List.dropWhile_cons_of_neg (by simp [hc]), List.append_nil]

/-- What number stands before a comma, and what follows the comma, are known from the text. -/
theorem natChars_append_inj {m n : Nat} {rest rest' : List Char}
    (h : natChars m ++ ',' :: rest = natChars n ++ ',' :: rest') : m = n ∧ rest = rest' := by
  have hread := congrArg takeDigits h
  rw [takeDigits_natChars m rfl, takeDigits_natChars n rfl] at hread
  obtain ⟨hdigits, hrest⟩ := Prod.mk.inj hread
  have hvalue := congrArg natOfDigits hdigits
  rw [natOfDigits_natChars, natOfDigits_natChars] at hvalue
  exact ⟨hvalue, List.tail_eq_of_cons_eq hrest⟩

/-! ### Members -/

/-- Members that are in the order of their keys stay where they are. -/
theorem sortByKey_of_sorted {α : Type} {members : List (String × α)}
    (h : (members.map Prod.fst).Pairwise fun a b => ¬ b < a) : sortByKey members = members := by
  refine List.mergeSort_of_pairwise ((List.pairwise_map.1 h).imp fun hlt => ?_)
  simpa using hlt

end Json

end Arbitration
