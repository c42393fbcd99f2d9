import Arbitration.Proofs.Recording
import Mathlib.Data.List.TakeWhile

/-!
# Which hexadecimal texts are read, and as what

A text is read pair by pair, once blanks around it, the case of its letters and the mark of a digest
are gone. A pair is two digits, or a plus sign and one digit, as in any signed numeral
(`Text.paired`). So a plus sign passes for a zero: exactly the texts without one are read only if
they are hexadecimal digits and nothing else, and two texts stand for the same bytes if they differ
in nothing but plus signs for zeros (`Text.ReadsPairs`).

What is written is read back, from capital letters and with blanks around it too, and for a digest
with or without its mark. The mark itself counts in lower case only, and no digit begins it.
-/

namespace Arbitration

namespace Text

/-! ### Digits -/

/-- A hexadecimal digit in lower case. -/
def isHexDigit (c : Char) : Bool := ('0' ≤ c && c ≤ '9') || ('a' ≤ c && c ≤ 'f')

/-- None of the capital letters that are hexadecimal digits. -/
def NoCapital (c : Char) : Prop := c.toNat < 65 ∨ 70 < c.toNat

instance (c : Char) : Decidable (NoCapital c) := inferInstanceAs (Decidable (_ ∨ _))

/-- Characters are ordered as their code points. -/
theorem char_le_iff {a b : Char} : a ≤ b ↔ a.toNat ≤ b.toNat := Iff.rfl

theorem isHexDigit_hexDigit {n : Nat} (h : n < 16) : isHexDigit (hexDigit n) = true := by
  have all : ∀ m : Fin 16, isHexDigit (hexDigit m) = true := by decide
  exact all ⟨n, h⟩

theorem toNat_lt_of_isHexDigit {c : Char} (h : isHexDigit c = true) : c.toNat < 128 := by
  simp only [isHexDigit, Bool.or_eq_true, Bool.and_eq_true, decide_eq_true_eq, char_le_iff] at h
  have hnine : '9'.toNat = 57 := rfl
  have hf : 'f'.toNat = 102 := rfl
  omega

/-- Apart from the capital letters, the digits that are read are those that are written. -/
theorem hexValue_eq_some_iff {c : Char} (hc : NoCapital c) {n : Nat} :
    hexValue c = some n ↔ n < 16 ∧ c = hexDigit n := by
  constructor
  · intro h
    simp only [hexValue, char_le_iff, Char.reduceToNat] at h
    split_ifs at h with hnumber hletter hcapital
    · obtain rfl := Option.some.inj h
      have hback : 48 + (c.toNat - 48) = c.toNat := by omega
      rw [hexDigit, if_pos (by omega), hback, Char.ofNat_toNat]
      exact ⟨by omega, rfl⟩
    · obtain rfl := Option.some.inj h
      have hback : 87 + (c.toNat - 87) = c.toNat := by omega
      rw [hexDigit, if_neg (by omega), hback, Char.ofNat_toNat]
      exact ⟨by omega, rfl⟩
    · unfold NoCapital at hc
      omega
  · rintro ⟨hn, rfl⟩
    exact hexValue_hexDigit hn

theorem exists_hexValue_iff {c : Char} (hc : NoCapital c) :
    (∃ n, hexValue c = some n) ↔ isHexDigit c = true := by
  constructor
  · rintro ⟨n, hn⟩
    obtain ⟨hlt, rfl⟩ := (hexValue_eq_some_iff hc).1 hn
    exact isHexDigit_hexDigit hlt
  · intro h
    simp only [isHexDigit, Bool.or_eq_true, Bool.and_eq_true, decide_eq_true_eq] at h
    rcases h with hnumber | hletter
    · exact ⟨_, if_pos hnumber⟩
    · by_cases hnumber : '0' ≤ c ∧ c ≤ '9'
      · exact ⟨_, if_pos hnumber⟩
      · exact ⟨_, (if_neg hnumber).trans (if_pos hletter)⟩

/-! ### Lower case -/

/-- Beyond ASCII no letter comes to one of the capital letters. -/
theorem lt_lowercaseCode {n : Nat} (h : 128 ≤ n) : 70 < lowercaseCode n := by
  have hruns : (lowercaseRuns.all fun run => 70 < (run.1 : Int) + run.2.2.2) = true := by
    decide +kernel
  unfold lowercaseCode
  split
  · rename_i run hfind
    have hlow := List.all_eq_true.1 hruns run (List.mem_of_find?_eq_some hfind)
    have hrun := List.find?_some hfind
    simp only [Bool.and_eq_true, decide_eq_true_eq] at hrun hlow
    omega
  · omega

theorem noCapital_ofNat {n : Nat} (h : 70 < n) : NoCapital (Char.ofNat n) := by
  by_cases hvalid : n.isValidChar
  · have hcode : (Char.ofNat n).toNat = n := by
      rw [Char.ofNat, dif_pos hvalid]
      rfl
    rw [NoCapital, hcode]
    exact Or.inr h
  · rw [Char.ofNat, dif_neg hvalid]
    decide

theorem noCapital_of_mem_lowerChar {c d : Char} (h : d ∈ lowerChar c) : NoCapital d := by
  unfold lowerChar at h
  split_ifs at h with hascii hdotted
  · have all : ∀ m : Fin 128, NoCapital (Char.ofNat m).toLower := by decide
    have hlower := all ⟨c.toNat, hascii⟩
    rw [Char.ofNat_toNat] at hlower
    rwa [List.mem_singleton.1 h]
  · rcases List.mem_cons.1 h with rfl | hmark
    · decide
    · rw [List.mem_singleton.1 hmark]
      decide
  · rw [List.mem_singleton.1 h]
    exact noCapital_ofNat (lt_lowercaseCode (Nat.not_lt.1 hascii))

/-- In a text in lower case there are no capital letters that would be read as digits. -/
theorem noCapital_of_mem_lowerAfter {before cs : List Char} {c : Char}
    (h : c ∈ lowerAfter before cs) : NoCapital c := by
  induction cs generalizing before with
  | nil => exact absurd h List.not_mem_nil
  | cons d rest ih =>
    rw [lowerAfter, List.mem_append] at h
    rcases h with hfirst | hrest
    · split_ifs at hfirst
      · rw [List.mem_singleton.1 hfirst]
        decide
      · rw [List.mem_singleton.1 hfirst]
        decide
      · exact noCapital_of_mem_lowerChar hfirst
    · exact ih hrest

/-! ### Pairs -/

/-- Whether characters come in pairs of two digits, or of a plus sign and a digit. -/
def paired : List Char → Bool
  | [] => true
  | [_] => false
  | a :: b :: rest => (isHexDigit a || a == '+') && isHexDigit b && paired rest

/-- The digit that a character passes for: a plus sign is as good as a zero. -/
def unsigned (c : Char) : Char := if c = '+' then '0' else c

/-- A plus sign in front of a digit adds nothing, and neither does a zero. -/
theorem pairValue_unsigned (a b : Char) : pairValue a b = pairValue (unsigned a) b := by
  unfold unsigned
  split_ifs with hplus
  · subst hplus
    have hzero : hexValue '0' = some 0 := rfl
    have hne : ¬ '0' = '+' := by decide
    rw [pairValue, pairValue, if_pos rfl, if_neg hne, hzero]
    cases hexValue b with
    | none => rfl
    | some n =>
      show some (UInt8.ofNat n) = some (UInt8.ofNat (16 * 0 + n))
      rw [Nat.mul_zero, Nat.zero_add]
  · rfl

theorem noCapital_unsigned {c : Char} (h : NoCapital c) : NoCapital (unsigned c) := by
  unfold unsigned
  split_ifs
  · decide
  · exact h

section Pair

variable {a b : Char} {x : UInt8}

/-- The byte of a pair has the two digits that the pair passes for. -/
theorem encodeByte_of_pairValue (ha : NoCapital a) (hb : NoCapital b)
    (h : pairValue a b = some x) : encodeByte x = [unsigned a, unsigned b] := by
  have hne : unsigned a ≠ '+' := by
    unfold unsigned
    split_ifs with hplus
    · decide
    · exact hplus
  rw [pairValue_unsigned, pairValue, if_neg hne] at h
  obtain ⟨m, hm, h⟩ := Option.bind_eq_some_iff.1 h
  obtain ⟨n, hn, hx⟩ := Option.bind_eq_some_iff.1 h
  obtain ⟨hmlt, hma⟩ := (hexValue_eq_some_iff (noCapital_unsigned ha)).1 hm
  obtain ⟨hnlt, rfl⟩ := (hexValue_eq_some_iff hb).1 hn
  cases hx
  have hbyte : (UInt8.ofNat (16 * m + n)).toNat = 16 * m + n := by
    rw [UInt8.toNat_ofNat']
    omega
  have hhigh : (16 * m + n) / 16 = m := by omega
  have hlow : (16 * m + n) % 16 = n := by omega
  have hsame : unsigned (hexDigit n) = hexDigit n := if_neg (hexDigit_ne_plus hnlt)
  rw [encodeByte, hbyte, hhigh, hlow, hma, hsame]

theorem exists_pairValue_iff (ha : NoCapital a) (hb : NoCapital b) :
    (∃ x, pairValue a b = some x) ↔ (isHexDigit a || a == '+') = true ∧ isHexDigit b = true := by
  rw [Bool.or_eq_true, beq_iff_eq, ← exists_hexValue_iff ha, ← exists_hexValue_iff hb]
  by_cases hplus : a = '+'
  · simp only [pairValue, if_pos hplus, Option.map_eq_some_iff]
    constructor
    · rintro ⟨x, n, hn, -⟩
      exact ⟨Or.inr hplus, n, hn⟩
    · rintro ⟨-, n, hn⟩
      exact ⟨_, n, hn, rfl⟩
  · constructor
    · rintro ⟨x, hx⟩
      rw [pairValue, if_neg hplus] at hx
      obtain ⟨m, hm, hx⟩ := Option.bind_eq_some_iff.1 hx
      obtain ⟨n, hn, -⟩ := Option.bind_eq_some_iff.1 hx
      exact ⟨Or.inl ⟨m, hm⟩, n, hn⟩
    · rintro ⟨hm | hm, n, hn⟩
      · obtain ⟨m, hm⟩ := hm
        refine ⟨UInt8.ofNat (16 * m + n), ?_⟩
        rw [pairValue, if_neg hplus, hm, hn]
        rfl
      · exact absurd hm hplus

end Pair

section Pairs

variable {position : Nat} {cs : List Char}

/-- What is read from pairs are the bytes with the digits that the pairs pass for. -/
theorem of_decodePairs {bs : List UInt8} (hcs : ∀ c ∈ cs, NoCapital c)
    (h : decodePairs position cs = .ok bs) :
    paired cs = true ∧ encodeBytes bs = cs.map unsigned := by
  fun_induction decodePairs position cs generalizing bs with
  | case1 =>
    cases h
    exact ⟨rfl, rfl⟩
  | case2 => cases h
  | case3 => cases h
  | case4 position a b rest x hx bytes hbytes ih =>
    cases h
    obtain ⟨ha, hb, hrest⟩ := by simpa only [List.forall_mem_cons] using hcs
    obtain ⟨hpaired, hdigits⟩ := ih hrest hbytes
    obtain ⟨hsign, hdigit⟩ := (exists_pairValue_iff ha hb).1 ⟨x, hx⟩
    constructor
    · rw [paired, hsign, hdigit, hpaired]
      rfl
    · show encodeByte x ++ encodeBytes bytes = _
      rw [encodeByte_of_pairValue ha hb hx, hdigits]
      rfl
  | case5 => cases h

/-- Pairs are all that is needed. -/
theorem exists_decodePairs (hcs : ∀ c ∈ cs, NoCapital c) (h : paired cs = true) :
    ∃ bs, decodePairs position cs = .ok bs := by
  fun_induction decodePairs position cs with
  | case1 => exact ⟨[], rfl⟩
  | case2 => cases h
  | case3 position a b rest hnone =>
    obtain ⟨ha, hb, -⟩ := by simpa only [List.forall_mem_cons] using hcs
    rw [paired, Bool.and_eq_true, Bool.and_eq_true] at h
    obtain ⟨x, hx⟩ := (exists_pairValue_iff ha hb).2 h.1
    rw [hnone] at hx
    cases hx
  | case4 => exact ⟨_, rfl⟩
  | case5 position a b rest x hx e he ih =>
    obtain ⟨-, -, hrest⟩ := by simpa only [List.forall_mem_cons] using hcs
    rw [paired, Bool.and_eq_true] at h
    obtain ⟨bs, hbs⟩ := ih hrest h.2
    rw [he] at hbs
    cases hbs

/-- Characters in pairs are in ASCII. -/
theorem toNat_lt_of_paired (h : paired cs = true) : ∀ c ∈ cs, c.toNat < 128 := by
  fun_induction paired cs with
  | case1 => exact fun c hc => absurd hc List.not_mem_nil
  | case2 => cases h
  | case3 a b rest ih =>
    rw [Bool.and_eq_true, Bool.and_eq_true, Bool.or_eq_true, beq_iff_eq] at h
    obtain ⟨⟨ha, hb⟩, hrest⟩ := h
    refine List.forall_mem_cons.2 ⟨?_, List.forall_mem_cons.2 ⟨toNat_lt_of_isHexDigit hb, ih hrest⟩⟩
    rcases ha with ha | rfl
    · exact toNat_lt_of_isHexDigit ha
    · decide

/-- Hexadecimal digits are pairs without a plus sign, if there is an even number of them. -/
theorem forall_isHexDigit_iff {n : Nat} (hlength : cs.length = 2 * n) :
    (∀ c ∈ cs, isHexDigit c = true) ↔ paired cs = true ∧ '+' ∉ cs := by
  have hplus : isHexDigit '+' = false := rfl
  fun_induction paired cs generalizing n with
  | case1 => simp
  | case2 => simp only [List.length_singleton] at hlength; omega
  | case3 a b rest ih =>
    have hrest : rest.length = 2 * (n - 1) := by
      simp only [List.length_cons] at hlength
      omega
    have hdigits : (∀ c ∈ rest, isHexDigit c = true) ↔ paired rest = true ∧ '+' ∉ rest := ih hrest
    rw [List.forall_mem_cons, List.forall_mem_cons, hdigits]
    simp only [Bool.and_eq_true, Bool.or_eq_true, beq_iff_eq, List.mem_cons, not_or]
    constructor
    · rintro ⟨ha, hb, hpaired, hnot⟩
      refine ⟨⟨⟨Or.inl ha, hb⟩, hpaired⟩, ?_, ?_, hnot⟩
      · rintro rfl
        rw [hplus] at ha
        cases ha
      · rintro rfl
        rw [hplus] at hb
        cases hb
    · rintro ⟨⟨⟨ha, hb⟩, hpaired⟩, hne, -, hnot⟩
      exact ⟨ha.resolve_right (Ne.symm hne), hb, hpaired, hnot⟩

/-- A text stands for itself only if there is no plus sign in it. -/
theorem map_unsigned_eq_iff : cs.map unsigned = cs ↔ '+' ∉ cs := by
  have hsame : ∀ c, unsigned c = c ↔ c ≠ '+' := by
    intro c
    unfold unsigned
    split_ifs with hplus
    · subst hplus
      decide
    · exact iff_of_true rfl hplus
  have hmap : cs.map unsigned = cs ↔ ∀ c ∈ cs, unsigned c = id c := by
    rw [← List.map_inj_left, List.map_id]
  rw [hmap]
  constructor
  · intro h hmem
    exact (hsame '+').1 (h '+' hmem) rfl
  · intro h c hc
    exact (hsame c).2 (ne_of_mem_of_not_mem hc h)

end Pairs

/-! ### Byte strings -/

section Bytes

variable {n : Nat} {cs : List Char} {b : Bytes n}

theorem decodeChars_eq_ok_iff : decodeChars n cs = .ok b ↔
    (∀ c ∈ cs, c.toNat < 128) ∧ cs.length = 2 * n ∧ decodePairs 0 cs = .ok b.toList := by
  have hall : (cs.all (·.toNat < 128)) = true ↔ ∀ c ∈ cs, c.toNat < 128 := by
    simp only [List.all_eq_true, decide_eq_true_eq]
  rw [← hall]
  unfold decodeChars
  split_ifs with hascii hlength
  · rw [Bool.not_eq_true'] at hascii
    simp only [hascii, Bool.false_eq_true, false_and]
  · rw [Bool.not_eq_true, Bool.not_eq_false'] at hascii
    split
    · rename_i bs hbs
      constructor
      · intro h
        obtain rfl := Except.ok.inj h
        exact ⟨hascii, hlength, hbs⟩
      · rintro ⟨-, -, h⟩
        exact congrArg Except.ok (Bytes.ext (Except.ok.inj (hbs.symm.trans h)))
    · rename_i e he
      simp only [reduceCtorEq, he, and_false]
  · simp only [hlength, false_and, and_false]

/-- Exactly the characters in pairs, in the right number, are read. -/
theorem exists_decodeChars_iff (hcs : ∀ c ∈ cs, NoCapital c) :
    (∃ b, decodeChars n cs = .ok b) ↔ cs.length = 2 * n ∧ paired cs = true := by
  constructor
  · rintro ⟨b, hb⟩
    obtain ⟨-, hlength, hpairs⟩ := decodeChars_eq_ok_iff.1 hb
    exact ⟨hlength, (of_decodePairs hcs hpairs).1⟩
  · rintro ⟨hlength, hpaired⟩
    obtain ⟨bs, hbs⟩ : ∃ bs, decodePairs 0 cs = .ok bs := exists_decodePairs hcs hpaired
    have hbytes : bs.length = n := by
      have := length_eq_of_decodePairs hbs
      omega
    exact ⟨⟨bs, hbytes⟩, decodeChars_eq_ok_iff.2 ⟨toNat_lt_of_paired hpaired, hlength, hbs⟩⟩

/-- They are read as the bytes with the digits that they pass for. -/
theorem encodeBytes_of_decodeChars (hcs : ∀ c ∈ cs, NoCapital c) (h : decodeChars n cs = .ok b) :
    encodeBytes b.toList = cs.map unsigned :=
  (of_decodePairs hcs (decodeChars_eq_ok_iff.1 h).2.2).2

end Bytes

/-! ### Readers -/

/-- `read` takes the characters that `normal` leaves of the text `s` for `n` bytes, two to a byte,
and `written` writes what is read. A plus sign may stand for the first digit of a byte, as a zero.
The text `t` is another one that may be read as the same. -/
structure ReadsPairs {ε α : Type} (n : Nat) (normal : String → List Char) (written : α → String)
    (read : String → Except ε α) (s t : String) : Prop where
  /-- The texts that are read. -/
  exists_iff : (∃ a, read s = .ok a) ↔ (normal s).length = 2 * n ∧ paired (normal s) = true
  /-- Those without a plus sign are the ones that come to hexadecimal digits and nothing else. -/
  digits_iff : ((normal s).length = 2 * n ∧ ∀ c ∈ normal s, isHexDigit c = true) ↔
    (∃ a, read s = .ok a) ∧ '+' ∉ normal s
  /-- What the text is read as. -/
  written_eq : ∀ a, read s = .ok a → (written a).toList = (normal s).map unsigned
  /-- It is written as the text without a plus sign only. -/
  written_iff : ∀ a, read s = .ok a → ((written a).toList = normal s ↔ '+' ∉ normal s)
  /-- The texts that are read as the same. -/
  eq_iff : ∀ a b, read s = .ok a → read t = .ok b →
    (a = b ↔ (normal s).map unsigned = (normal t).map unsigned)

/-- Bytes are known from their digits. -/
theorem encodeBytes_inj {bs bs' : List UInt8} (h : encodeBytes bs = encodeBytes bs') :
    bs = bs' := by
  have hread := congrArg (decodePairs 0) h
  rw [decodePairs_encodeBytes, decodePairs_encodeBytes] at hread
  exact Except.ok.inj hread

/-- A reader that keeps to lower case is one of these. -/
theorem readsPairs_of {ε α : Type} {n : Nat} {normal : String → List Char} {written : α → String}
    {read : String → Except ε α} (bytes : α → Bytes n)
    (hbytes : ∀ b, ∃ a, bytes a = b) (hinj : ∀ a b, bytes a = bytes b → a = b)
    (hwritten : ∀ a, written a = encode (bytes a))
    (hnormal : ∀ s, ∀ c ∈ normal s, NoCapital c)
    (hread : ∀ s a, read s = .ok a ↔ decodeChars n (normal s) = .ok (bytes a)) (s t : String) :
    ReadsPairs n normal written read s t := by
  have hexists : (∃ a, read s = .ok a) ↔
      (normal s).length = 2 * n ∧ paired (normal s) = true := by
    rw [← exists_decodeChars_iff (hnormal s)]
    constructor
    · rintro ⟨a, ha⟩
      exact ⟨bytes a, (hread s a).1 ha⟩
    · rintro ⟨b, hb⟩
      obtain ⟨a, rfl⟩ := hbytes b
      exact ⟨a, (hread s a).2 hb⟩
  have hdigits : ∀ s a, read s = .ok a → (written a).toList = (normal s).map unsigned := by
    intro s a h
    rw [hwritten, encode, String.toList_ofList,
      encodeBytes_of_decodeChars (hnormal s) ((hread s a).1 h)]
  refine ⟨hexists, ?_, hdigits s, fun a h => ?_, fun a b ha hb => ?_⟩
  · rw [hexists, and_assoc]
    exact and_congr_right fun hlength => forall_isHexDigit_iff hlength
  · rw [hdigits s a h]
    exact map_unsigned_eq_iff
  · rw [← hdigits s a ha, ← hdigits t b hb]
    constructor
    · rintro rfl
      rfl
    · intro h
      rw [hwritten, hwritten, encode, encode, String.toList_ofList, String.toList_ofList] at h
      exact hinj a b (Bytes.ext (encodeBytes_inj h))

end Text

/-! ### Digests, keys and signatures -/

theorem ContentDigest.ofHex_eq_ok_iff {s : String} {d : ContentDigest} :
    ofHex s = .ok d ↔ Text.decodeChars 32 (hexChars s) = .ok d.bytes := by
  rw [ofHex]
  cases Text.decodeChars 32 (hexChars s) with
  | ok b =>
    rw [Except.ok.injEq, Except.ok.injEq]
    exact ⟨fun h => h ▸ rfl, fun h => h ▸ rfl⟩
  | error e => cases e <;> simp only [reduceCtorEq]

theorem Ed25519.PublicKey.ofHex_eq_ok_iff {s : String} {k : PublicKey} :
    ofHex s = .ok k ↔ Text.decodeChars 32 (Text.normalChars s) = .ok k.bytes := by
  rw [ofHex, Text.decode]
  cases Text.decodeChars 32 (Text.normalChars s) with
  | ok b =>
    rw [Except.ok.injEq, Except.ok.injEq]
    exact ⟨fun h => h ▸ rfl, fun h => h ▸ rfl⟩
  | error e => simp only [reduceCtorEq]

theorem Ed25519.Signature.ofHex_eq_ok_iff {s : String} {g : Signature} :
    ofHex s = .ok g ↔ Text.decodeChars 64 (Text.normalChars s) = .ok g.bytes := by
  rw [ofHex, Text.decode]
  cases Text.decodeChars 64 (Text.normalChars s) with
  | ok b =>
    rw [Except.ok.injEq, Except.ok.injEq]
    exact ⟨fun h => h ▸ rfl, fun h => h ▸ rfl⟩
  | error e => simp only [reduceCtorEq]

/-- **Which hexadecimal texts are read**, as digests, as keys and as signatures: those that come to
sixty-four, sixty-four and a hundred and twenty-eight characters in pairs of two digits, or of a
plus sign and a digit. Without a plus sign these are the hexadecimal digits in that number and
nothing else, and what is read is written as they are. A plus sign is read as a zero. -/
theorem hexadecimal_text_is_read_in_pairs (s t : String) :
    Text.ReadsPairs 32 ContentDigest.hexChars ContentDigest.hex ContentDigest.ofHex s t ∧
      Text.ReadsPairs 32 Text.normalChars Ed25519.PublicKey.hex Ed25519.PublicKey.ofHex s t ∧
      Text.ReadsPairs 64 Text.normalChars Ed25519.Signature.hex Ed25519.Signature.ofHex s t := by
  refine ⟨?_, ?_, ?_⟩
  · refine Text.readsPairs_of ContentDigest.bytes (fun b => ⟨⟨b⟩, rfl⟩) ?_ (fun _ => rfl)
      (fun _ _ => Text.noCapital_of_mem_lowerAfter) (fun _ _ => ContentDigest.ofHex_eq_ok_iff) s t
    rintro ⟨a⟩ ⟨b⟩ rfl
    rfl
  · refine Text.readsPairs_of Ed25519.PublicKey.bytes (fun b => ⟨⟨b⟩, rfl⟩) ?_ (fun _ => rfl)
      (fun _ _ => Text.noCapital_of_mem_lowerAfter) (fun _ _ => Ed25519.PublicKey.ofHex_eq_ok_iff)
      s t
    rintro ⟨a⟩ ⟨b⟩ rfl
    rfl
  · refine Text.readsPairs_of Ed25519.Signature.bytes (fun b => ⟨⟨b⟩, rfl⟩) ?_ (fun _ => rfl)
      (fun _ _ => Text.noCapital_of_mem_lowerAfter) (fun _ _ => Ed25519.Signature.ofHex_eq_ok_iff)
      s t
    rintro ⟨a⟩ ⟨b⟩ rfl
    rfl

namespace Sample

/-- A plus sign, the digit ten and zeros. -/
def signedHex : String := String.ofList ('+' :: 'a' :: List.replicate 62 '0')

/-- The same with a zero in the place of the sign. -/
def zeroHex : String := String.ofList ('0' :: 'a' :: List.replicate 62 '0')

end Sample

/-- A plus sign passes for a zero: a text that is not hexadecimal is read as a digest, of which it
is not the text, and another text is read as the same one. -/
theorem plus_sign_passes_for_zero :
    ∃ d, ContentDigest.ofHex Sample.signedHex = .ok d ∧ ContentDigest.ofHex Sample.zeroHex = .ok d ∧
      d.hex = Sample.zeroHex ∧
      ContentDigest.hexChars Sample.signedHex ≠ ContentDigest.hexChars Sample.zeroHex ∧
      ¬ ∀ c ∈ ContentDigest.hexChars Sample.signedHex, Text.isHexDigit c = true := by
  have hsign : '+' ∈ ContentDigest.hexChars Sample.signedHex := by decide +kernel
  refine ⟨⟨⟨10 :: List.replicate 31 0, rfl⟩⟩, ?_, ?_, ?_, ?_, fun h => ?_⟩
  · decide +kernel
  · decide +kernel
  · decide +kernel
  · decide +kernel
  · exact absurd (h '+' hsign) (by decide)

/-! ### Reading back -/

namespace Text

/-- Blanks on both sides are trimmed, and nothing else. -/
theorem trimChars_surrounded {before cs after : List Char}
    (hbefore : ∀ c ∈ before, isBlank c = true) (hafter : ∀ c ∈ after, isBlank c = true)
    (hcs : ∀ c ∈ cs, isBlank c = false) : trimChars (before ++ (cs ++ after)) = cs := by
  have hkept : ∀ l : List Char, (∀ c ∈ l, isBlank c = false) → l.dropWhile isBlank = l := by
    intro l hl
    cases l with
    | nil => rfl
    | cons c l => exact List.dropWhile_cons_of_neg (by simp [hl c List.mem_cons_self])
  rw [trimChars, List.dropWhile_append_of_pos hbefore]
  cases cs with
  | nil =>
    rw [List.nil_append, List.dropWhile_eq_nil_iff.2 hafter]
    rfl
  | cons c rest =>
    have hhead : ¬ isBlank c = true := by simp [hcs c List.mem_cons_self]
    rw [List.cons_append, List.dropWhile_cons_of_neg hhead, ← List.cons_append,
      List.reverse_append, List.dropWhile_append_of_pos (by simpa using hafter),
      hkept _ (fun d hd => hcs d (List.mem_reverse.1 hd)), List.reverse_reverse]

/-- The digits of some bytes, each in lower or in upper case. -/
def Spells (cs : List Char) (bs : List UInt8) : Prop := cs.map Char.toLower = encodeBytes bs

theorem spells_encodeBytes (bs : List UInt8) : Spells (encodeBytes bs) bs := by
  refine (List.map_congr_left fun c hc => ?_).trans (List.map_id _)
  obtain ⟨n, hn, rfl⟩ := exists_hexDigit_of_mem_encodeBytes hc
  exact toLower_hexDigit hn

theorem spells_toUpper (bs : List UInt8) : Spells ((encodeBytes bs).map Char.toUpper) bs := by
  rw [Spells, List.map_map]
  refine (List.map_congr_left fun c hc => ?_).trans (List.map_id _)
  obtain ⟨n, hn, rfl⟩ := exists_hexDigit_of_mem_encodeBytes hc
  have all : ∀ m : Fin 16, (hexDigit m).toUpper.toLower = hexDigit m := by decide
  exact all ⟨n, hn⟩

theorem spells_encode {n : Nat} (b : Bytes n) : Spells (encode b).toList b.toList := by
  rw [encode, String.toList_ofList]
  exact spells_encodeBytes b.toList

theorem spells_toUpper_encode {n : Nat} (b : Bytes n) :
    Spells (encode b).toUpper.toList b.toList := by
  rw [String.toUpper, String.toList_map, encode, String.toList_ofList]
  exact spells_toUpper b.toList

section Spells

variable {cs : List Char} {bs : List UInt8}

/-- Digits of either case are in ASCII, and neither a blank nor the letter that begins a mark. -/
theorem Spells.forall_mem (h : Spells cs bs) :
    ∀ c ∈ cs, c.toNat < 128 ∧ isBlank c = false ∧ c ≠ 's' := by
  intro c hc
  have hmem : c.toLower ∈ encodeBytes bs := h ▸ List.mem_map_of_mem hc
  have hdigit : isHexDigit c.toLower = true := by
    obtain ⟨n, hn, hlower⟩ := exists_hexDigit_of_mem_encodeBytes hmem
    rw [hlower]
    exact isHexDigit_hexDigit hn
  have hascii : c.toNat < 128 := by
    have hlower := toNat_lt_of_isHexDigit hdigit
    unfold Char.toLower at hlower
    split at hlower
    · rename_i hcapital
      have hle : c.toNat ≤ 90 := hcapital.2
      omega
    · exact hlower
  have all : ∀ m : Fin 128, isHexDigit (Char.ofNat m).toLower = true →
      isBlank (Char.ofNat m) = false ∧ Char.ofNat m ≠ 's' := by decide +kernel
  have hcode := all ⟨c.toNat, hascii⟩
  rw [Char.ofNat_toNat] at hcode
  exact ⟨hascii, hcode hdigit⟩

theorem Spells.lowerChars (h : Spells cs bs) : lowerChars cs = encodeBytes bs := by
  rw [Text.lowerChars, lowerAfter_eq_map [] fun c hc => (h.forall_mem c hc).1, h]

end Spells

/-- A text of blanks only. -/
def Blank (s : String) : Prop := ∀ c ∈ s.toList, isBlank c = true

instance (s : String) : Decidable (Blank s) :=
  decidable_of_iff (s.toList.all isBlank = true) List.all_eq_true

end Text

namespace ContentDigest

/-- Digits do not begin with the mark. -/
theorem dropMark_of_spells {cs : List Char} {bs : List UInt8} (h : Text.Spells cs bs) :
    dropMark cs = cs := by
  have hnot : ¬ mark.isPrefixOf cs = true := by
    intro hprefix
    obtain ⟨rest, rfl⟩ := List.isPrefixOf_iff_prefix.1 hprefix
    exact (h.forall_mem 's' List.mem_cons_self).2.2 rfl
  rw [dropMark, if_neg hnot]

theorem dropMark_mark (cs : List Char) : dropMark (mark ++ cs) = cs := by
  have hprefix : mark.isPrefixOf (mark ++ cs) = true :=
    List.isPrefixOf_iff_prefix.2 (List.prefix_append _ _)
  rw [dropMark, if_pos hprefix, List.drop_left]

end ContentDigest

section Surrounded

variable {before digits after : String} (hbefore : Text.Blank before) (hafter : Text.Blank after)

include hbefore hafter

/-- The digits of some bytes, with blanks around them. -/
theorem Text.decode_spelled {n : Nat} {b : Bytes n} (h : Spells digits.toList b.toList) :
    decodeChars n (normalChars (before ++ digits ++ after)) = .ok b := by
  rw [normalChars, String.toList_append, String.toList_append, List.append_assoc,
    trimChars_surrounded hbefore hafter fun c hc => (h.forall_mem c hc).2.1, h.lowerChars]
  exact decodeChars_encodeBytes b

theorem Ed25519.PublicKey.ofHex_spelled {k : PublicKey}
    (h : Text.Spells digits.toList k.bytes.toList) : ofHex (before ++ digits ++ after) = .ok k :=
  ofHex_eq_ok_iff.2 (Text.decode_spelled hbefore hafter h)

theorem Ed25519.Signature.ofHex_spelled {g : Signature}
    (h : Text.Spells digits.toList g.bytes.toList) : ofHex (before ++ digits ++ after) = .ok g :=
  ofHex_eq_ok_iff.2 (Text.decode_spelled hbefore hafter h)

namespace ContentDigest

variable {d : ContentDigest}

/-- The digits of a digest, with blanks around them. -/
theorem ofHex_spelled (h : Text.Spells digits.toList d.bytes.toList) :
    ofHex (before ++ digits ++ after) = .ok d := by
  rw [ofHex_eq_ok_iff, hexChars, String.toList_append, String.toList_append, List.append_assoc,
    Text.trimChars_surrounded hbefore hafter fun c hc => (h.forall_mem c hc).2.1,
    dropMark_of_spells h, h.lowerChars]
  exact Text.decodeChars_encodeBytes d.bytes

/-- The same behind the name of the hash function. -/
theorem ofHex_marked (h : Text.Spells digits.toList d.bytes.toList) :
    ofHex (before ++ (algorithm ++ ":" ++ digits) ++ after) = .ok d := by
  have hmark : (algorithm ++ ":" ++ digits).toList = mark ++ digits.toList := by
    rw [String.toList_append]
    rfl
  have hcs : ∀ c ∈ mark ++ digits.toList, Text.isBlank c = false := by
    have hname : (mark.all fun c => !Text.isBlank c) = true := by decide
    exact List.forall_mem_append.2 ⟨by simpa using hname, fun c hc => (h.forall_mem c hc).2.1⟩
  rw [ofHex_eq_ok_iff, hexChars, String.toList_append, String.toList_append, List.append_assoc,
    hmark, Text.trimChars_surrounded hbefore hafter hcs, dropMark_mark, h.lowerChars]
  exact Text.decodeChars_encodeBytes d.bytes

end ContentDigest

end Surrounded

/-- A key is read back from its record. -/
theorem kept_publicKey {depth : Nat} (k : Ed25519.PublicKey) : Kept depth k where
  read := by
    refine (text_bind rfl _).trans ?_
    rw [Ed25519.PublicKey.ofHex_hex]
    rfl
  within := .str

/-- **Hexadecimal text is read back.** A digest is read back from its digits, with the name of its
hash function in front or without it, a key and a signature from theirs, in lower and in upper case
and with any blanks around. All three are read back from their records too, where a key and a
signature are just that text. -/
theorem hexadecimal_text_reads_back {before after : String} (hbefore : Text.Blank before)
    (hafter : Text.Blank after) :
    (∀ d : ContentDigest,
      (∀ written ∈ [d.hex, d.text, d.hex.toUpper, ContentDigest.algorithm ++ ":" ++ d.hex.toUpper],
        ContentDigest.ofHex (before ++ written ++ after) = .ok d) ∧
      (Json.parse (toJson d).text).bind ofJson? = some d) ∧
    (∀ k : Ed25519.PublicKey,
      (∀ written ∈ [k.hex, k.hex.toUpper],
        Ed25519.PublicKey.ofHex (before ++ written ++ after) = .ok k) ∧
      toJson k = .str k.hex ∧ (Json.parse (toJson k).text).bind ofJson? = some k) ∧
    ∀ g : Ed25519.Signature,
      (∀ written ∈ [g.hex, g.hex.toUpper],
        Ed25519.Signature.ofHex (before ++ written ++ after) = .ok g) ∧
      toJson g = .str g.hex ∧ (Json.parse (toJson g).text).bind ofJson? = some g := by
  refine ⟨fun d => ⟨?_, (kept_digest d).parse_text⟩, fun k => ⟨?_, rfl,
    (kept_publicKey k).parse_text⟩, fun g => ⟨?_, rfl, (kept_signature g).parse_text⟩⟩
  · intro written hwritten
    have hlower := Text.spells_encode d.bytes
    have hupper := Text.spells_toUpper_encode d.bytes
    simp only [List.mem_cons, List.not_mem_nil, or_false] at hwritten
    rcases hwritten with rfl | rfl | rfl | rfl
    · exact ContentDigest.ofHex_spelled hbefore hafter hlower
    · exact ContentDigest.ofHex_marked hbefore hafter hlower
    · exact ContentDigest.ofHex_spelled hbefore hafter hupper
    · exact ContentDigest.ofHex_marked hbefore hafter hupper
  · intro written hwritten
    simp only [List.mem_cons, List.not_mem_nil, or_false] at hwritten
    rcases hwritten with rfl | rfl
    · exact Ed25519.PublicKey.ofHex_spelled hbefore hafter (Text.spells_encode k.bytes)
    · exact Ed25519.PublicKey.ofHex_spelled hbefore hafter (Text.spells_toUpper_encode k.bytes)
  · intro written hwritten
    simp only [List.mem_cons, List.not_mem_nil, or_false] at hwritten
    rcases hwritten with rfl | rfl
    · exact Ed25519.Signature.ofHex_spelled hbefore hafter (Text.spells_encode g.bytes)
    · exact Ed25519.Signature.ofHex_spelled hbefore hafter (Text.spells_toUpper_encode g.bytes)

namespace Sample

/-- A digest with a letter in every digit. -/
def letters : ContentDigest := ⟨⟨List.replicate 32 0xab, List.length_replicate⟩⟩

end Sample

/-- The digits of this digest in capital letters, with its mark in small ones and blanks around. -/
theorem capital_digits_are_read :
    Text.Blank "  " ∧ Text.Blank "\t\n" ∧
      Sample.letters.hex.toUpper = String.ofList ((List.replicate 32 ['A', 'B']).flatten) ∧
      ContentDigest.ofHex ("  " ++ (ContentDigest.algorithm ++ ":" ++ Sample.letters.hex.toUpper) ++
        "\t\n") = .ok Sample.letters := by
  have hbefore : Text.Blank "  " := by decide
  have hafter : Text.Blank "\t\n" := by decide
  refine ⟨hbefore, hafter, by decide +kernel, ?_⟩
  exact ((hexadecimal_text_reads_back hbefore hafter).1 Sample.letters).1 _ (by simp)

end Arbitration
