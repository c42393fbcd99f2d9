import Arbitration.Bytes
import Arbitration.Text.Lowercase

/-!
# Hexadecimal text

Byte strings are written as lower-case hexadecimal digits, two to a byte. Reading is laxer than
writing: blanks around the text and the case of its letters do not matter, and a pair of
characters may be a plus sign and a single digit, as in any signed numeral. Main statement: what
is written reads back (`decode_encode`).
-/

namespace Arbitration

namespace Text

/-- Why a text does not give the bytes that were asked for. -/
inductive HexError where
  /-- Some character is outside ASCII. -/
  | notAscii
  /-- There are `found` characters and not `expected`. -/
  | length (expected found : Nat)
  /-- The pair of characters at this position is no number. -/
  | digit (position : Nat)
  deriving DecidableEq, Repr

/-- The message of a reading error. -/
def HexError.message : HexError → String
  | notAscii => "hex must be ASCII"
  | length expected found => "hex must be " ++ toString expected ++ " chars, got " ++ toString found
  | digit position =>
    "invalid hex at position " ++ toString position ++ ": invalid digit found in string"

/-- The digit for a number below sixteen. -/
def hexDigit (n : Nat) : Char :=
  if n < 10 then Char.ofNat (48 + n) else Char.ofNat (87 + n)

/-- The value of a hexadecimal digit of either case. -/
def hexValue (c : Char) : Option Nat :=
  if '0' ≤ c ∧ c ≤ '9' then some (c.toNat - 48)
  else if 'a' ≤ c ∧ c ≤ 'f' then some (c.toNat - 87)
  else if 'A' ≤ c ∧ c ≤ 'F' then some (c.toNat - 55)
  else none

theorem hexValue_hexDigit {n : Nat} (h : n < 16) : hexValue (hexDigit n) = some n := by
  have all : ∀ m : Fin 16, hexValue (hexDigit m) = some m.val := by decide
  exact all ⟨n, h⟩

theorem hexDigit_toNat_lt {n : Nat} (h : n < 16) : (hexDigit n).toNat < 128 := by
  have all : ∀ m : Fin 16, (hexDigit m).toNat < 128 := by decide
  exact all ⟨n, h⟩

theorem toLower_hexDigit {n : Nat} (h : n < 16) : (hexDigit n).toLower = hexDigit n := by
  have all : ∀ m : Fin 16, (hexDigit m).toLower = hexDigit m := by decide
  exact all ⟨n, h⟩

theorem hexDigit_ne_plus {n : Nat} (h : n < 16) : hexDigit n ≠ '+' := by
  have all : ∀ m : Fin 16, hexDigit m ≠ '+' := by decide
  exact all ⟨n, h⟩

theorem isBlank_hexDigit {n : Nat} (h : n < 16) : isBlank (hexDigit n) = false := by
  have all : ∀ m : Fin 16, isBlank (hexDigit m) = false := by decide
  exact all ⟨n, h⟩

/-! ### Writing -/

/-- The two digits of a byte. -/
def encodeByte (b : UInt8) : List Char := [hexDigit (b.toNat / 16), hexDigit (b.toNat % 16)]

/-- The digits of some bytes. -/
def encodeBytes (bs : List UInt8) : List Char := bs.flatMap encodeByte

@[simp] theorem length_encodeBytes (bs : List UInt8) : (encodeBytes bs).length = 2 * bs.length := by
  induction bs with
  | nil => rfl
  | cons b rest ih => simp_all [encodeBytes, encodeByte]; omega

theorem exists_hexDigit_of_mem_encodeBytes {bs : List UInt8} {c : Char} (h : c ∈ encodeBytes bs) :
    ∃ n < 16, c = hexDigit n := by
  obtain ⟨b, _, hc⟩ := List.mem_flatMap.1 h
  have hb := b.toNat_lt
  simp only [encodeByte, List.mem_cons, List.not_mem_nil, or_false] at hc
  rcases hc with rfl | rfl
  · exact ⟨_, by omega, rfl⟩
  · exact ⟨_, by omega, rfl⟩

/-- A byte string in lower-case hexadecimal. -/
def encode {n : Nat} (b : Bytes n) : String := String.ofList (encodeBytes b.toList)

/-! ### Reading -/

/-- The byte that a pair of characters stands for. -/
def pairValue (a b : Char) : Option UInt8 :=
  if a = '+' then (hexValue b).map UInt8.ofNat
  else do return UInt8.ofNat (16 * (← hexValue a) + (← hexValue b))

/-- The bytes of the pairs of characters from `position` on. -/
def decodePairs (position : Nat) : List Char → Except HexError (List UInt8)
  | [] => .ok []
  | [_] => .error (.digit position)
  | a :: b :: rest =>
    match pairValue a b with
    | none => .error (.digit position)
    | some byte =>
      match decodePairs (position + 2) rest with
      | .ok bytes => .ok (byte :: bytes)
      | .error e => .error e

/-- Each byte is read from two characters. -/
theorem length_eq_of_decodePairs {position : Nat} {cs : List Char} {bs : List UInt8}
    (h : decodePairs position cs = .ok bs) : cs.length = 2 * bs.length := by
  fun_induction decodePairs position cs generalizing bs with
  | case1 => cases h; rfl
  | case2 => cases h
  | case3 => cases h
  | case4 _ _ _ _ _ _ bytes hb ih => cases h; simp [ih hb]; omega
  | case5 => cases h

/-- Exactly `n` bytes from characters that are trimmed and in lower case already. -/
def decodeChars (n : Nat) (cs : List Char) : Except HexError (Bytes n) :=
  if !cs.all (·.toNat < 128) then .error .notAscii
  else if hl : cs.length = 2 * n then
    match h : decodePairs 0 cs with
    | .ok bs => .ok ⟨bs, by have := length_eq_of_decodePairs h; omega⟩
    | .error e => .error e
  else .error (.length (2 * n) cs.length)

/-- The characters of a text that are read: trimmed, and in lower case. -/
def normalChars (s : String) : List Char := lowerChars (trimChars s.toList)

/-- Exactly `n` bytes from a text. -/
def decode (n : Nat) (s : String) : Except HexError (Bytes n) := decodeChars n (normalChars s)

/-! ### Reading what was written -/

theorem pairValue_encodeByte (b : UInt8) :
    pairValue (hexDigit (b.toNat / 16)) (hexDigit (b.toNat % 16)) = some b := by
  have hb := b.toNat_lt
  have hhigh : b.toNat / 16 < 16 := by omega
  have hlow : b.toNat % 16 < 16 := by omega
  simp only [pairValue, hexDigit_ne_plus hhigh, if_false, hexValue_hexDigit hhigh,
    hexValue_hexDigit hlow]
  show some (UInt8.ofNat (16 * (b.toNat / 16) + b.toNat % 16)) = some b
  rw [Nat.div_add_mod, UInt8.ofNat_toNat]

theorem decodePairs_encodeBytes (position : Nat) (bs : List UInt8) :
    decodePairs position (encodeBytes bs) = .ok bs := by
  induction bs generalizing position with
  | nil => rfl
  | cons b rest ih =>
    show decodePairs position (hexDigit _ :: hexDigit _ :: encodeBytes rest) = _
    rw [decodePairs, pairValue_encodeByte]
    simp [ih]

theorem decodeChars_encodeBytes {n : Nat} (b : Bytes n) :
    decodeChars n (encodeBytes b.toList) = .ok b := by
  have hascii : (encodeBytes b.toList).all (·.toNat < 128) = true := by
    simp only [List.all_eq_true, decide_eq_true_eq]
    intro c hc
    obtain ⟨m, hm, rfl⟩ := exists_hexDigit_of_mem_encodeBytes hc
    exact hexDigit_toNat_lt hm
  have hlen : (encodeBytes b.toList).length = 2 * n := by simp [b.length_toList]
  simp only [decodeChars, hascii, Bool.not_true, Bool.false_eq_true, if_false, hlen, dite_true]
  split
  · rename_i bs h
    rw [decodePairs_encodeBytes] at h
    cases h; rfl
  · rename_i e h
    rw [decodePairs_encodeBytes] at h
    cases h

theorem normalChars_ofList_encodeBytes (bs : List UInt8) :
    normalChars (String.ofList (encodeBytes bs)) = encodeBytes bs := by
  have hdigit := @exists_hexDigit_of_mem_encodeBytes bs
  have htrim : trimChars (encodeBytes bs) = encodeBytes bs := by
    refine trimChars_eq_self (fun c hc => ?_) fun c hc => ?_
    · obtain ⟨m, hm, rfl⟩ := hdigit (List.mem_of_mem_head? hc); exact isBlank_hexDigit hm
    · obtain ⟨m, hm, rfl⟩ := hdigit (List.mem_of_mem_getLast? hc); exact isBlank_hexDigit hm
  rw [normalChars, String.toList_ofList, htrim, lowerChars, lowerAfter_eq_map]
  · refine (List.map_congr_left fun c hc => ?_).trans (List.map_id _)
    obtain ⟨m, hm, rfl⟩ := hdigit hc
    exact toLower_hexDigit hm
  · intro c hc
    obtain ⟨m, hm, rfl⟩ := hdigit hc
    exact hexDigit_toNat_lt hm

/-- What is written reads back. -/
theorem decode_encode {n : Nat} (b : Bytes n) : decode n (encode b) = .ok b := by
  rw [decode, encode, normalChars_ofList_encodeBytes, decodeChars_encodeBytes]

end Text

end Arbitration
