/-!
# Byte strings of known length

Digests, keys and signatures are byte strings whose length is part of their type. Numbers are
laid out in bytes in both orders: big-endian in the hash functions, little-endian in the
signature scheme.
-/

namespace Arbitration

/-- `n` bytes. -/
structure Bytes (n : Nat) where
  /-- The bytes in order. -/
  toList : List UInt8
  length_toList : toList.length = n
  deriving DecidableEq

namespace Bytes

theorem ext {n : Nat} {a b : Bytes n} (h : a.toList = b.toList) : a = b := by
  cases a; cases b; cases h; rfl

/-- A list of bytes, if it has the right length. -/
def ofList? (n : Nat) (l : List UInt8) : Option (Bytes n) :=
  if h : l.length = n then some ⟨l, h⟩ else none

@[simp] theorem ofList?_toList {n : Nat} (b : Bytes n) : ofList? n b.toList = some b := by
  simp [ofList?, b.length_toList]

/-- The `n` low bytes of a number, lowest first. -/
def littleEndian : Nat → Nat → List UInt8
  | 0, _ => []
  | n + 1, value => UInt8.ofNat (value % 256) :: littleEndian n (value / 256)

@[simp] theorem length_littleEndian (n value : Nat) : (littleEndian n value).length = n := by
  induction n generalizing value with
  | zero => rfl
  | succ n ih => simp [littleEndian, ih]

/-- The number whose bytes, lowest first, are given. -/
def natOfLittleEndian : List UInt8 → Nat
  | [] => 0
  | b :: rest => b.toNat + 256 * natOfLittleEndian rest

/-- The low bytes of a number give the number back up to the size they can hold. -/
theorem natOfLittleEndian_littleEndian (n value : Nat) :
    natOfLittleEndian (littleEndian n value) = value % Nat.pow 256 n := by
  induction n generalizing value with
  | zero => simp [littleEndian, natOfLittleEndian, Nat.mod_one]
  | succ n ih =>
    have power : Nat.pow 256 (n + 1) = 256 * Nat.pow 256 n := Nat.mul_comm _ _
    have split : value % (256 * Nat.pow 256 n) =
        value % 256 + 256 * (value / 256 % Nat.pow 256 n) := Nat.mod_mul
    have byte : (UInt8.ofNat (value % 256)).toNat = value % 256 := by
      rw [UInt8.toNat_ofNat']; omega
    rw [littleEndian, natOfLittleEndian, ih, byte, power, split]

/-- A number of `n` bytes, lowest first. -/
def ofNat (n value : Nat) : Bytes n := ⟨littleEndian n value, length_littleEndian n value⟩

/-- The number whose bytes, lowest first, these are. -/
def toNat {n : Nat} (b : Bytes n) : Nat := natOfLittleEndian b.toList

/-- The `n` low bytes of a number, highest first. -/
def bigEndian (n value : Nat) : List UInt8 := (littleEndian n value).reverse

@[simp] theorem length_bigEndian (n value : Nat) : (bigEndian n value).length = n := by
  simp [bigEndian]

/-- The number whose bytes, highest first, are given. -/
def natOfBigEndian (l : List UInt8) : Nat := natOfLittleEndian l.reverse

/-- The bytes of a text in UTF-8. -/
def ofText (s : String) : List UInt8 := s.toUTF8.toList

private theorem toList_loop (bs : ByteArray) (i : Nat) (r : List UInt8) :
    ByteArray.toList.loop bs i r = r.reverse ++ bs.data.toList.drop i := by
  fun_induction ByteArray.toList.loop bs i r with
  | case1 i r hlt ih =>
    have hlen : i < bs.data.toList.length := hlt
    have hget : bs.get! i = bs.data.toList[i] := getElem!_pos bs.data i hlt
    rw [ih, List.drop_eq_getElem_cons hlen, hget, List.reverse_cons, List.append_assoc]
    rfl
  | case2 i r hend => rw [List.drop_eq_nil_of_le (Nat.not_lt.1 hend), List.append_nil]

/-- A byte array is listed in order. -/
private theorem toList_byteArray (bs : ByteArray) : bs.toList = bs.data.toList :=
  toList_loop bs 0 []

/-- Texts with the same bytes are the same. -/
theorem ofText_inj {s t : String} (h : ofText s = ofText t) : s = t := by
  rw [ofText, ofText, toList_byteArray, toList_byteArray] at h
  exact String.toByteArray_inj.1 (ByteArray.ext (Array.toList_inj.1 h))

/-- The bytes of a text are valid UTF-8, and decode to it. -/
theorem fromUTF8?_ofText (s : String) : String.fromUTF8? (ofText s).toByteArray = some s := by
  have hbytes : (ofText s).toByteArray = s.toByteArray := by
    rw [ofText, toList_byteArray]
    exact ByteArray.ext (Array.toList_inj.1 List.toList_data_toByteArray)
  rw [hbytes, String.fromUTF8?, dif_pos s.isValidUTF8]
  rfl

end Bytes

end Arbitration
