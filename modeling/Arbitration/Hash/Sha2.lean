import Arbitration.Bytes

/-!
# The SHA-2 hash functions

SHA-256, which names evidence and signed proposals, and SHA-512, on which the signature scheme
rests. The two are one construction over words of different size: a message is padded to whole
blocks, each block is expanded to one word per round, and the rounds mix it into a state of
eight words.
-/

namespace Arbitration

namespace Hash

/-- Eight words: the state that the rounds work on, and in the end the digest. -/
structure State (ω : Type) where
  a : ω
  b : ω
  c : ω
  d : ω
  e : ω
  f : ω
  g : ω
  h : ω

/-- What sets one member of the family apart. -/
structure Variant (ω : Type) where
  /-- The number of bytes in a word. -/
  wordBytes : Nat
  /-- A word from its bytes, highest first. -/
  ofNat : Nat → ω
  /-- The number that a word holds. -/
  toNat : ω → Nat
  /-- The state before the first block. -/
  initial : State ω
  /-- One constant per round. -/
  roundConstants : List ω
  /-- The mixing of the state's first word. -/
  bigSigma₀ : ω → ω
  /-- The mixing of the state's fifth word. -/
  bigSigma₁ : ω → ω
  /-- The mixing of the second word of the expansion's window. -/
  smallSigma₀ : ω → ω
  /-- The mixing of the fifteenth word of the expansion's window. -/
  smallSigma₁ : ω → ω

section Construction

variable {ω : Type} [Add ω] [XorOp ω] [AndOp ω] [Complement ω]

/-- Word-wise sum of two states. -/
def State.add (s t : State ω) : State ω :=
  ⟨s.a + t.a, s.b + t.b, s.c + t.c, s.d + t.d, s.e + t.e, s.f + t.f, s.g + t.g, s.h + t.h⟩

/-- One round, with its constant and its word of the expanded block. -/
def Variant.round (v : Variant ω) (s : State ω) (constant word : ω) : State ω :=
  let choice := (s.e &&& s.f) ^^^ (~~~s.e &&& s.g)
  let majority := (s.a &&& s.b) ^^^ (s.a &&& s.c) ^^^ (s.b &&& s.c)
  let t₁ := s.h + v.bigSigma₁ s.e + choice + constant + word
  let t₂ := v.bigSigma₀ s.a + majority
  ⟨t₁ + t₂, s.a, s.b, s.c, s.d + t₁, s.e, s.f, s.g⟩

/-- The rounds that remain, over a window of the sixteen words next to be used. -/
def Variant.rounds (v : Variant ω) (s : State ω) (window : List ω) : List ω → State ω
  | [] => s
  | constant :: rest =>
    match window with
    | w₀ :: w₁ :: w₂ :: w₃ :: w₄ :: w₅ :: w₆ :: w₇ :: w₈ :: w₉ :: w₁₀ :: w₁₁ :: w₁₂ :: w₁₃ :: w₁₄ ::
        w₁₅ :: _ =>
      let next := v.smallSigma₁ w₁₄ + w₉ + v.smallSigma₀ w₁ + w₀
      v.rounds (v.round s constant w₀)
        [w₁, w₂, w₃, w₄, w₅, w₆, w₇, w₈, w₉, w₁₀, w₁₁, w₁₂, w₁₃, w₁₄, w₁₅, next] rest
    | _ => s

/-- The first `count` words of some bytes. -/
def Variant.words (v : Variant ω) : Nat → List UInt8 → List ω
  | 0, _ => []
  | count + 1, bytes =>
    v.ofNat (Bytes.natOfBigEndian (bytes.take v.wordBytes)) ::
      v.words count (bytes.drop v.wordBytes)

/-- The state after the next `count` blocks. -/
def Variant.absorb (v : Variant ω) (s : State ω) : Nat → List UInt8 → State ω
  | 0, _ => s
  | count + 1, bytes =>
    let mixed := v.rounds s (v.words 16 bytes) v.roundConstants
    v.absorb (s.add mixed) count (bytes.drop (16 * v.wordBytes))

/-- The message, a marker bit, zeros, and the message's length in bits: whole blocks. -/
def Variant.pad (v : Variant ω) (message : List UInt8) : List UInt8 :=
  let block := 16 * v.wordBytes
  let used := (message.length + 1 + 2 * v.wordBytes) % block
  let zeros := if used = 0 then 0 else block - used
  message ++ 0x80 :: List.replicate zeros 0 ++
    Bytes.bigEndian (2 * v.wordBytes) (8 * message.length)

/-- The bytes of a word, highest first. -/
def Variant.wordToBytes (v : Variant ω) (w : ω) : List UInt8 :=
  Bytes.bigEndian v.wordBytes (v.toNat w)

/-- The digest of a message. -/
def Variant.digest (v : Variant ω) (message : List UInt8) : Bytes (8 * v.wordBytes) :=
  let padded := v.pad message
  let s := v.absorb v.initial (padded.length / (16 * v.wordBytes)) padded
  ⟨v.wordToBytes s.a ++ v.wordToBytes s.b ++ v.wordToBytes s.c ++ v.wordToBytes s.d ++
      v.wordToBytes s.e ++ v.wordToBytes s.f ++ v.wordToBytes s.g ++ v.wordToBytes s.h, by
    simp only [wordToBytes, List.length_append, Bytes.length_bigEndian]; omega⟩

end Construction

/-! ### SHA-256 -/

namespace Sha256

/-- A word turned right by `n` bits. -/
def rotate (x n : UInt32) : UInt32 := (x >>> n) ||| (x <<< (32 - n))

/-- The leading fraction bits of the cube roots of the first sixty-four primes. -/
def roundConstants : List UInt32 := [
    0x428a2f98, 0x71374491, 0xb5c0fbcf, 0xe9b5dba5, 0x3956c25b, 0x59f111f1, 0x923f82a4, 0xab1c5ed5,
    0xd807aa98, 0x12835b01, 0x243185be, 0x550c7dc3, 0x72be5d74, 0x80deb1fe, 0x9bdc06a7, 0xc19bf174,
    0xe49b69c1, 0xefbe4786, 0x0fc19dc6, 0x240ca1cc, 0x2de92c6f, 0x4a7484aa, 0x5cb0a9dc, 0x76f988da,
    0x983e5152, 0xa831c66d, 0xb00327c8, 0xbf597fc7, 0xc6e00bf3, 0xd5a79147, 0x06ca6351, 0x14292967,
    0x27b70a85, 0x2e1b2138, 0x4d2c6dfc, 0x53380d13, 0x650a7354, 0x766a0abb, 0x81c2c92e, 0x92722c85,
    0xa2bfe8a1, 0xa81a664b, 0xc24b8b70, 0xc76c51a3, 0xd192e819, 0xd6990624, 0xf40e3585, 0x106aa070,
    0x19a4c116, 0x1e376c08, 0x2748774c, 0x34b0bcb5, 0x391c0cb3, 0x4ed8aa4a, 0x5b9cca4f, 0x682e6ff3,
    0x748f82ee, 0x78a5636f, 0x84c87814, 0x8cc70208, 0x90befffa, 0xa4506ceb, 0xbef9a3f7, 0xc67178f2]

/-- The variant over words of four bytes. Its first state holds the leading fraction bits of the
square roots of the first eight primes. -/
def variant : Variant UInt32 where
  wordBytes := 4
  ofNat := UInt32.ofNat
  toNat := UInt32.toNat
  initial := ⟨0x6a09e667, 0xbb67ae85, 0x3c6ef372, 0xa54ff53a,
    0x510e527f, 0x9b05688c, 0x1f83d9ab, 0x5be0cd19⟩
  roundConstants := roundConstants
  bigSigma₀ x := rotate x 2 ^^^ rotate x 13 ^^^ rotate x 22
  bigSigma₁ x := rotate x 6 ^^^ rotate x 11 ^^^ rotate x 25
  smallSigma₀ x := rotate x 7 ^^^ rotate x 18 ^^^ (x >>> 3)
  smallSigma₁ x := rotate x 17 ^^^ rotate x 19 ^^^ (x >>> 10)

end Sha256

/-- The SHA-256 digest of some bytes. -/
def sha256 (message : List UInt8) : Bytes 32 := Sha256.variant.digest message

/-! ### SHA-512 -/

namespace Sha512

/-- A word turned right by `n` bits. -/
def rotate (x n : UInt64) : UInt64 := (x >>> n) ||| (x <<< (64 - n))

/-- The leading fraction bits of the cube roots of the first eighty primes. -/
def roundConstants : List UInt64 := [
    0x428a2f98d728ae22, 0x7137449123ef65cd, 0xb5c0fbcfec4d3b2f, 0xe9b5dba58189dbbc,
    0x3956c25bf348b538, 0x59f111f1b605d019, 0x923f82a4af194f9b, 0xab1c5ed5da6d8118,
    0xd807aa98a3030242, 0x12835b0145706fbe, 0x243185be4ee4b28c, 0x550c7dc3d5ffb4e2,
    0x72be5d74f27b896f, 0x80deb1fe3b1696b1, 0x9bdc06a725c71235, 0xc19bf174cf692694,
    0xe49b69c19ef14ad2, 0xefbe4786384f25e3, 0x0fc19dc68b8cd5b5, 0x240ca1cc77ac9c65,
    0x2de92c6f592b0275, 0x4a7484aa6ea6e483, 0x5cb0a9dcbd41fbd4, 0x76f988da831153b5,
    0x983e5152ee66dfab, 0xa831c66d2db43210, 0xb00327c898fb213f, 0xbf597fc7beef0ee4,
    0xc6e00bf33da88fc2, 0xd5a79147930aa725, 0x06ca6351e003826f, 0x142929670a0e6e70,
    0x27b70a8546d22ffc, 0x2e1b21385c26c926, 0x4d2c6dfc5ac42aed, 0x53380d139d95b3df,
    0x650a73548baf63de, 0x766a0abb3c77b2a8, 0x81c2c92e47edaee6, 0x92722c851482353b,
    0xa2bfe8a14cf10364, 0xa81a664bbc423001, 0xc24b8b70d0f89791, 0xc76c51a30654be30,
    0xd192e819d6ef5218, 0xd69906245565a910, 0xf40e35855771202a, 0x106aa07032bbd1b8,
    0x19a4c116b8d2d0c8, 0x1e376c085141ab53, 0x2748774cdf8eeb99, 0x34b0bcb5e19b48a8,
    0x391c0cb3c5c95a63, 0x4ed8aa4ae3418acb, 0x5b9cca4f7763e373, 0x682e6ff3d6b2b8a3,
    0x748f82ee5defb2fc, 0x78a5636f43172f60, 0x84c87814a1f0ab72, 0x8cc702081a6439ec,
    0x90befffa23631e28, 0xa4506cebde82bde9, 0xbef9a3f7b2c67915, 0xc67178f2e372532b,
    0xca273eceea26619c, 0xd186b8c721c0c207, 0xeada7dd6cde0eb1e, 0xf57d4f7fee6ed178,
    0x06f067aa72176fba, 0x0a637dc5a2c898a6, 0x113f9804bef90dae, 0x1b710b35131c471b,
    0x28db77f523047d84, 0x32caab7b40c72493, 0x3c9ebe0a15c9bebc, 0x431d67c49c100d4c,
    0x4cc5d4becb3e42b6, 0x597f299cfc657e2a, 0x5fcb6fab3ad6faec, 0x6c44198c4a475817]

/-- The variant over words of eight bytes. Its first state holds the leading fraction bits of the
square roots of the first eight primes. -/
def variant : Variant UInt64 where
  wordBytes := 8
  ofNat := UInt64.ofNat
  toNat := UInt64.toNat
  initial := ⟨0x6a09e667f3bcc908, 0xbb67ae8584caa73b, 0x3c6ef372fe94f82b, 0xa54ff53a5f1d36f1,
    0x510e527fade682d1, 0x9b05688c2b3e6c1f, 0x1f83d9abfb41bd6b, 0x5be0cd19137e2179⟩
  roundConstants := roundConstants
  bigSigma₀ x := rotate x 28 ^^^ rotate x 34 ^^^ rotate x 39
  bigSigma₁ x := rotate x 14 ^^^ rotate x 18 ^^^ rotate x 41
  smallSigma₀ x := rotate x 1 ^^^ rotate x 8 ^^^ (x >>> 7)
  smallSigma₁ x := rotate x 19 ^^^ rotate x 61 ^^^ (x >>> 6)

end Sha512

/-- The SHA-512 digest of some bytes. -/
def sha512 (message : List UInt8) : Bytes 64 := Sha512.variant.digest message

end Hash

end Arbitration
