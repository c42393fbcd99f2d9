import Arbitration.Ed25519.Curve
import Arbitration.Hash.Sha2
import Arbitration.Text.Hex

/-!
# Signatures

Keys, signatures, signing and verification. Signing is deterministic: the same seed and the same
bytes always give the same signature. Verification takes any key that names a point and compares
the encoding of `s B - k A` with the first half of the signature, without a cofactor.
-/

namespace Arbitration

namespace Ed25519

/-- The 32 bytes of a public key; they need not name a point. -/
structure PublicKey where
  bytes : Bytes 32
  deriving DecidableEq

/-- The 64 bytes of a signature: an encoded point and a scalar. -/
structure Signature where
  bytes : Bytes 64
  deriving DecidableEq

/-- The seed from which a signer's keys are derived. -/
structure KeyPair where
  seed : Bytes 32

/-- Why a key or a signature is refused. -/
inductive SignatureError where
  /-- The text of a key does not read as one. -/
  | keyText (e : Text.HexError)
  /-- The text of a signature does not read as one. -/
  | signatureText (e : Text.HexError)
  /-- The key names no point of the curve. -/
  | keyPoint
  /-- The scalar is not below the group's order. -/
  | scalarRange
  /-- The signature belongs to another message or another key. -/
  | mismatch
  deriving DecidableEq, Repr

/-- The message of a refusal. -/
def SignatureError.message : SignatureError → String
  | keyText e => "key error: " ++ e.message
  | signatureText e => "signature verification failed: " ++ e.message
  | keyPoint => "key error: invalid public key: signature error: Cannot decompress Edwards point"
  | scalarRange => "signature verification failed: Ed25519 verification failed: " ++
      "signature error: Cannot use scalar with high-bit set"
  | mismatch => "signature verification failed: Ed25519 verification failed: " ++
      "signature error: Verification equation was not satisfied"

/-! ### Text forms -/

/-- The key in hexadecimal. -/
def PublicKey.hex (k : PublicKey) : String := Text.encode k.bytes

/-- The key of a hexadecimal text. -/
def PublicKey.ofHex (s : String) : Except SignatureError PublicKey :=
  match Text.decode 32 s with
  | .ok b => .ok ⟨b⟩
  | .error e => .error (.keyText e)

/-- The key for a log line: its first four bytes. -/
def PublicKey.brief (k : PublicKey) : String :=
  "Ed25519PublicKey(" ++ String.ofList (Text.encodeBytes (k.bytes.toList.take 4)) ++ "...)"

/-- The signature in hexadecimal. -/
def Signature.hex (s : Signature) : String := Text.encode s.bytes

/-- The signature of a hexadecimal text. -/
def Signature.ofHex (s : String) : Except SignatureError Signature :=
  match Text.decode 64 s with
  | .ok b => .ok ⟨b⟩
  | .error e => .error (.signatureText e)

/-- The signature for a log line: its first four bytes. -/
def Signature.brief (s : Signature) : String :=
  "Ed25519Signature(" ++ String.ofList (Text.encodeBytes (s.bytes.toList.take 4)) ++ "...)"

/-- The keys of a hexadecimal seed. -/
def KeyPair.ofHex (s : String) : Except SignatureError KeyPair :=
  match Text.decode 32 s with
  | .ok b => .ok ⟨b⟩
  | .error e => .error (.keyText e)

/-- The key pair for a log line: the seed does not show. -/
def KeyPair.brief (_ : KeyPair) : String := "Ed25519KeyPair(<private>)"

theorem PublicKey.ofHex_hex (k : PublicKey) : PublicKey.ofHex k.hex = .ok k := by
  simp [ofHex, hex, Text.decode_encode]

theorem Signature.ofHex_hex (s : Signature) : Signature.ofHex s.hex = .ok s := by
  simp [ofHex, hex, Text.decode_encode]

/-! ### Signing -/

/-- A number from some bytes, reduced to a scalar. -/
def scalarOfBytes (l : List UInt8) : Nat := Bytes.natOfLittleEndian l % groupOrder

/-- The secret scalar of a seed: a multiple of eight with its highest bit set. -/
def KeyPair.secretScalar (k : KeyPair) : Nat :=
  let n := Bytes.natOfLittleEndian ((Hash.sha512 k.seed.toList).toList.take 32)
  -- The lowest three bits and all from bit 254 on are overwritten.
  Nat.pow 2 254 + n % Nat.pow 2 254 / 8 * 8

/-- The bytes of a seed that make its nonces unpredictable. -/
def KeyPair.nonceKey (k : KeyPair) : List UInt8 := (Hash.sha512 k.seed.toList).toList.drop 32

/-- The public half. -/
def KeyPair.publicKey (k : KeyPair) : PublicKey := ⟨(Point.base.mul k.secretScalar).encode⟩

/-- The hash that ties a signature to its first half, its key and its message. -/
def challenge (commitment key message : List UInt8) : Nat :=
  scalarOfBytes (Hash.sha512 (commitment ++ key ++ message)).toList

/-- The two halves of a signature. -/
def Signature.ofParts (commitment : Bytes 32) (scalar : Nat) : Signature :=
  ⟨⟨commitment.toList ++ Bytes.littleEndian 32 scalar, by simp [commitment.length_toList]⟩⟩

/-- The signature on some bytes. -/
def KeyPair.sign (k : KeyPair) (message : List UInt8) : Signature :=
  let r := scalarOfBytes (Hash.sha512 (k.nonceKey ++ message)).toList
  let commitment := (Point.base.mul r).encode
  let c := challenge commitment.toList k.publicKey.bytes.toList message
  Signature.ofParts commitment ((r + c * k.secretScalar) % groupOrder)

/-! ### Verification -/

/-- The point of a key. -/
def PublicKey.point (k : PublicKey) : Except SignatureError Point :=
  match Point.decode? k.bytes with
  | some p => .ok p
  | none => .error .keyPoint

/-- Whether a signature on some bytes was made with the seed of this key. -/
def PublicKey.verify (k : PublicKey) (message : List UInt8) (s : Signature) :
    Except SignatureError Unit := do
  let a ← k.point
  let commitment := s.bytes.toList.take 32
  let scalar := Bytes.natOfLittleEndian (s.bytes.toList.drop 32)
  if groupOrder ≤ scalar then throw .scalarRange
  -- The key is hashed as it was given, even if its point has another encoding.
  let c := challenge commitment k.bytes.toList message
  let expected := (Point.base.mul scalar).add (a.neg.mul c)
  if expected.encode.toList = commitment then return () else throw .mismatch

end Ed25519

end Arbitration
