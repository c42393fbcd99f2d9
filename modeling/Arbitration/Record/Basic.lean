import Arbitration.Account
import Arbitration.Digest
import Arbitration.Ed25519.Signature
import Arbitration.Json.Record
import Arbitration.Timestamp.Text

/-!
# Amounts, names, times and bytes in records

Amounts and numbers of disputes are plain integers, accounts are texts that name one, keys and
signatures are hexadecimal texts, instants are texts, and a digest is an object with the name of
its hash function and its bytes as integers.
-/

namespace Arbitration

instance : Recorded UInt8 where
  toJson n := .nat n.toNat
  ofJson? j := (j.natBelow? 256).map UInt8.ofNat

instance : Recorded Amount where
  toJson a := .nat a.toNat
  ofJson? j := (j.natBelow? UInt64.size).bind Amount.ofNat?

instance : Recorded DisputeId where
  toJson d := .nat d.toNat
  ofJson? j := (ofJson? j).map DisputeId.mk

instance : Recorded AccountId where
  toJson a := .str a.name
  ofJson? j := j.text?.bind fun name => (AccountId.ofName name).toOption

instance : Recorded Timestamp where
  toJson t := .str t.text
  ofJson? j := j.text?.bind Timestamp.read?

instance : Recorded Ed25519.PublicKey where
  toJson k := .str k.hex
  ofJson? j := j.text?.bind fun s => (Ed25519.PublicKey.ofHex s).toOption

instance : Recorded Ed25519.Signature where
  toJson s := .str s.hex
  ofJson? j := j.text?.bind fun s => (Ed25519.Signature.ofHex s).toOption

/-- The hash function of a digest: there is only one. -/
def ContentDigest.algorithms : List (String × Unit) := [(ContentDigest.algorithm, ())]

instance : Recorded ContentDigest where
  toJson d := .obj [("algorithm", .str ContentDigest.algorithm), ("bytes", toJson d.bytes.toList)]
  ofJson? j := do
    let members ← j.members?
    Json.choice? ContentDigest.algorithms (← (← Json.field? members "algorithm"))
    return ⟨← Bytes.ofList? 32 (← Json.required members "bytes")⟩

end Arbitration
