import Arbitration.Account
import Arbitration.Digest
import Arbitration.Ed25519.Signature

/-!
# The oracle's proposals

The oracle signs the terms that it proposes together with the dispute that they are for and a
number that it uses only once. What is signed is the canonical text of all three and of a fixed
domain, so a signature serves for nothing else.
-/

namespace Arbitration

/-- What an oracle signs. -/
structure Binding where
  dispute : DisputeId
  nonce : UInt64
  text : String
  deriving DecidableEq, Repr

namespace Binding

/-- What the signature is for. -/
def domain : String := "truce.proposal.v1"

/-- The canonical text of a binding. -/
def canonical (b : Binding) : Canonical :=
  ⟨String.ofList (Json.obj [
    ("dispute_id", .nat b.dispute.toNat),
    ("domain", .str domain),
    ("nonce", .nat b.nonce.toNat),
    ("text", .str b.text)]).canonicalChars⟩

/-- The digest of the canonical text. -/
def digest (b : Binding) : ContentDigest := .ofCanonical b.canonical

end Binding

/-- A proposal as the oracle hands it over. -/
structure SignedProposal where
  text : String
  nonce : UInt64
  signature : Ed25519.Signature
  deriving DecidableEq

/-- Whose proposals an engine takes. -/
structure OracleIdentity where
  account : AccountId
  publicKey : Ed25519.PublicKey
  deriving DecidableEq

/-- Whether the oracle signed the proposal for this dispute. -/
def OracleIdentity.verify (o : OracleIdentity) (dispute : DisputeId) (p : SignedProposal) :
    Except Ed25519.SignatureError Unit :=
  o.publicKey.verify (Binding.mk dispute p.nonce p.text).canonical.bytes p.signature

/-- An oracle with its private key. -/
structure OracleSigner where
  account : AccountId
  key : Ed25519.KeyPair

namespace OracleSigner

/-- The public side of an oracle. -/
def identity (s : OracleSigner) : OracleIdentity := ⟨s.account, s.key.publicKey⟩

/-- Signs some terms for a dispute. -/
def sign (s : OracleSigner) (dispute : DisputeId) (nonce : UInt64) (text : String) :
    SignedProposal :=
  ⟨text, nonce, s.key.sign (Binding.mk dispute nonce text).canonical.bytes⟩

end OracleSigner

end Arbitration
