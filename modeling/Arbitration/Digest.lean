import Arbitration.Json.Canonical
import Arbitration.Text.Quoted

/-!
# Content digests

A dispute holds its evidence by digest only. Digests made here are of canonical texts; digests made
elsewhere come in as hexadecimal text, with or without the name of the hash function in front.
-/

namespace Arbitration

/-- A SHA-256 digest. -/
structure ContentDigest where
  bytes : Bytes 32
  deriving DecidableEq

/-- Why a text names no digest. -/
inductive DigestError where
  /-- The text, in lower case, is not sixty-four ASCII characters long. -/
  | length (text : String)
  /-- The pair of characters at this position is no number. -/
  | digit (position : Nat)
  deriving DecidableEq, Repr

/-- The message of a refusal. -/
def DigestError.message : DigestError → String
  | length text => "invalid identifier: digest must be 64 ASCII hex chars, got " ++ Text.quoted text
  | digit position => "invalid identifier: " ++ (Text.HexError.digit position).message

namespace ContentDigest

/-- The name of the hash function. -/
def algorithm : String := "sha256"

/-- The digest in hexadecimal. -/
def hex (d : ContentDigest) : String := Text.encode d.bytes

/-- The digest with the name of its hash function. -/
def text (d : ContentDigest) : String := algorithm ++ ":" ++ d.hex

/-- The mark in front of a digest that names its hash function. -/
def mark : List Char := ['s', 'h', 'a', '2', '5', '6', ':']

/-- A list of characters without the mark, where it starts with it. -/
def dropMark (cs : List Char) : List Char :=
  if mark.isPrefixOf cs then cs.drop mark.length else cs

/-- The characters of a text that are read as digits. The mark counts only in lower case. -/
def hexChars (s : String) : List Char := Text.lowerChars (dropMark (Text.trimChars s.toList))

/-- The digest of a hexadecimal text. -/
def ofHex (s : String) : Except DigestError ContentDigest :=
  match Text.decodeChars 32 (hexChars s) with
  | .ok b => .ok ⟨b⟩
  | .error (.digit position) => .error (.digit position)
  | .error _ => .error (.length (String.ofList (hexChars s)))

/-- The digest of a canonical text. -/
def ofCanonical (c : Canonical) : ContentDigest := ⟨Hash.sha256 c.bytes⟩

end ContentDigest

end Arbitration
