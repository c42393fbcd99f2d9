import Arbitration.Hash.Sha2
import Arbitration.Json.Printer

/-!
# Canonical JSON

The one text of a value that is hashed and signed: no blanks, whole numbers only, no repeated
keys, and the members of every object in ascending order of their keys as they are written,
quotes and escapes included. Ordering the written keys differs from ordering the keys
themselves: the closing quote comes after the exclamation mark, and an escaped line break sorts
as a backslash.
-/

namespace Arbitration

/-- Why a value has no canonical text. -/
inductive CanonicalError where
  /-- A number in it is not a whole number of 64 bits. -/
  | floatRejected (x : Binary64)
  deriving DecidableEq, Repr

/-- The message of a refusal. -/
def CanonicalError.message : CanonicalError → String
  | floatRejected x => "float values are not permitted in canonical representations; " ++
      "use integers for amounts: " ++ x.text

namespace Json

/-- Members in ascending order of their keys. -/
def sortByKey {α : Type} (members : List (String × α)) : List (String × α) :=
  members.mergeSort fun a b => !decide (b.1 < a.1)

mutual

/-- The same value with the members of every object in ascending order of their keys, of
repeated keys the last one only. -/
def normal : Json → Json
  | arr items => arr (normalItems items)
  | obj members => obj (sortByKey (normalMembers members))
  | v => v

/-- `normal` on the items of an array. -/
def normalItems : List Json → List Json
  | [] => []
  | v :: rest => normal v :: normalItems rest

/-- `normal` on the members of an object, in their given order. -/
def normalMembers : List (String × Json) → List (String × Json)
  | [] => []
  | (key, v) :: rest =>
    if rest.any (·.1 == key) then normalMembers rest else (key, normal v) :: normalMembers rest

end

/-- The fraction nearest to a whole number, or the greatest one. -/
def nearestReal (n : Int) : Binary64 :=
  ⟨n < 0, (Magnitude.ofQuotient n.natAbs 1).getD Magnitude.greatest⟩

mutual

/-- The first number that canonical texts may not hold. -/
def firstFloat : Json → Option Binary64
  | int n => if minInt ≤ n ∧ n ≤ maxInt then none else some (nearestReal n)
  | real x => some x
  | arr items => firstFloatItems items
  | obj members => firstFloatMembers members
  | _ => none

/-- `firstFloat` among the items of an array. -/
def firstFloatItems : List Json → Option Binary64
  | [] => none
  | v :: rest => (firstFloat v).or (firstFloatItems rest)

/-- `firstFloat` among the members of an object. -/
def firstFloatMembers : List (String × Json) → Option Binary64
  | [] => none
  | (_, v) :: rest => (firstFloat v).or (firstFloatMembers rest)

end

/-- The texts of the members of an object, separated by commas. -/
def joinMembers : List (String × List Char) → List Char
  | [] => []
  | [(key, v)] => key.toList ++ ':' :: v
  | (key, v) :: rest => key.toList ++ ':' :: (v ++ ',' :: joinMembers rest)

mutual

/-- The canonical text of a value without repeated keys. -/
def canonicalChars : Json → List Char
  | arr [] => ['[', ']']
  | arr (v :: rest) => '[' :: (canonicalChars v ++ canonicalItems rest)
  | obj members => '\x7b' :: (joinMembers (sortByKey (canonicalMembers members)) ++ ['\x7d'])
  | v => chars v

/-- The items of an array after its first, and the closing bracket. -/
def canonicalItems : List Json → List Char
  | [] => [']']
  | v :: rest => ',' :: (canonicalChars v ++ canonicalItems rest)

/-- Each member's written key and canonical text. -/
def canonicalMembers : List (String × Json) → List (String × List Char)
  | [] => []
  | (key, v) :: rest => (String.ofList (stringChars key), canonicalChars v) :: canonicalMembers rest

end

end Json

/-- A canonical text. -/
structure Canonical where
  /-- The text; what is hashed and signed is its UTF-8 form. -/
  text : String
  deriving DecidableEq

namespace Canonical

/-- The canonical text of a value. Of several fractions the first is reported, members being
visited in ascending order of their keys. -/
def ofJson (v : Json) : Except CanonicalError Canonical :=
  match v.normal.firstFloat with
  | some x => .error (.floatRejected x)
  | none => .ok ⟨String.ofList v.normal.canonicalChars⟩

/-- The bytes of the text. -/
def bytes (c : Canonical) : List UInt8 := Bytes.ofText c.text

/-- The number of bytes. -/
def size (c : Canonical) : Nat := c.text.utf8ByteSize

/-- Whether there are no bytes. -/
def isEmpty (c : Canonical) : Bool := c.size == 0

end Canonical

end Arbitration
