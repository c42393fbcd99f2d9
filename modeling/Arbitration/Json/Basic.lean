import Arbitration.Number.Shortest

/-!
# JSON values

A value keeps the members of an object in the order in which they were given, repeated keys
included: what a repetition means is up to the reader of the value. Whole numbers and rounded
fractions are different values, as they are different texts: `1` and `1.0` are not the same
number here.
-/

namespace Arbitration

/-- A JSON value. -/
inductive Json where
  | null
  | bool (b : Bool)
  | int (n : Int)
  | real (x : Binary64)
  | str (s : String)
  | arr (items : List Json)
  | obj (members : List (String × Json))

namespace Json

instance : Inhabited Json := ⟨null⟩

/-- A number that is not negative. -/
def nat (n : Nat) : Json := .int n

/-- The least whole number that JSON texts may hold. -/
def minInt : Int := -9223372036854775808

/-- The greatest whole number that JSON texts may hold. -/
def maxInt : Int := 18446744073709551615

mutual

/-- Of repeated keys only the last occurrence stays, at every depth. -/
def lastWins : Json → Json
  | arr items => arr (lastWinsItems items)
  | obj members => obj (lastWinsMembers members)
  | v => v

/-- `lastWins` on the items of an array. -/
def lastWinsItems : List Json → List Json
  | [] => []
  | v :: rest => lastWins v :: lastWinsItems rest

/-- `lastWins` on the members of an object. -/
def lastWinsMembers : List (String × Json) → List (String × Json)
  | [] => []
  | (key, v) :: rest =>
    if rest.any (·.1 == key) then lastWinsMembers rest
    else (key, lastWins v) :: lastWinsMembers rest

end

/-- The value of the first member with a key. -/
def member? (key : String) : Json → Option Json
  | obj members => (members.find? (·.1 == key)).map (·.2)
  | _ => none

end Json

end Arbitration
