import Arbitration.Json.Basic

/-!
# Values in records

Records are JSON objects with a fixed set of fields. A type that can stand in a record has one
way to be written and one to be read. Reading is strict about what a field holds and lax about
what stands beside it: fields that a record does not have are passed over, but a field of its
own may come only once, and only where a default is given may it be missing.
-/

namespace Arbitration

/-- Types whose values can stand in a record. -/
class Recorded (α : Type) where
  /-- The value as JSON. -/
  toJson : α → Json
  /-- The value that a JSON value stands for. -/
  ofJson? : Json → Option α

export Recorded (toJson ofJson?)

namespace Json

/-! ### Plain values -/

/-- A whole number below a bound. -/
def natBelow? (bound : Nat) : Json → Option Nat
  | int n => if 0 ≤ n ∧ n.toNat < bound then some n.toNat else none
  | _ => none

/-- A text. -/
def text? : Json → Option String
  | str s => some s
  | _ => none

/-- The members of an object. -/
def members? : Json → Option (List (String × Json))
  | obj members => some members
  | _ => none

end Json

instance : Recorded Bool where
  toJson := .bool
  ofJson?
    | .bool b => some b
    | _ => none

instance : Recorded String where
  toJson := .str
  ofJson? := Json.text?

instance : Recorded UInt64 where
  toJson n := .nat n.toNat
  ofJson? j := (j.natBelow? UInt64.size).map UInt64.ofNat

instance : Recorded UInt32 where
  toJson n := .nat n.toNat
  ofJson? j := (j.natBelow? UInt32.size).map UInt32.ofNat

instance {α : Type} [Recorded α] : Recorded (Option α) where
  toJson
    | none => .null
    | some a => toJson a
  ofJson?
    | .null => some none
    | j => (ofJson? j).map some

instance {α : Type} [Recorded α] : Recorded (List α) where
  toJson l := .arr (l.map toJson)
  ofJson?
    | .arr items => items.mapM ofJson?
    | _ => none

namespace Json

/-! ### Fields -/

/-- The value of a field, `none` if it is missing. A repeated field has no value. -/
def field? (members : List (String × Json)) (name : String) : Option (Option Json) :=
  match members.filter (·.1 == name) with
  | [] => some none
  | [m] => some (some m.2)
  | _ => none

/-- A field that must be there. -/
def required {α : Type} [Recorded α] (members : List (String × Json)) (name : String) :
    Option α := do
  (← field? members name).bind ofJson?

/-- A field with a value for when it is missing. -/
def withDefault {α : Type} [Recorded α] (members : List (String × Json)) (name : String)
    (default : α) : Option α := do
  match ← field? members name with
  | some j => ofJson? j
  | none => some default

/-- A field that may be missing or null. -/
def optional {α : Type} [Recorded α] (members : List (String × Json)) (name : String) :
    Option (Option α) := withDefault members name none

/-! ### Alternatives -/

/-- The value with a name. -/
def named? {α : Type} (alternatives : List (String × α)) (name : String) : Option α :=
  (alternatives.find? (·.1 == name)).map (·.2)

/-- One of several named values: its name, or an object that holds null under its name. -/
def choice? {α : Type} (alternatives : List (String × α)) : Json → Option α
  | str name => named? alternatives name
  | obj [(name, null)] => named? alternatives name
  | _ => none

end Json

end Arbitration
