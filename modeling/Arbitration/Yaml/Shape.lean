import Arbitration.Yaml.Node
import Arbitration.Yaml.Plain

/-!
# Reading YAML where the shape of the value is known

A scalar of a YAML text does not say what it is, so what it is taken for depends on what is
asked for: the scalar `10` is a number where a number is asked for, and a text where a text is.
Where a value has to be held before it is known what is asked for, each scalar has to say by
itself what it is. A `Shape` says what is asked for, and `Shape.json?` gives the JSON value that
a node stands for under it.
-/

namespace Arbitration

namespace Yaml

/-- What is asked for. -/
inductive Shape where
  /-- A whole number that is not negative. -/
  | natural
  | boolean
  /-- The text of a scalar, however it is written. -/
  | text
  /-- One of some words. It may stand in a scalar, or in the tag of a null. -/
  | word
  /-- Null, or something else. -/
  | optional (shape : Shape)
  | list (item : Shape)
  /-- A mapping with any keys. -/
  | table (numbered : Bool) (value : Shape)
  /-- A mapping with known keys, or a sequence of the values under them, in order. What stands
  under other keys does not count. -/
  | record (fields : List (String × Shape))
  /-- A mapping whose first key that is among the choices says what the mapping is about. There
  are other known keys. All but what stands under these is held before it is known what is asked
  for, and may be at most `depth` collections deep. -/
  | choice (depth : Nat) (fields choices : List (String × Shape))

/-- How a scalar is taken. -/
inductive Taking where
  /-- For what is asked for. -/
  | asAsked
  /-- For what it says it is. -/
  | asIs
  deriving DecidableEq, Repr

namespace Node

/-! ### Parts of a node -/

/-- A node without its tag. -/
def bare : Node → Node
  | tagged _ n => n
  | n => n

/-- The text of a scalar. -/
def scalarText? (n : Node) : Option String :=
  match n.bare with
  | scalar _ text => some text
  | _ => none

/-- The text of a scalar that may stand for a value of a kind, which is given by its tag: of a
plain scalar, or of a literal block under this very tag. -/
def textOfKind? (kind : String) : Node → Option String
  | scalar .plain text => some text
  | tagged _ (scalar .plain text) => some text
  | tagged tag (scalar .literal text) => if tag = kind then some text else none
  | _ => none

/-- What a scalar says it is. -/
def meaning? : Node → Option Meaning
  | scalar .plain text => some (.ofPlain text)
  | scalar _ text => some (.text text)
  | tagged tag (scalar _ text) => Meaning.ofTagged? tag text
  | _ => none

/-- Whether nothing is written. -/
def isBlank (n : Node) : Bool :=
  match n.bare with
  | scalar .plain text => text.isEmpty
  | _ => false

/-! ### Nodes that are held -/

mutual

/-- Whether a node can be held before it is known what is asked for. -/
def isHeld : Node → Bool
  | scalar .plain text => (Meaning.ofPlain text).isHeld
  | scalar _ _ => true
  | sequence items => areHeld items
  | mapping pairs => arePairsHeld pairs
  | tagged tag (scalar _ text) => (Meaning.ofTagged? tag text).any (·.isHeld)
  | tagged tag n => !Tag.isLocal tag && isHeld n

/-- `isHeld` for all items of a sequence. -/
def areHeld : List Node → Bool
  | [] => true
  | n :: rest => isHeld n && areHeld rest

/-- `isHeld` for all pairs of a mapping. -/
def arePairsHeld : List (Node × Node) → Bool
  | [] => true
  | (k, v) :: rest => isHeld k && isHeld v && arePairsHeld rest

end

mutual

/-- How many collections are inside one another. -/
def depth : Node → Nat
  | scalar _ _ => 0
  | sequence items => depthOfItems items + 1
  | mapping pairs => depthOfPairs pairs + 1
  | tagged _ n => depth n

/-- The greatest depth of an item. -/
def depthOfItems : List Node → Nat
  | [] => 0
  | n :: rest => max (depth n) (depthOfItems rest)

/-- The greatest depth of a key or a value. -/
def depthOfPairs : List (Node × Node) → Nat
  | [] => 0
  | (k, v) :: rest => max (max (depth k) (depth v)) (depthOfPairs rest)

end

/-! ### What is taken from a node -/

/-- The number that is asked for, as a JSON value. -/
def natural? (n : Node) : Taking → Option Json
  | .asAsked => (n.textOfKind? Tag.integer).bind fun s => (Yaml.natural? s).map Json.nat
  | .asIs => n.meaning?.bind Meaning.json?

/-- The truth value that is asked for. -/
def truth? (n : Node) : Taking → Option Json
  | .asAsked => (n.textOfKind? Tag.boolean).bind fun s => (Yaml.truth? s).map Json.bool
  | .asIs => n.meaning?.bind Meaning.json?

/-- The text that is asked for. -/
def text? (n : Node) : Taking → Option Json
  | .asAsked => n.scalarText?.map Json.str
  | .asIs => n.meaning?.bind Meaning.json?

/-- The word that is asked for. A tag of the text itself gives it where the value is null. -/
def word? (n : Node) (taking : Taking) : Option Json :=
  match n with
  | tagged tag content =>
    if !Tag.isLocal tag then content.text? taking
    else
      match content with
      | scalar .plain text => if isNull text then some (.str (Tag.localName tag)) else none
      | _ => none
  | n => n.text? taking

/-- Whether null is written where it may be. A tag for null demands it. -/
def isNull? (n : Node) : Taking → Option Bool
  | .asAsked =>
    match n with
    | scalar .plain text => some (isNull text)
    | tagged tag (scalar .plain text) =>
      if tag ≠ Tag.null then some false else if isNullWord text then some true else none
    | _ => some false
  | .asIs => some (n.meaning? = some .null)

/-- The items of a sequence. If a sequence is asked for, there may be nothing in its place. -/
def items? (n : Node) (taking : Taking) : Option (List Node) :=
  match n.bare with
  | sequence items => some items
  | bare => if taking = .asAsked ∧ bare.isBlank then some [] else none

/-- The pairs of a mapping. If a mapping is asked for, there may be nothing in its place. -/
def pairs? (n : Node) (taking : Taking) : Option (List (Node × Node)) :=
  match n.bare with
  | mapping pairs => some pairs
  | bare => if taking = .asAsked ∧ bare.isBlank then some [] else none

/-- The name of the field that a key of a record stands for. A key that says that it is a number
gives the place of the field among all, and if there is no such place a name that no field has.
-/
def fieldName? (names : List String) (n : Node) : Taking → Option String
  | .asAsked => n.scalarText?
  | .asIs =>
    match n.meaning? with
    | some (.text name) => some name
    | some (.natural k) => some (names[k]?.getD (toString k))
    | _ => none

/-- The decimal digits of a number that is a key. -/
def numberKey? (n : Node) : Taking → Option String
  | .asAsked => (n.textOfKind? Tag.integer).bind fun s => (Yaml.natural? s).map toString
  | .asIs =>
    match n.meaning? with
    | some (.natural k) => some (toString k)
    | _ => none

/-- The text of a key. -/
def textKey? (n : Node) : Taking → Option String
  | .asAsked => n.scalarText?
  | .asIs =>
    match n.meaning? with
    | some (.text s) => some s
    | _ => none

end Node

namespace Shape

mutual

/-- The JSON value that a node stands for where a shape is asked for. -/
def json? (taking : Taking) : Shape → Node → Option Json
  | natural, n => n.natural? taking
  | boolean, n => n.truth? taking
  | text, n => n.text? taking
  | word, n => n.word? taking
  | optional shape, n => do if ← n.isNull? taking then return .null else shape.json? taking n
  | list item, n => do
    let items ← (← n.items? taking).mapM fun n => item.json? taking n
    return .arr items
  | table numbered value, n => do
    let members ← (← n.pairs? taking).mapM fun (k, v) => do
      let key ← if numbered then k.numberKey? taking else k.textKey? taking
      return (key, ← value.json? taking v)
    return .obj members
  | record fields, n =>
    match n.bare with
    | .sequence items => (itemsJson? taking fields items).map .obj
    | _ => do
      let names := fields.map (·.1)
      let members ← (← n.pairs? taking).mapM fun (k, v) => do
        let name ← k.fieldName? names taking
        return (name, ← memberJson? taking fields name v)
      return .obj members
  | choice depth fields choices, n => do
    let named ← (← n.pairs? taking).mapM fun (k, v) => do return (← k.textKey? taking, v)
    let (known, held) := named.partition fun m => (fields.map (·.1)).contains m.1
    if !held.all fun m => m.2.isHeld && m.2.depth ≤ depth then none
    let chosen ← held.find? fun m => (choices.map (·.1)).contains m.1
    let members ← known.mapM fun (name, v) => do
      return (name, ← memberJson? taking fields name v)
    return .obj ((chosen.1, ← memberJson? .asIs choices chosen.1 chosen.2) :: members)

/-- The JSON value under a key of a record. It does not matter under an unknown key. -/
def memberJson? (taking : Taking) : List (String × Shape) → String → Node → Option Json
  | [], _, _ => some .null
  | (known, shape) :: rest, name, v =>
    if known == name then shape.json? taking v else memberJson? taking rest name v

/-- The members of a record whose values are given in order. The last ones may be missing. -/
def itemsJson? (taking : Taking) :
    List (String × Shape) → List Node → Option (List (String × Json))
  | _, [] => some []
  | [], _ :: _ => none
  | (name, shape) :: rest, v :: others => do
    return (name, ← shape.json? taking v) :: (← itemsJson? taking rest others)

end

end Shape

/-- The JSON value that a text stands for where a shape is asked for. -/
def read? (shape : Shape) (text : String) : Option Json :=
  (Node.parse text).bind (shape.json? .asAsked)

end Yaml

end Arbitration
