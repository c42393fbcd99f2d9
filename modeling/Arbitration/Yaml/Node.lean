import Arbitration.Yaml.Token

/-!
# The values of a YAML text

A node is a scalar, a sequence or a mapping, with or without a tag; scalars keep how they are
written, because that bears on what they can stand for. Mappings keep their pairs in order,
repeated keys included. Where a name stands for a value, the node holds that value.
-/

namespace Arbitration

namespace Yaml

/-- A value in a YAML text. -/
inductive Node where
  | scalar (style : Style) (text : String)
  | sequence (items : List Node)
  | mapping (pairs : List (Node × Node))
  | tagged (tag : String) (node : Node)

namespace Node

/-- What stands where nothing is written. -/
def blank : Node := scalar .plain ""

/-- A value with its tag, if it has one. -/
def withTag (n : Node) : Option String → Node
  | some tag => tagged tag n
  | none => n

/-- Tokens that are yet to be used, the handles of tags, and the values that have names. -/
structure Input where
  tokens : List Token
  handles : List (String × String)
  anchors : List (String × Node) := []

namespace Input

/-- The input without its first token. -/
def drop (i : Input) : Input := { i with tokens := i.tokens.tail }

/-- The first token. -/
def first (i : Input) : Option Token := i.tokens.head?

/-- What comes before a value: the name that it is given and its tag, in either order. -/
def marks (i : Input) : Option String × Option Tag.Mark × Input :=
  match i.tokens with
  | .anchor name :: .tag mark :: rest | .tag mark :: .anchor name :: rest =>
    (some name, some mark, { i with tokens := rest })
  | .anchor name :: rest => (some name, none, { i with tokens := rest })
  | .tag mark :: rest => (none, some mark, { i with tokens := rest })
  | _ => (none, none, i)

/-- Whether a scalar is at the front. -/
def startsScalar (i : Input) : Bool :=
  match i.first with
  | some (.scalar _ _) => true
  | _ => false

/-- The tag of the value at the front, whose mark was read before it. -/
def tagOf? (i : Input) (mark : Tag.Mark) : Option (Option String) := do
  let tag ← mark.tag? i.handles
  -- Before a scalar an unspecific tag says nothing at all.
  return if tag = Tag.unspecific ∧ i.startsScalar then none else some tag

/-- Gives a value a name. -/
def bind (i : Input) (name : Option String) (n : Node) : Input :=
  match name with
  | some name => { i with anchors := (name, n) :: i.anchors }
  | none => i

end Input

/-- Whether nothing is written before a token of a block. -/
def endsBlock : Option Token → Bool
  | some .key | some .value | some .blockEnd => true
  | _ => false

/-- Whether nothing is written before a token inside brackets or braces. -/
def endsFlow (close : Token) : Option Token → Bool
  | some t => t == .value || t == .flowEntry || t == close
  | none => false

mutual

/-- A value at the front. Inside a block mapping a sequence may stand in the column of its key;
inside brackets and braces there are no blocks. -/
def read (block dashes : Bool) : Nat → Input → Option (Node × Input)
  | 0, _ => none
  | fuel + 1, i =>
    match i.tokens with
    | .alias name :: rest => do
      let found ← i.anchors.find? (·.1 == name)
      return (found.2, { i with tokens := rest })
    | _ => do
      let (name, mark, i) := i.marks
      let tag ← mark.elim (some none) i.tagOf?
      let (n, i) ← readContent block dashes (name.isSome || mark.isSome) fuel i
      let n := n.withTag tag
      return (n, i.bind name n)

/-- A value after its name and its tag, which may be all there is of it. -/
def readContent (block dashes marked : Bool) : Nat → Input → Option (Node × Input)
  | 0, _ => none
  | fuel + 1, i =>
    match i.first with
    | some (.scalar style text) => some (scalar style text, i.drop)
    | some .flowSequenceStart => do
      let (items, i) ← readFlowItems true fuel i.drop
      return (sequence items, i)
    | some .flowMappingStart => do
      let (pairs, i) ← readFlowPairs true fuel i.drop
      return (mapping pairs, i)
    | some .blockEntry =>
      if dashes then do
        let (items, i) ← readDashes fuel i
        return (sequence items, i)
      else if marked then some (blank, i) else none
    | some .blockSequenceStart =>
      if block then do
        let (items, i) ← readItems fuel i.drop
        return (sequence items, i)
      else if marked then some (blank, i) else none
    | some .blockMappingStart =>
      if block then do
        let (pairs, i) ← readPairs fuel i.drop
        return (mapping pairs, i)
      else if marked then some (blank, i) else none
    | _ => if marked then some (blank, i) else none

/-- The items of a block sequence, up to its end. -/
def readItems : Nat → Input → Option (List Node × Input)
  | 0, _ => none
  | fuel + 1, i =>
    match i.first with
    | some .blockEnd => some ([], i.drop)
    | some .blockEntry => do
      let i := i.drop
      let (n, i) ←
        if i.first = some .blockEntry ∨ i.first = some .blockEnd then some (blank, i)
        else read true false fuel i
      let (items, i) ← readItems fuel i
      return (n :: items, i)
    | _ => none

/-- The items of a sequence that stands in the column of its key. -/
def readDashes : Nat → Input → Option (List Node × Input)
  | 0, _ => none
  | fuel + 1, i =>
    match i.first with
    | some .blockEntry => do
      let i := i.drop
      let (n, i) ←
        if i.first = some .blockEntry ∨ endsBlock i.first then some (blank, i)
        else read true false fuel i
      let (items, i) ← readDashes fuel i
      return (n :: items, i)
    | _ => some ([], i)

/-- The pairs of a block mapping, up to its end. -/
def readPairs : Nat → Input → Option (List (Node × Node) × Input)
  | 0, _ => none
  | fuel + 1, i =>
    match i.first with
    | some .blockEnd => some ([], i.drop)
    | some .key => do
      let i := i.drop
      let (k, i) ← if endsBlock i.first then some (blank, i) else read true true fuel i
      let (v, i) ← readBlockValue fuel i
      let (pairs, i) ← readPairs fuel i
      return ((k, v) :: pairs, i)
    | _ => none

/-- The value of a pair of a block mapping. -/
def readBlockValue : Nat → Input → Option (Node × Input)
  | 0, _ => none
  | fuel + 1, i =>
    if i.first = some .value then
      if endsBlock i.drop.first then some (blank, i.drop) else read true true fuel i.drop
    else some (blank, i)

/-- The items between brackets, up to the closing one. -/
def readFlowItems (isFirst : Bool) : Nat → Input → Option (List Node × Input)
  | 0, _ => none
  | fuel + 1, i =>
    if i.first = some .flowSequenceEnd then some ([], i.drop)
    else if !isFirst && i.first ≠ some .flowEntry then none
    else do
      let i := if isFirst then i else i.drop
      if i.first = some .flowSequenceEnd then return ([], i.drop)
      let (n, i) ←
        if i.first = some .key then do
          let (pair, i) ← readFlowPair .flowSequenceEnd fuel i.drop
          pure (mapping [pair], i)
        else read false false fuel i
      let (items, i) ← readFlowItems false fuel i
      return (n :: items, i)

/-- The pairs between braces, up to the closing one. -/
def readFlowPairs (isFirst : Bool) : Nat → Input → Option (List (Node × Node) × Input)
  | 0, _ => none
  | fuel + 1, i =>
    if i.first = some .flowMappingEnd then some ([], i.drop)
    else if !isFirst && i.first ≠ some .flowEntry then none
    else do
      let i := if isFirst then i else i.drop
      if i.first = some .flowMappingEnd then return ([], i.drop)
      let (pair, i) ←
        if i.first = some .key then readFlowPair .flowMappingEnd fuel i.drop
        else do
          let (k, i) ← read false false fuel i
          pure ((k, blank), i)
      let (pairs, i) ← readFlowPairs false fuel i
      return (pair :: pairs, i)

/-- A pair inside brackets or braces, after the token for its key. -/
def readFlowPair (close : Token) : Nat → Input → Option ((Node × Node) × Input)
  | 0, _ => none
  | fuel + 1, i => do
    let (k, i) ← if endsFlow close i.first then some (blank, i) else read false false fuel i
    if i.first = some .value then
      let i := i.drop
      let (v, i) ←
        if i.first = some .flowEntry ∨ i.first = some close then some (blank, i)
        else read false false fuel i
      return ((k, v), i)
    else return ((k, blank), i)

end

/-- The handles of a text and what follows its directives. There may be one version, which has
to be known, and one declaration of each handle; after these the start of the document has to be
marked. -/
def directives (version : Bool) (declared : List (String × String)) :
    List Token → Option (List (String × String) × List Token)
  | .version major minor :: rest =>
    if !version && major == 1 && (minor == 1 || minor == 2) then directives true declared rest
    else none
  | .handle name start :: rest =>
    if declared.any (·.1 == name) then none
    else directives version ((name, start) :: declared) rest
  | .documentStart :: rest => some (declared ++ Tag.handles, rest)
  | rest => if version || !declared.isEmpty then none else some (Tag.handles, rest)

/-- Whether nothing but marks of its end follows a document. -/
def isOver (tokens : List Token) : Bool := tokens.all (· == .documentEnd)

/-- The value of a text that was divided into tokens. An empty document has a value too. -/
def ofTokens? (tokens : List Token) : Option Node := do
  let (handles, rest) ← directives false [] tokens
  let marked := rest.length < tokens.length
  if rest.isEmpty || (marked && rest.head? = some .documentEnd) then
    if isOver rest then return blank else none
  else
    let (n, i) ← read true false (3 * rest.length + 3) { tokens := rest, handles }
    if isOver i.tokens then return n else none

/-- The value of a YAML text. -/
def parse (s : String) : Option Node := (scan s.toList).bind ofTokens?

end Node

end Yaml

end Arbitration
