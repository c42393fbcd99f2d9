import Arbitration.Yaml.Scalar
import Arbitration.Yaml.Tag

/-!
# The tokens of a YAML text

The scanner turns a text into tokens that make its nesting explicit: where indentation opens or
closes a collection there is a token for it. A key of a mapping needs no mark of its own, so the
scanner remembers every place where a key could start, and puts the token for the key in front
of what it read since then once it comes to the colon. Such a key has to end in the line in
which it starts, and within 1024 characters.
-/

namespace Arbitration

namespace Yaml

/-- How a scalar is written. -/
inductive Style where
  | plain
  | quoted
  /-- As a block whose lines stay as they are. -/
  | literal
  /-- As a block whose lines are joined. -/
  | folded
  deriving DecidableEq, Repr

/-- A part of a YAML text. -/
inductive Token where
  | version (major minor : Nat)
  /-- The declaration of a handle for tags, with what the handle stands for. -/
  | handle (name start : String)
  | documentStart
  | documentEnd
  | blockSequenceStart
  | blockMappingStart
  | blockEnd
  | flowSequenceStart
  | flowSequenceEnd
  | flowMappingStart
  | flowMappingEnd
  /-- The dash before an item. -/
  | blockEntry
  /-- The comma between items. -/
  | flowEntry
  | key
  | value
  | anchor (name : String)
  | alias (name : String)
  | tag (mark : Tag.Mark)
  | scalar (style : Style) (text : String)
  deriving DecidableEq, Repr

/-- A place where a key may have started. -/
structure PossibleKey where
  /-- The number of tokens before it. -/
  position : Nat
  index : Nat
  line : Nat
  column : Nat
  /-- Whether nothing but a key can stand there. -/
  required : Bool

/-- Whether the key can no longer end. -/
def PossibleKey.isStale (k : PossibleKey) (c : Cursor) : Bool :=
  k.line < c.line || k.index + 1024 < c.index

/-- How far a text has been read. -/
structure Scanner where
  cursor : Cursor
  /-- The columns of the open block collections, innermost first. -/
  indents : List Nat := []
  /-- The number of open brackets and braces. -/
  flow : Nat := 0
  /-- Whether a key may start here. -/
  keyAllowed : Bool := true
  /-- Where the key of a pair may have started, for every bracket and brace and for the block around
  them, innermost first. -/
  keys : List (Option PossibleKey) := [none]
  /-- The tokens so far, newest first. -/
  tokens : List Token := []

namespace Scanner

/-- Whether the place is inside brackets or braces. -/
def inFlow (s : Scanner) : Bool := s.flow != 0

/-- The column of the innermost block collection. -/
def indent (s : Scanner) : Option Nat := s.indents.head?

/-- The first column of what belongs to the innermost block collection. -/
def least (s : Scanner) : Nat := (s.indent.map (· + 1)).getD 0

/-- Adds a token. -/
def push (s : Scanner) (t : Token) : Scanner := { s with tokens := t :: s.tokens }

/-- Adds tokens, given newest first, after the first `position` ones. -/
def insertAt (s : Scanner) (position : Nat) (new : List Token) : Scanner :=
  let later := s.tokens.length - position
  { s with tokens := s.tokens.take later ++ new ++ s.tokens.drop later }

/-- Moves on by one character, which makes a token. -/
def pushOne (s : Scanner) (t : Token) : Scanner := { s.push t with cursor := s.cursor.skip 1 }

/-! ### Blanks and comments -/

/-- The next place at which a token may start, and whether a key may start there. Blanks are
passed over, but tabs only where they cannot be taken for indentation, and so are comments and
the ends of lines. -/
def seek (inFlow allowed comment : Bool) (index line column : Nat) : List Char → Cursor × Bool
  | '\r' :: '\n' :: rest => seek inFlow (allowed || !inFlow) false (index + 2) (line + 1) 0 rest
  | c :: rest =>
    if isBreak c then seek inFlow (allowed || !inFlow) false (index + 1) (line + 1) 0 rest
    else if comment || c = ' ' || (c = '\t' && (inFlow || !allowed)) ||
        (c.toNat = 0xFEFF && index = 0) then
      seek inFlow allowed comment (index + 1) line (column + 1) rest
    else if c = '#' then seek inFlow allowed true (index + 1) line (column + 1) rest
    else (⟨c :: rest, index, line, column⟩, allowed)
  | [] => (⟨[], index, line, column⟩, allowed)

/-- Moves on to the next place at which a token may start. -/
def toNext (s : Scanner) : Scanner :=
  let c := s.cursor
  let (cursor, keyAllowed) := seek s.inFlow s.keyAllowed false c.index c.line c.column c.rest
  { s with cursor, keyAllowed }

/-! ### Keys -/

/-- Gives up the places at which a key started too long ago. -/
def dropStale (s : Scanner) : Option Scanner := do
  let stale (key : Option PossibleKey) : Bool := key.any (·.isStale s.cursor)
  if s.keys.any fun key => stale key && key.any (·.required) then none
  else return { s with keys := s.keys.map fun key => if stale key then none else key }

/-- Gives up the innermost place at which a key may have started. -/
def dropKey (s : Scanner) : Option Scanner :=
  match s.keys with
  | some k :: rest => if k.required then none else some { s with keys := none :: rest }
  | _ => some s

/-- Remembers this place if a key may start here. -/
def saveKey (s : Scanner) : Option Scanner :=
  if !s.keyAllowed then some s
  else do
    let s ← s.dropKey
    let c := s.cursor
    let required := !s.inFlow && s.indent == some c.column
    let k : PossibleKey := ⟨s.tokens.length, c.index, c.line, c.column, required⟩
    return { s with keys := some k :: s.keys.tail }

/-! ### Indentation -/

/-- The open block collections after those to the right of a column are closed, and their number. -/
def closing (column : Nat) : List Nat → Nat × List Nat
  | [] => (0, [])
  | n :: rest =>
    if column < n then
      let (k, rest') := closing column rest
      (k + 1, rest')
    else (0, n :: rest)

/-- Closes some block collections. -/
def close (s : Scanner) (closed : Nat × List Nat) : Scanner :=
  { s with
    indents := closed.2
    tokens := List.replicate closed.1 .blockEnd ++ s.tokens }

/-- Closes the block collections to the right of a column. -/
def unroll (s : Scanner) (column : Nat) : Scanner :=
  if s.inFlow then s else s.close (closing column s.indents)

/-- Closes all block collections. -/
def unrollAll (s : Scanner) : Scanner :=
  if s.inFlow then s else s.close (s.indents.length, [])

/-- Whether a block collection starts at a column. -/
def opens (s : Scanner) (column : Nat) : Bool :=
  !s.inFlow && s.indent.all fun n => decide (n < column)

/-- Opens a block collection at a column, if none is open there. -/
def roll (s : Scanner) (column : Nat) (t : Token) : Scanner :=
  if s.opens column then { s.push t with indents := column :: s.indents } else s

/-! ### Tokens -/

/-- The mark of a document. -/
def documentMark (s : Scanner) (t : Token) : Option Scanner := do
  let s ← s.unrollAll.dropKey
  return { s.push t with cursor := s.cursor.skip 3, keyAllowed := false }

/-- A number of at most nine digits, and what follows it. -/
def versionPart (cs : List Char) : Option (Nat × List Char) :=
  match cs.span Char.isDigit with
  | ([], _) => none
  | (ds, rest) =>
    if 9 < ds.length then none
    else some (ds.foldl (fun n c => 10 * n + (c.toNat - 48)) 0, rest)

/-- The version of YAML that a text says it is in, and what follows it. -/
def versionOf (cs : List Char) : Option (Token × List Char) := do
  let (major, rest) ← versionPart (cs.dropWhile isBlank)
  if rest.head? ≠ some '.' then none
  let (minor, rest) ← versionPart rest.tail
  return (.version major minor, rest)

/-- What the line of a directive says, and the end of the line. A comment may stand before that. -/
def directiveLine (cs : List Char) : Option (Token × List Char) := do
  let (name, rest) := (cs.drop 1).span isNameChar
  if !startsBlank rest then none
  let (token, rest) ←
    match String.ofList name with
    | "YAML" => versionOf rest
    | "TAG" => (Tag.declaration rest).map fun d => (.handle d.1.1 d.1.2, d.2)
    | _ => none
  let after := rest.dropWhile isBlank
  let after := if after.head? = some '#' then after.dropWhile (!isBreak ·) else after
  if after.isEmpty || after.head?.any isBreak then return (token, after) else none

/-- A line that says something about the text as a whole. -/
def directive (s : Scanner) : Option Scanner := do
  let s ← s.unrollAll.dropKey
  let (token, rest) ← directiveLine s.cursor.rest
  return { s.push token with cursor := (s.cursor.upTo rest).nextLine, keyAllowed := false }

/-- The start of a collection in brackets or braces. -/
def flowStart (s : Scanner) (t : Token) : Option Scanner := do
  let s ← s.saveKey
  return { s.pushOne t with flow := s.flow + 1, keys := none :: s.keys, keyAllowed := true }

/-- Its end. -/
def flowEnd (s : Scanner) (t : Token) : Option Scanner := do
  let s ← s.dropKey
  let keys := if s.inFlow then s.keys.tail else s.keys
  return { s.pushOne t with flow := s.flow - 1, keys, keyAllowed := false }

/-- A comma between items. -/
def flowEntry (s : Scanner) : Option Scanner := do
  let s ← s.dropKey
  return { s.pushOne .flowEntry with keyAllowed := true }

/-- A dash before an item. -/
def blockEntry (s : Scanner) : Option Scanner := do
  if !s.inFlow && !s.keyAllowed then none
  let s ← (s.roll s.cursor.column .blockSequenceStart).dropKey
  return { s.pushOne .blockEntry with keyAllowed := true }

/-- A question mark before a key. -/
def explicitKey (s : Scanner) : Option Scanner := do
  if !s.inFlow && !s.keyAllowed then none
  let s ← (s.roll s.cursor.column .blockMappingStart).dropKey
  return { s.pushOne .key with keyAllowed := !s.inFlow }

/-- A colon before a value. What was read since the place where a key may have started becomes
the key. -/
def value (s : Scanner) : Option Scanner :=
  match s.keys with
  | some k :: rest =>
    -- The key was read before it was known to be one, so its token goes in front of it.
    let s' :=
      if s.opens k.column then
        { s.insertAt k.position [.key, .blockMappingStart] with indents := k.column :: s.indents }
      else s.insertAt k.position [.key]
    some { s'.pushOne .value with keys := none :: rest, keyAllowed := false }
  | _ =>
    if !s.inFlow && !s.keyAllowed then none
    else
      let s' := s.roll s.cursor.column .blockMappingStart
      some { s'.pushOne .value with keyAllowed := !s.inFlow }

/-- Whether the name of an anchor may end before a text. -/
def endsName (cs : List Char) : Bool :=
  startsBlank cs || cs.head?.any (['?', ':', ',', ']', '\x7d', '%', '@', '\x60'].contains ·)

/-- A name given to a value, or a name that stands for one. -/
def named (s : Scanner) (t : String → Token) : Option Scanner := do
  let s ← s.saveKey
  let (name, rest) := (s.cursor.rest.drop 1).span isNameChar
  if name.isEmpty || !endsName rest then none
  return { s.push (t (String.ofList name)) with cursor := s.cursor.upTo rest, keyAllowed := false }

/-- A tag. Inside brackets and braces a comma may follow it at once. -/
def tag (s : Scanner) : Option Scanner := do
  let s ← s.saveKey
  let (mark, rest) ← Tag.Mark.read? s.cursor.rest
  if !(startsBlank rest || (s.inFlow && rest.head? == some ',')) then none
  return { s.push (.tag mark) with cursor := s.cursor.upTo rest, keyAllowed := false }

/-- A scalar that was read. -/
def scalar (s : Scanner) (style : Style) (r : Read) : Scanner :=
  { s.push (.scalar style (String.ofList r.text)) with cursor := r.after }

/-- A plain scalar. If it ends at the start of a line, a key may start there. -/
def plainScalar (s : Scanner) : Option Scanner := do
  let s ← s.saveKey
  let r ← readPlain s.inFlow s.least s.cursor
  return { s.scalar .plain r with keyAllowed := r.broken }

/-- A quoted scalar. -/
def quotedScalar (s : Scanner) (quote : Char) : Option Scanner := do
  let s ← s.saveKey
  let r ← readQuoted quote s.cursor
  return { s.scalar .quoted r with keyAllowed := false }

/-- A block of lines. -/
def blockScalar (s : Scanner) (style : Style) : Option Scanner := do
  let s ← s.dropKey
  let r ← readBlock (style == .folded) s.indent s.cursor
  return { s.scalar style r with keyAllowed := true }

/-- The characters that no plain scalar starts with, some of them only if a blank follows. -/
def isIndicator (c : Char) : Bool :=
  ['-', '?', ':', ',', '[', ']', '\x7b', '\x7d', '#', '&', '*', '!', '|', '>', '\'', '"', '%', '@',
    '\x60'].contains c

/-- Whether a plain scalar starts with a character and what follows it. -/
def startsPlain (inFlow : Bool) (c : Char) (rest : List Char) : Bool :=
  (!isIndicator c && !isBlank c) || (c == '-' && !(rest.head?.any isBlank)) ||
    (!inFlow && (c == '?' || c == ':') && !startsBlank rest)

/-- The next token, whose first character is `c`. -/
def token (s : Scanner) (c : Char) (rest : List Char) : Option Scanner :=
  if s.cursor.column = 0 ∧ c = '%' then s.directive
  else if s.cursor.atMark '-' then s.documentMark .documentStart
  else if s.cursor.atMark '.' then s.documentMark .documentEnd
  else if c = '[' then s.flowStart .flowSequenceStart
  else if c = '\x7b' then s.flowStart .flowMappingStart
  else if c = ']' then s.flowEnd .flowSequenceEnd
  else if c = '\x7d' then s.flowEnd .flowMappingEnd
  else if c = ',' then s.flowEntry
  else if c = '-' ∧ startsBlank rest then s.blockEntry
  else if c = '?' ∧ (s.inFlow ∨ startsBlank rest) then s.explicitKey
  else if c = ':' ∧ (s.inFlow ∨ startsBlank rest) then s.value
  else if c = '*' then s.named .alias
  else if c = '&' then s.named .anchor
  else if c = '!' then s.tag
  else if c = '|' ∧ !s.inFlow then s.blockScalar .literal
  else if c = '>' ∧ !s.inFlow then s.blockScalar .folded
  else if c = '\'' ∨ c = '"' then s.quotedScalar c
  else if startsPlain s.inFlow c rest then s.plainScalar
  else none

/-- The end of the text. -/
def finish (s : Scanner) : Option Scanner := s.unrollAll.dropKey

/-- Reads tokens up to the end of the text. -/
def run : Nat → Scanner → Option Scanner
  | 0, _ => none
  | fuel + 1, s => do
    let s ← s.toNext.dropStale
    let s := s.unroll s.cursor.column
    match s.cursor.rest with
    | [] => s.finish
    -- Every token but the end of the text takes a character, so the fuel does not run out.
    | c :: rest => run fuel (← s.token c rest)

end Scanner

/-- The tokens of a text. -/
def scan (cs : List Char) : Option (List Token) :=
  if !cs.all isPrintable then none
  else (Scanner.run (cs.length + 1) { cursor := ⟨cs, 0, 0, 0⟩ }).map (·.tokens.reverse)

end Yaml

end Arbitration
