import Arbitration.Text.Hex
import Arbitration.Yaml.Cursor

/-!
# The texts of YAML scalars

A scalar is written plainly, in single or double quotes, or as a block of lines. Where plain and
quoted scalars run over several lines, a single end of a line counts as a space and every
further one as itself; blanks around the ends of lines do not count. Each reader takes a scalar
from a place and gives its text and the place after it.
-/

namespace Arbitration

namespace Yaml

/-! ### Blanks inside a scalar -/

/-- The blanks and ends of lines between two parts of a scalar. -/
structure Gap where
  /-- The blanks, as long as there is no end of a line. -/
  blanks : List Char := []
  /-- What the first end of a line counts as. -/
  first : Option (List Char) := none
  /-- What the others count as. -/
  others : List Char := []

namespace Gap

/-- Whether there is an end of a line. -/
def broken (g : Gap) : Bool := g.first.isSome

/-- What the gap counts as. -/
def text (g : Gap) : List Char :=
  match g.first with
  | none => g.blanks
  | some first =>
    if first = ['\n'] then (if g.others.isEmpty then [' '] else g.others) else first ++ g.others

/-- The gap with another blank at its end. -/
def addBlank (g : Gap) (c : Char) : Gap :=
  if g.broken then g else { g with blanks := g.blanks ++ [c] }

/-- The gap with another end of a line at its end. -/
def addBreak (g : Gap) (c : Char) : Gap :=
  if g.broken then { g with others := g.others ++ breakText c }
  else { first := some (breakText c) }

end Gap

/-- A gap at the front, and the place after it. Before column `least` a tab at the start of a
line is refused. -/
def takeGap (least : Nat) (g : Gap) (index line column : Nat) : List Char → Option (Gap × Cursor)
  | '\r' :: '\n' :: rest => takeGap least (g.addBreak '\n') (index + 2) (line + 1) 0 rest
  | c :: rest =>
    if isBlank c then
      if c = '\t' ∧ g.broken ∧ column < least then none
      else takeGap least (g.addBlank c) (index + 1) line (column + 1) rest
    else if isBreak c then takeGap least (g.addBreak c) (index + 1) (line + 1) 0 rest
    else some (g, ⟨c :: rest, index, line, column⟩)
  | [] => some (g, ⟨[], index, line, column⟩)

/-- The gap at a place. -/
def Cursor.gap (c : Cursor) (least : Nat) (g : Gap) : Option (Gap × Cursor) :=
  takeGap least g c.index c.line c.column c.rest

/-! ### Plain scalars -/

/-- Whether a character has a meaning of its own inside brackets and braces. -/
def isFlowIndicator (c : Char) : Bool :=
  c == ',' || c == '[' || c == ']' || c == '\x7b' || c == '\x7d'

/-- The part of a plain scalar up to a blank or to what ends the scalar. Inside brackets a colon
right before an indicator is refused. -/
def plainRun (inFlow : Bool) : List Char → Option (List Char × List Char)
  | [] => some ([], [])
  | c :: rest =>
    if isBlank c || isBreak c then some ([], c :: rest)
    else if inFlow && c == ':' && (rest.head?.any fun d => isFlowIndicator d || d == '?') then none
    else if (c == ':' && startsBlank rest) || (inFlow && isFlowIndicator c) then
      some ([], c :: rest)
    else (plainRun inFlow rest).map fun r => (c :: r.1, r.2)

/-- A scalar that was read. -/
structure Read where
  text : List Char
  /-- The place after it. -/
  after : Cursor
  /-- Whether the place is at the start of a later line. -/
  broken : Bool := false

/-- The rest of a plain scalar after a gap. -/
def plainFrom (inFlow : Bool) (least : Nat) : Nat → Gap → Cursor → Option Read
  | 0, _, _ => none
  | fuel + 1, g, c =>
    if c.atDocumentMark || c.rest.head? == some '#' then some ⟨[], c, g.broken⟩
    else do
      let (run, rest) ← plainRun inFlow c.rest
      if run.isEmpty then return ⟨[], c, g.broken⟩
      let end' := c.upTo rest
      if !rest.isEmpty && startsBlank rest then
        let (g', c') ← end'.gap least {}
        if !inFlow && c'.column < least then return ⟨g.text ++ run, c', g'.broken⟩
        let more ← plainFrom inFlow least fuel g' c'
        return { more with text := g.text ++ run ++ more.text }
      else return ⟨g.text ++ run, end', false⟩

/-- A plain scalar. Outside of brackets its lines start at column `least` or later. -/
def readPlain (inFlow : Bool) (least : Nat) (c : Cursor) : Option Read :=
  plainFrom inFlow least (c.rest.length + 1) {} c

/-! ### Quoted scalars -/

/-- What a part of a quoted scalar ends with. -/
inductive RunEnd where
  /-- The closing quote, a blank, the end of a line or of the text: it is yet to be read. -/
  | plain (rest : List Char)
  /-- A backslash and the end of a line, which do not count. -/
  | joined (rest : List Char)

/-- A part of a scalar in single quotes, up to a blank or the closing quote. -/
def singleRun : List Char → List Char × List Char
  | '\'' :: '\'' :: rest => let r := singleRun rest; ('\'' :: r.1, r.2)
  | '\'' :: rest => ([], '\'' :: rest)
  | c :: rest =>
    if isBlank c || isBreak c then ([], c :: rest) else let r := singleRun rest; (c :: r.1, r.2)
  | [] => ([], [])

/-- What a backslash and one character stand for. -/
def shortEscape (c : Char) : Option Nat :=
  match c with
  | '0' => some 0
  | 'a' => some 7
  | 'b' => some 8
  | 't' => some 9
  | '\t' => some 9
  | 'n' => some 10
  | 'v' => some 11
  | 'f' => some 12
  | 'r' => some 13
  | 'e' => some 27
  | ' ' => some 32
  | '"' => some 34
  | '/' => some 47
  | '\\' => some 92
  | 'N' => some 0x85
  | '_' => some 0xA0
  | 'L' => some 0x2028
  | 'P' => some 0x2029
  | _ => none

/-- The character whose number some hexadecimal digits give, unless there is none. -/
def numbered (digits : List Char) : Option Char := do
  let n ← digits.foldlM (fun n d => (Text.hexValue d).map fun v => 16 * n + v) 0
  if (0xD800 ≤ n ∧ n ≤ 0xDFFF) ∨ 0x10FFFF < n then none else some (Char.ofNat n)

/-- A part of a scalar in double quotes, up to a blank or the closing quote. -/
def doubleRun : List Char → Option (List Char × RunEnd)
  | '"' :: rest => some ([], .plain ('"' :: rest))
  | '\\' :: '\r' :: '\n' :: rest => some ([], .joined rest)
  | '\\' :: 'x' :: a :: b :: rest => do
    let c ← numbered [a, b]
    (doubleRun rest).map fun r => (c :: r.1, r.2)
  | '\\' :: 'u' :: a :: b :: d :: e :: rest => do
    let c ← numbered [a, b, d, e]
    (doubleRun rest).map fun r => (c :: r.1, r.2)
  | '\\' :: 'U' :: a :: b :: d :: e :: f :: g :: h :: i :: rest => do
    let c ← numbered [a, b, d, e, f, g, h, i]
    (doubleRun rest).map fun r => (c :: r.1, r.2)
  | '\\' :: c :: rest =>
    if isBreak c then some ([], .joined rest)
    else do
      let n ← shortEscape c
      (doubleRun rest).map fun r => (Char.ofNat n :: r.1, r.2)
  | c :: rest =>
    if c = '\\' then none
    else if isBlank c || isBreak c then some ([], .plain (c :: rest))
    else (doubleRun rest).map fun r => (c :: r.1, r.2)
  | [] => some ([], .plain [])

/-- A part of a quoted scalar. -/
def quotedRun (quote : Char) (cs : List Char) : Option (List Char × RunEnd) :=
  if quote = '\'' then let r := singleRun cs; some (r.1, .plain r.2) else doubleRun cs

/-- The rest of a quoted scalar after its opening quote or a gap. -/
def quotedFrom (quote : Char) : Nat → Cursor → Option Read
  | 0, _ => none
  | fuel + 1, c =>
    if c.atDocumentMark || c.rest.isEmpty then none
    else do
      let (run, stop) ← quotedRun quote c.rest
      match stop with
      | .joined rest =>
        let next : Cursor := ⟨rest, (c.upTo rest).index, c.line + 1, 0⟩
        let (g, c') ← next.gap 0 { first := some [] }
        let more ← quotedFrom quote fuel c'
        return { more with text := run ++ g.text ++ more.text }
      | .plain rest =>
        let stop := c.upTo rest
        if rest.head? = some quote then return ⟨run, stop.skip 1, false⟩
        let (g, c') ← stop.gap 0 {}
        let more ← quotedFrom quote fuel c'
        return { more with text := run ++ g.text ++ more.text }

/-- A quoted scalar from its opening quote. -/
def readQuoted (quote : Char) (c : Cursor) : Option Read :=
  quotedFrom quote (c.rest.length + 1) (c.skip 1)

/-! ### Block scalars -/

/-- What becomes of the ends of lines at the end of a block. -/
inductive Chomping where
  | strip
  | clip
  | keep
  deriving DecidableEq

/-- The sign for it. -/
def chomping? : List Char → Option (Chomping × List Char)
  | '-' :: rest => some (.strip, rest)
  | '+' :: rest => some (.keep, rest)
  | _ => none

/-- The number of columns by which a block is indented, where it is given. -/
def increment? : List Char → Option (Nat × List Char)
  | c :: rest => if c.isDigit then some (c.toNat - 48, rest) else none
  | [] => none

/-- The signs after the mark of a block, in either order, and what follows them. -/
def blockSigns (cs : List Char) : Chomping × Option Nat × List Char :=
  match chomping? cs with
  | some (chomping, rest) =>
    match increment? rest with
    | some (n, rest') => (chomping, some n, rest')
    | none => (chomping, none, rest)
  | none =>
    match increment? cs with
    | some (n, rest) =>
      match chomping? rest with
      | some (chomping, rest') => (chomping, some n, rest')
      | none => (.clip, some n, rest)
    | none => (.clip, none, cs)

/-- Empty lines in a block and the indentation of the next line, of which at most `indent`
columns count if the indentation is known: what the ends of lines count as, the greatest
indentation, the place. -/
def takeEmptyLines (indent : Option Nat) (text : List Char) (most : Nat) (index line column : Nat) :
    List Char → Option (List Char × Nat × Cursor)
  | '\r' :: '\n' :: rest =>
    takeEmptyLines indent (text ++ ['\n']) (max most column) (index + 2) (line + 1) 0 rest
  | c :: rest =>
    let inside := indent.all fun n => decide (column < n)
    if c = ' ' ∧ inside then
      takeEmptyLines indent text most (index + 1) line (column + 1) rest
    else if c = '\t' ∧ inside then none
    else if isBreak c then
      takeEmptyLines indent (text ++ breakText c) (max most column) (index + 1) (line + 1) 0 rest
    else some (text, max most column, ⟨c :: rest, index, line, column⟩)
  | [] => some (text, max most column, ⟨[], index, line, column⟩)

/-- The empty lines at a place. -/
def Cursor.emptyLines (c : Cursor) (indent : Option Nat) : Option (List Char × Nat × Cursor) :=
  takeEmptyLines indent [] 0 c.index c.line c.column c.rest

/-- What stands between two lines of a block. -/
structure LineEnd where
  /-- What the end of the earlier line counts as. -/
  first : List Char := []
  /-- What the empty lines after it count as. -/
  others : List Char := []
  /-- Whether the earlier line started with a blank. -/
  afterBlank : Bool := false

/-- What it counts as: where lines are folded, a single end of a line is a space unless a line
beside it starts with a blank. -/
def LineEnd.text (e : LineEnd) (folded beforeBlank : Bool) : List Char :=
  if folded && e.first == ['\n'] && !e.afterBlank && !beforeBlank then
    if e.others.isEmpty then [' '] else e.others
  else e.first ++ e.others

/-- The lines of a block that are indented by `indent` columns. -/
def blockLines (folded : Bool) (chomping : Chomping) (indent : Nat) :
    Nat → LineEnd → Cursor → Option Read
  | 0, _, _ => none
  | fuel + 1, e, c =>
    if c.column = indent ∧ !c.rest.isEmpty then do
      let startsWithBlank := c.rest.head?.any isBlank
      let line := c.rest.takeWhile (!isBreak ·)
      let stop := c.skip line.length
      let first := (stop.rest.head?.map breakText).getD []
      let (others, _, c') ← stop.nextLine.emptyLines (some indent)
      let more ← blockLines folded chomping indent fuel ⟨first, others, startsWithBlank⟩ c'
      return { more with text := e.text folded startsWithBlank ++ line ++ more.text }
    else
      let tail :=
        match chomping with
        | .strip => []
        | .clip => e.first
        | .keep => e.first ++ e.others
      some ⟨tail, c, false⟩

/-- A block from its mark. `parent` is the indentation of what it belongs to, if there is any. -/
def readBlock (folded : Bool) (parent : Option Nat) (c : Cursor) : Option Read := do
  let (chomping, increment, rest) := blockSigns (c.rest.drop 1)
  if increment = some 0 then none
  let blanks := rest.dropWhile isBlank
  let comment :=
    if blanks.head? = some '#' then blanks.dropWhile (!isBreak ·) else blanks
  if !(comment.isEmpty || comment.head?.any isBreak) then none
  let start := (c.upTo comment).nextLine
  let given := increment.map fun n => parent.getD 0 + n
  let (others, most, c') ← start.emptyLines given
  let indent := given.getD (max most (max ((parent.map (· + 1)).getD 0) 1))
  blockLines folded chomping indent (c.rest.length + 1) { others } c'

end Yaml

end Arbitration
