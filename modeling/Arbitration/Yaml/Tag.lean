import Arbitration.Text.Hex
import Arbitration.Yaml.Cursor

/-!
# Tags

A tag says what a value is. It is written as a handle and a suffix, where the handle stands for
how the tag starts, or in full between angle brackets. A text may declare handles of its own.
Any byte of a tag may be given by a percent sign and two digits.
-/

namespace Arbitration

namespace Yaml

namespace Tag

/-! ### Known tags -/

/-- How the tags start that are known to every reader. -/
def common : String := "tag:yaml.org,2002:"

/-- What is null. -/
def null : String := common ++ "null"

/-- A truth value. -/
def boolean : String := common ++ "bool"

/-- A whole number. -/
def integer : String := common ++ "int"

/-- A fraction. -/
def fraction : String := common ++ "float"

/-- The tag that says nothing but that there is one. -/
def unspecific : String := "!"

/-- Whether a tag belongs to the text in which it stands. -/
def isLocal (tag : String) : Bool := tag.toList.head? = some '!'

/-- What a tag names that belongs to its text. -/
def localName (tag : String) : String :=
  if tag = unspecific then tag else String.ofList tag.toList.tail

/-! ### Written tags -/

/-- A tag as it is written. -/
structure Mark where
  /-- The handle, empty where the tag is written in full. -/
  handle : String
  suffix : String
  deriving DecidableEq, Repr

/-- The handles that need no declaration, with what they stand for. -/
def handles : List (String × String) := [("!", "!"), ("!!", common)]

/-- The tag that a mark stands for, if its handle is known. The handles declared last come first. -/
def Mark.tag? (m : Mark) (handles : List (String × String)) : Option String :=
  if m.handle.isEmpty then some m.suffix
  else (handles.find? (·.1 == m.handle)).map fun h => h.2 ++ m.suffix

/-- Whether a character may stand in a tag. Commas and square brackets may only where the tag is
written in full, because elsewhere they end it. -/
def allows (full : Bool) (c : Char) : Bool :=
  isNameChar c ||
    [';', '/', '?', ':', '@', '&', '=', '+', '$', '.', '!', '~', '*', '\'', '(', ')'].contains c ||
    (full && [',', '[', ']'].contains c)

/-- The bytes of a part of a tag, and what follows it. -/
def bytes (full : Bool) : List Char → Option (List UInt8 × List Char)
  | '%' :: a :: b :: rest => do
    let high ← Text.hexValue a
    let low ← Text.hexValue b
    (bytes full rest).map fun r => (UInt8.ofNat (16 * high + low) :: r.1, r.2)
  | c :: rest =>
    if c = '%' then none
    else if allows full c then (bytes full rest).map fun r => (UInt8.ofNat c.toNat :: r.1, r.2)
    else some ([], c :: rest)
  | [] => some ([], [])

/-- A part of a tag, which may be empty, and what follows it. -/
def part (full : Bool) (cs : List Char) : Option (String × List Char) := do
  let (bs, rest) ← bytes full cs
  return (← String.fromUTF8? ⟨bs.toArray⟩, rest)

/-- A part of a tag that is not empty, and what follows it. -/
def filledPart (full : Bool) (cs : List Char) : Option (String × List Char) :=
  (part full cs).filter (!·.1.isEmpty)

/-- A handle, or what could have been one but for the exclamation mark at its end, and what
follows it. -/
def takeHandle (cs : List Char) : Option (String × List Char) :=
  match cs with
  | '!' :: rest =>
    let (name, rest) := rest.span isNameChar
    match rest with
    | '!' :: rest => some (String.ofList ('!' :: name ++ ['!']), rest)
    | _ => some (String.ofList ('!' :: name), rest)
  | _ => none

/-- Whether a handle was found whole: it ends with a second exclamation mark. -/
def isWhole (handle : String) : Bool := handle.length ≠ 1 && handle.toList.getLast? == some '!'

/-- The mark at the front of a text, and what follows it. -/
def Mark.read? (cs : List Char) : Option (Mark × List Char) :=
  match cs with
  | '!' :: '<' :: rest => do
    let (tag, rest) ← filledPart true rest
    if rest.head? = some '>' then return (⟨"", tag⟩, rest.tail) else none
  | _ => do
    let (handle, rest) ← takeHandle cs
    if isWhole handle then
      let (suffix, rest) ← filledPart false rest
      return (⟨handle, suffix⟩, rest)
    else
      let (more, rest) ← part false rest
      let suffix := String.ofList handle.toList.tail ++ more
      return (if suffix.isEmpty then ⟨"", unspecific⟩ else ⟨"!", suffix⟩, rest)

/-- A declaration of a handle, and what follows it. -/
def declaration (cs : List Char) : Option ((String × String) × List Char) := do
  let (handle, rest) ← takeHandle (cs.dropWhile isBlank)
  if !(isWhole handle || handle == unspecific) || !rest.head?.any isBlank then none
  let (start, rest) ← filledPart true (rest.dropWhile isBlank)
  if startsBlank rest then return ((handle, start), rest) else none

end Tag

end Yaml

end Arbitration
