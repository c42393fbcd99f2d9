import Arbitration.Json.Basic
import Arbitration.Text.Hex

/-!
# Reading JSON text

A reader takes a value from the front of a list of characters and gives what follows it. Whole
numbers that fit 64 bits, with or without a sign, are read as such; every other number, the
negative zero among them, is read as a fraction. Values may be nested 127 deep.
-/

namespace Arbitration

namespace Json

/-! ### Blanks and strings -/

/-- Whether a character may stand between the parts of a JSON text. -/
def isSpace (c : Char) : Bool := c == ' ' || c == '\n' || c == '\t' || c == '\r'

/-- What follows the blanks at the front. -/
def skipSpace (cs : List Char) : List Char := cs.dropWhile isSpace

/-- The characters up to the closing quote, escapes unread, and what follows the quote. -/
def takeString : List Char → Option (List Char × List Char)
  | [] => none
  | '"' :: rest => some ([], rest)
  | '\\' :: c :: rest => (takeString rest).map fun r => ('\\' :: c :: r.1, r.2)
  | c :: rest => (takeString rest).map fun r => (c :: r.1, r.2)

/-- The code that a backslash and one character stand for. -/
def shortEscape (c : Char) : Option Nat :=
  match c with
  | '"' => some 34
  | '\\' => some 92
  | '/' => some 47
  | 'b' => some 8
  | 'f' => some 12
  | 'n' => some 10
  | 'r' => some 13
  | 't' => some 9
  | _ => none

/-- The number of four hexadecimal digits. -/
def unitValue (a b c d : Char) : Option Nat := do
  return 4096 * (← Text.hexValue a) + 256 * (← Text.hexValue b) + 16 * (← Text.hexValue c) +
    (← Text.hexValue d)

/-- The codes of the characters between two quotes: code points, and the halves of surrogate
pairs. -/
def unescape : List Char → Option (List Nat)
  | [] => some []
  | '\\' :: 'u' :: a :: b :: c :: d :: rest => do
    let unit ← unitValue a b c d
    return unit :: (← unescape rest)
  | '\\' :: c :: rest => do
    let code ← shortEscape c
    return code :: (← unescape rest)
  | c :: rest =>
    if c = '\\' ∨ c.toNat < 32 then none else (unescape rest).map (c.toNat :: ·)

/-- Joins surrogate pairs; a half without its partner is refused. -/
def joinPairs : List Nat → Option (List Char)
  | [] => some []
  | n :: rest =>
    if 0xD800 ≤ n ∧ n < 0xDC00 then
      match rest with
      | low :: rest' =>
        if 0xDC00 ≤ low ∧ low < 0xE000 then
          (joinPairs rest').map (Char.ofNat (0x10000 + (n - 0xD800) * 1024 + (low - 0xDC00)) :: ·)
        else none
      | [] => none
    else if 0xDC00 ≤ n ∧ n < 0xE000 then none
    else (joinPairs rest).map (Char.ofNat n :: ·)

/-- A string whose opening quote has been taken. -/
def readString (cs : List Char) : Option (String × List Char) := do
  let (body, rest) ← takeString cs
  return (String.ofList (← joinPairs (← unescape body)), rest)

/-! ### Numbers -/

/-- The value of a decimal digit. -/
def digitValue (c : Char) : Nat := c.toNat - 48

/-- The number that some decimal digits stand for. -/
def natOfDigits (ds : List Char) : Nat := ds.foldl (fun n c => 10 * n + digitValue c) 0

/-- `n` followed by as many of the digits as leave it below `2 ^ 64`, and the digits left over. -/
def extend (n : Nat) : List Char → Nat × List Char
  | [] => (n, [])
  | c :: rest =>
    if 10 * n + digitValue c < UInt64.size then extend (10 * n + digitValue c) rest
    else (n, c :: rest)

/-- The digits at the front and what follows them. -/
def takeDigits (cs : List Char) : List Char × List Char := cs.span Char.isDigit

/-- The exponent after its mark: an optional sign and one digit or more. -/
def readExponent (cs : List Char) : Option (Int × List Char) :=
  let (negative, rest) :=
    match cs with
    | '-' :: r => (true, r)
    | '+' :: r => (false, r)
    | r => (false, r)
  match takeDigits rest with
  | ([], _) => none
  | (ds, after) => some (if negative then -(natOfDigits ds : Int) else natOfDigits ds, after)

/-- The number with a fraction or an exponent that the digits stand for. -/
def realOfDecimal (negative : Bool) (digits : Nat) (exponent : Int) : Option Json :=
  (Magnitude.ofDecimal digits exponent).map fun x => real ⟨negative, x⟩

/-- The rest of a number after the digits before its point. Digits beyond the first nineteen or
twenty do not count: before the point they raise the exponent, after it they are passed over. -/
def readTail (negative : Bool) (whole : List Char) (cs : List Char) : Option (Json × List Char) :=
  let (n, dropped) := extend 0 whole
  match cs with
  | '.' :: afterPoint => do
    let (fraction, rest) := takeDigits afterPoint
    if fraction.isEmpty then none
    else
      let (digits, unread) := extend n fraction
      let exponent : Int := dropped.length - (fraction.length - unread.length : Nat)
      match rest with
      | 'e' :: afterMark | 'E' :: afterMark => do
        let (e, rest') ← readExponent afterMark
        return (← realOfDecimal negative digits (exponent + e), rest')
      | _ => return (← realOfDecimal negative digits exponent, rest)
  | 'e' :: afterMark | 'E' :: afterMark => do
    let (e, rest) ← readExponent afterMark
    return (← realOfDecimal negative n (dropped.length + e), rest)
  | _ =>
    if !dropped.isEmpty || (negative && (n == 0 || Nat.pow 2 63 < n)) then do
      return (← realOfDecimal negative n dropped.length, cs)
    else some (int (if negative then -(n : Int) else n), cs)

/-- A number after its sign. A zero at the front stands alone. -/
def readNumber (negative : Bool) (cs : List Char) : Option (Json × List Char) :=
  match takeDigits cs with
  | ([], _) => none
  | ('0' :: _ :: _, _) => none
  | (whole, rest) => readTail negative whole rest

/-! ### Values -/

/-- A text that must stand at the front, and what follows it. -/
def expect (word cs : List Char) : Option (List Char) :=
  if word.isPrefixOf cs then some (cs.drop word.length) else none

/-- The number of containers that may be open at once. -/
def maxDepth : Nat := 127

mutual

/-- A value at the front, inside at most `depth` further containers. -/
def readValue : Nat → Nat → List Char → Option (Json × List Char)
  | 0, _, _ => none
  | fuel + 1, depth, cs =>
    match skipSpace cs with
    | [] => none
    | 'n' :: rest => (expect ['u', 'l', 'l'] rest).map (null, ·)
    | 't' :: rest => (expect ['r', 'u', 'e'] rest).map (bool true, ·)
    | 'f' :: rest => (expect ['a', 'l', 's', 'e'] rest).map (bool false, ·)
    | '"' :: rest => (readString rest).map fun r => (str r.1, r.2)
    | '-' :: rest => readNumber true rest
    | '[' :: rest =>
      match depth with
      | 0 => none
      | depth + 1 =>
        match skipSpace rest with
        | ']' :: rest' => some (arr [], rest')
        | _ => do
          let (v, rest') ← readValue fuel depth rest
          let (items, rest'') ← readItems fuel depth rest'
          return (arr (v :: items), rest'')
    | '\x7b' :: rest =>
      match depth with
      | 0 => none
      | depth + 1 =>
        match skipSpace rest with
        | '\x7d' :: rest' => some (obj [], rest')
        | _ => do
          let (m, rest') ← readMember fuel depth rest
          let (members, rest'') ← readMembers fuel depth rest'
          return (obj (m :: members), rest'')
    | c :: rest => if c.isDigit then readNumber false (c :: rest) else none

/-- The items of an array after one of them, up to the closing bracket. -/
def readItems : Nat → Nat → List Char → Option (List Json × List Char)
  | 0, _, _ => none
  | fuel + 1, depth, cs =>
    match skipSpace cs with
    | ']' :: rest => some ([], rest)
    | ',' :: rest => do
      let (v, rest') ← readValue fuel depth rest
      let (items, rest'') ← readItems fuel depth rest'
      return (v :: items, rest'')
    | _ => none

/-- A key, a colon and a value. -/
def readMember : Nat → Nat → List Char → Option ((String × Json) × List Char)
  | 0, _, _ => none
  | fuel + 1, depth, cs =>
    match skipSpace cs with
    | '"' :: rest => do
      let (key, rest') ← readString rest
      match skipSpace rest' with
      | ':' :: rest'' => do
        let (v, rest''') ← readValue fuel depth rest''
        return ((key, v), rest''')
      | _ => none
    | _ => none

/-- The members of an object after one of them, up to the closing brace. -/
def readMembers : Nat → Nat → List Char → Option (List (String × Json) × List Char)
  | 0, _, _ => none
  | fuel + 1, depth, cs =>
    match skipSpace cs with
    | '\x7d' :: rest => some ([], rest)
    | ',' :: rest => do
      let (m, rest') ← readMember fuel depth rest
      let (members, rest'') ← readMembers fuel depth rest'
      return (m :: members, rest'')
    | _ => none

end

/-- The value that the characters hold, and nothing but blanks around it. -/
def readWithin (depth : Nat) (cs : List Char) : Option Json := do
  let (v, rest) ← readValue (2 * cs.length + 2) depth cs
  if (skipSpace rest).isEmpty then return v else none

/-- The value of a JSON text. -/
def parse (s : String) : Option Json := readWithin maxDepth s.toList

end Json

end Arbitration
