import Arbitration.Calendar
import Arbitration.Text.Quoted
import Arbitration.Timestamp.Basic

/-!
# Timestamps as text

An instant is written as date, `T`, time and `Z`. Two forms are read. The strict one is what
people give for a starting instant: a four-digit year, no blanks but one in the place of the
`T`, and `Z` at the end; any fraction of a second is dropped. The lax one is what records hold:
any year with a sign, blanks between the parts, any offset from universal time, and the fraction
is kept.
-/

namespace Arbitration

namespace Timestamp

/-! ### Writing -/

/-- A number in decimal with zeros in front up to a width. -/
def padded (width n : Nat) : String :=
  let digits := Nat.toDigits 10 n
  String.ofList (List.replicate (width - digits.length) '0' ++ digits)

/-- A year: four digits, and a sign where four do not suffice. -/
def yearText (year : Int) : String :=
  if 0 ≤ year ∧ year ≤ 9999 then padded 4 year.toNat
  else (if year < 0 then "-" else "+") ++ padded 4 year.natAbs

/-- The second of the day in which an instant lies. -/
def secondOfDay (t : Timestamp) : Nat := (t.seconds % 86400).toNat

/-- The date on which an instant lies. -/
def date (t : Timestamp) : Date := Date.ofDays (t.seconds / 86400)

/-- Date and time up to the second, which is the sixtieth within a leap second. -/
def isoChars (t : Timestamp) : String :=
  let d := t.date
  let s := t.secondOfDay
  yearText d.year ++ "-" ++ padded 2 d.month ++ "-" ++ padded 2 d.day ++ "T" ++
    padded 2 (s / 3600) ++ ":" ++ padded 2 (s / 60 % 60) ++ ":" ++
    padded 2 (s % 60 + t.nanos / 1000000000)

/-- An instant without its fraction of a second. -/
def iso (t : Timestamp) : String := t.isoChars ++ "Z"

/-- A fraction of a second: none, or three, six or nine digits. -/
def fractionText (nanos : Nat) : String :=
  if nanos = 0 then ""
  else if nanos % 1000000 = 0 then "." ++ padded 3 (nanos / 1000000)
  else if nanos % 1000 = 0 then "." ++ padded 6 (nanos / 1000)
  else "." ++ padded 9 nanos

/-- An instant in full, as records hold it. -/
def text (t : Timestamp) : String := t.isoChars ++ fractionText (t.nanos % 1000000000) ++ "Z"

instance : ToString Timestamp := ⟨iso⟩

/-! ### Reading -/

/-- What is wrong with a text that should hold an instant. -/
inductive ReadFault where
  | tooShort
  | invalid
  | outOfRange
  | tooLong
  deriving DecidableEq, Repr

/-- The phrase for a fault. -/
def ReadFault.message : ReadFault → String
  | tooShort => "premature end of input"
  | invalid => "input contains invalid characters"
  | outOfRange => "input is out of range"
  | tooLong => "trailing input"

/-- The number that some decimal digits stand for. -/
def digitsValue (ds : List Char) : Nat := ds.foldl (fun n c => 10 * n + (c.toNat - 48)) 0

/-- A number of at least `least` and, where a bound is given, at most `most` digits. -/
def number (least : Nat) (most : Option Nat) (cs : List Char) :
    Except ReadFault (Nat × List Char) :=
  if cs.length < least then .error .tooShort
  else
    let window := match most with | some m => cs.take m | none => cs
    let ds := window.takeWhile Char.isDigit
    if ds.length < least then .error .invalid else .ok (digitsValue ds, cs.drop ds.length)

/-- A character that must stand at the front. -/
def literal (c : Char) : List Char → Except ReadFault (List Char)
  | [] => .error .tooShort
  | d :: rest => if c = d then .ok rest else .error .invalid

/-- Passes a value on if a condition holds. -/
def within (ok : Bool) : Except ReadFault Unit := if ok then .ok () else .error .outOfRange

/-- Nanoseconds from the digits after the point, of which nine count. -/
def fraction (cs : List Char) : Except ReadFault (Nat × List Char) := do
  let (n, rest) ← number 1 (some 9) cs
  let read := cs.length - rest.length
  return (n * Nat.pow 10 (9 - read), rest.dropWhile Char.isDigit)

/-- The characters between hours and minutes of an offset: exactly one colon, or any blanks and
colons. -/
def offsetSeparator (lax : Bool) (cs : List Char) : Except ReadFault (List Char) :=
  if lax then .ok (cs.dropWhile fun c => c == ':' || Text.isBlank c) else literal ':' cs

/-- An offset from universal time in seconds. -/
def offset (lax : Bool) (cs : List Char) : Except ReadFault (Int × List Char) :=
  match cs with
  | [] => .error .tooShort
  | c :: rest =>
    if c = 'Z' ∨ c = 'z' then .ok (0, rest)
    else if c = '+' ∨ c = '-' ∨ c.toNat = 0x2212 then do
      let (hours, rest) ← number 2 (some 2) rest
      let rest ← offsetSeparator lax rest
      let (minutes, rest) ← number 2 (some 2) rest
      within (minutes < 60)
      let secs : Int := 3600 * hours + 60 * minutes
      within (secs < 86400)
      return (if c = '+' then secs else -secs, rest)
    else .error .invalid

/-- The instant of a date and a time of day at an offset. The sixtieth second is a leap second. -/
def ofCivil (d : Date) (hour minute second nanos : Nat) (off : Int) : Except ReadFault Timestamp :=
  if !d.exists? then .error .outOfRange
  else
    let leap := second == 60
    let secs : Int := 3600 * hour + 60 * minute + (if leap then 59 else second : Nat)
    let nanos := if leap then nanos + 1000000000 else nanos
    match ofParts? (86400 * d.toDays + secs) nanos with
    | none => .error .outOfRange
    | some t =>
      match ofParts? (t.seconds - off) nanos with
      | none => .error .outOfRange
      | some u => .ok u

/-- A fraction of a second where a point announces one. -/
def optionalFraction : List Char → Except ReadFault (Nat × List Char)
  | '.' :: rest => fraction rest
  | cs => .ok (0, cs)

/-- A number of exactly so many digits. -/
def exactly (width : Nat) (cs : List Char) : Except ReadFault (Nat × List Char) :=
  number width (some width) cs

/-- The character between date and time. -/
def dateTimeSeparator : List Char → Except ReadFault (List Char)
  | [] => .error .tooShort
  | c :: rest => if c = 'T' ∨ c = 't' ∨ c = ' ' then .ok rest else .error .invalid

/-- The strict form. -/
def readStrict (cs : List Char) : Except ReadFault Timestamp := do
  if (String.ofList cs).utf8ByteSize < 19 then throw .tooShort
  let (year, cs) ← exactly 4 cs
  let cs ← literal '-' cs
  let (month, cs) ← exactly 2 cs
  within (1 ≤ month && month ≤ 12)
  let cs ← literal '-' cs
  let (day, cs) ← exactly 2 cs
  within (1 ≤ day && day ≤ 31)
  let cs ← dateTimeSeparator cs
  let (hour, cs) ← exactly 2 cs
  within (hour < 24)
  let cs ← literal ':' cs
  let (minute, cs) ← exactly 2 cs
  within (minute < 60)
  let cs ← literal ':' cs
  let (second, cs) ← exactly 2 cs
  within (second ≤ 60)
  let (nanos, cs) ← optionalFraction cs
  let (off, cs) ← offset false cs
  if !cs.isEmpty then throw .tooLong
  ofCivil ⟨year, month, day⟩ hour minute second nanos off

/-- Blanks and then a number of one or two digits. -/
def laxPair (cs : List Char) : Except ReadFault (Nat × List Char) :=
  number 1 (some 2) (cs.dropWhile Text.isBlank)

/-- Blanks and then a character. -/
def laxLiteral (c : Char) (cs : List Char) : Except ReadFault (List Char) :=
  literal c (cs.dropWhile Text.isBlank)

/-- A year: up to four digits, or a sign and any number of them. -/
def laxYear (cs : List Char) : Except ReadFault (Int × List Char) :=
  match cs.dropWhile Text.isBlank with
  | '-' :: rest => do
    let (n, rest) ← number 1 none rest
    return (-(n : Int), rest)
  | '+' :: rest => do
    let (n, rest) ← number 1 none rest
    return ((n : Int), rest)
  | cs => do
    let (n, rest) ← number 1 (some 4) cs
    return ((n : Int), rest)

/-- An offset in the lax form, where the name of universal time may stand for none. -/
def laxOffset (cs : List Char) : Except ReadFault (Int × List Char) :=
  if (cs.take 3).map Char.toLower = ['u', 't', 'c'] then .ok (0, cs.drop 3) else offset true cs

/-- The lax form. -/
def readLax (cs : List Char) : Except ReadFault Timestamp := do
  let (year, cs) ← laxYear cs
  let cs ← laxLiteral '-' cs
  let (month, cs) ← laxPair cs
  let cs ← laxLiteral '-' cs
  let (day, cs) ← laxPair cs
  let cs ← dateTimeSeparator cs
  let (hour, cs) ← laxPair cs
  within (hour < 24)
  let cs ← laxLiteral ':' cs
  let (minute, cs) ← laxPair cs
  within (minute < 60)
  let cs ← laxLiteral ':' cs
  let (second, cs) ← laxPair cs
  within (second ≤ 60)
  let (nanos, cs) ← optionalFraction cs
  let (off, cs) ← laxOffset (cs.dropWhile Text.isBlank)
  if !(cs.all Text.isBlank) then throw .tooLong
  ofCivil ⟨year, month, day⟩ hour minute second nanos off

/-! ### The public forms -/

/-- Why there is no such instant. -/
inductive Error where
  /-- The text does not end in `Z`. -/
  | notUtc (s : String)
  /-- The text does not hold an instant. -/
  | malformed (s : String) (fault : ReadFault)
  /-- The calendar has no such second. -/
  | epoch (seconds : Int)
  deriving DecidableEq, Repr

/-- The message of a refusal. -/
def Error.message : Error → String
  | notUtc s => "invalid timestamp: timestamp must use Z suffix (UTC only), got: " ++ Text.quoted s
  | malformed s fault => "invalid timestamp: " ++ Text.quoted s ++ ": " ++ fault.message
  | epoch seconds => "invalid timestamp: unix timestamp " ++ toString seconds

/-- The whole second that a text in the strict form names. -/
def parse (s : String) : Except Error Timestamp :=
  if s.toList.getLast? ≠ some 'Z' then .error (.notUtc s)
  else
    match readStrict s.toList with
    | .ok t => .ok t.truncate
    | .error fault => .error (.malformed s fault)

/-- The whole second with a number. -/
def ofEpoch (seconds : Int) : Except Error Timestamp :=
  match ofEpoch? seconds with
  | some t => .ok t
  | none => .error (.epoch seconds)

/-- The instant that a record holds as text. -/
def read? (s : String) : Option Timestamp := (readLax s.toList).toOption

end Timestamp

end Arbitration
