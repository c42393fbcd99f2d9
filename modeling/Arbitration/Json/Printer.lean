import Arbitration.Json.Basic
import Arbitration.Text.Hex

/-!
# JSON text

Two layouts of a value: the compact one without any blank, and an indented one for people.
Strings are escaped as little as the format allows, and numbers are written in full without an
exponent.
-/

namespace Arbitration

namespace Json

/-! ### Strings -/

/-- One character inside a JSON string. -/
def escapeChar (c : Char) : List Char :=
  if c = '"' then ['\\', '"']
  else if c = '\\' then ['\\', '\\']
  else if c.toNat = 8 then ['\\', 'b']
  else if c.toNat = 12 then ['\\', 'f']
  else if c = '\n' then ['\\', 'n']
  else if c = '\r' then ['\\', 'r']
  else if c = '\t' then ['\\', 't']
  else if c.toNat < 32 then
    ['\\', 'u', '0', '0', Text.hexDigit (c.toNat / 16), Text.hexDigit (c.toNat % 16)]
  else [c]

/-- The characters inside a JSON string. -/
def escape : List Char → List Char
  | [] => []
  | c :: rest => escapeChar c ++ escape rest

/-- A JSON string with its quotes. -/
def stringChars (s : String) : List Char := '"' :: (escape s.toList ++ ['"'])

/-! ### Numbers -/

/-- The decimal digits of a natural number. -/
def natChars (n : Nat) : List Char := Nat.toDigits 10 n

/-- A whole number in decimal. -/
def intChars : Int → List Char
  | .ofNat n => natChars n
  | .negSucc n => '-' :: natChars (n + 1)

/-! ### The compact layout -/

mutual

/-- A value without blanks. -/
def chars : Json → List Char
  | null => ['n', 'u', 'l', 'l']
  | bool true => ['t', 'r', 'u', 'e']
  | bool false => ['f', 'a', 'l', 's', 'e']
  | int n => intChars n
  | real x => x.text.toList
  | str s => stringChars s
  | arr [] => ['[', ']']
  | arr (v :: rest) => '[' :: (chars v ++ itemsChars rest)
  | obj [] => ['\x7b', '\x7d']
  | obj ((key, v) :: rest) =>
    '\x7b' :: (stringChars key ++ ':' :: (chars v ++ membersChars rest))

/-- The items of an array after its first, and the closing bracket. -/
def itemsChars : List Json → List Char
  | [] => [']']
  | v :: rest => ',' :: (chars v ++ itemsChars rest)

/-- The members of an object after its first, and the closing brace. -/
def membersChars : List (String × Json) → List Char
  | [] => ['\x7d']
  | (key, v) :: rest => ',' :: (stringChars key ++ ':' :: (chars v ++ membersChars rest))

end

/-- A value as compact text. -/
def text (v : Json) : String := String.ofList v.chars

/-! ### The indented layout -/

/-- A new line, indented by two blanks for each level. -/
def newLine (level : Nat) : List Char := '\n' :: List.replicate (2 * level) ' '

mutual

/-- A value over several lines, its closing bracket at the given level. -/
def indentedChars (level : Nat) : Json → List Char
  | arr (v :: rest) =>
    '[' :: (newLine (level + 1) ++ indentedChars (level + 1) v ++ indentedItems level rest)
  | obj ((key, v) :: rest) =>
    '\x7b' :: (newLine (level + 1) ++ stringChars key ++
      ':' :: ' ' :: (indentedChars (level + 1) v ++ indentedMembers level rest))
  | v => chars v

/-- The items of an array after its first, one to a line. -/
def indentedItems (level : Nat) : List Json → List Char
  | [] => newLine level ++ [']']
  | v :: rest =>
    ',' :: (newLine (level + 1) ++ indentedChars (level + 1) v ++ indentedItems level rest)

/-- The members of an object after its first, one to a line. -/
def indentedMembers (level : Nat) : List (String × Json) → List Char
  | [] => newLine level ++ ['\x7d']
  | (key, v) :: rest =>
    ',' :: (newLine (level + 1) ++ stringChars key ++
      ':' :: ' ' :: (indentedChars (level + 1) v ++ indentedMembers level rest))

end

/-- A value as text over several lines. -/
def indented (v : Json) : String := String.ofList (v.indentedChars 0)

end Json

end Arbitration
