import Arbitration.Text.Blank
import Arbitration.Text.Combining
import Arbitration.Text.Unprintable

/-!
# Quoted text

How an error message shows a text that it was given: in double quotes, with quotes, backslashes and
line breaks escaped and every character that would not be seen on its own written by its number.
-/

namespace Arbitration

namespace Text

/-- The lower-case hexadecimal digits of a number, without leading zeros. -/
def hexNumeral (n : Nat) : List Char := Nat.toDigits 16 n

/-- Whether a character is shown by its number. -/
def isHidden (c : Char) : Bool :=
  if c.toNat < 128 then c.toNat < 32 || c.toNat == 127
  else inRanges combiningRanges c.toNat || inRanges unprintableRanges c.toNat

/-- One character inside the quotes. -/
def quoteChar (c : Char) : List Char :=
  if c = '"' then ['\\', '"']
  else if c = '\\' then ['\\', '\\']
  else if c = '\n' then ['\\', 'n']
  else if c = '\r' then ['\\', 'r']
  else if c = '\t' then ['\\', 't']
  else if c.toNat = 0 then ['\\', '0']
  else if isHidden c then ['\\', 'u', '\x7b'] ++ hexNumeral c.toNat ++ ['\x7d']
  else [c]

/-- A text in quotes, as error messages show it. -/
def quoted (s : String) : String :=
  String.ofList ('"' :: s.toList.flatMap quoteChar ++ ['"'])

end Text

end Arbitration
