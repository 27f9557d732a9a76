/-
  Text/Quoted.lean --- texts as messages quote them.

  Source: the messages about values of a model file that do not fit (section 7, model
  validation), which quote what they found.

  A text as a message shows it: between double quotes, on one line, with every character
  that has no visible form of its own written as an escape.
-/
import EntityGen.Text.PrintTables
import EntityGen.Text.Case

set_option autoImplicit false

namespace EntityGen.Text

/-- The hexadecimal digits of a number, in lower case and without leading zeros. -/
def hexDigits (n : Nat) : List Char :=
  Nat.toDigits 16 n

/-- The character shows as itself inside quotes. -/
def isPrintable (c : Char) : Bool :=
  if isAscii c then 0x20 ≤ c.toNat && c.toNat < 0x7F
  else !(graphemeExtendRanges.contains c) && !(unprintableRanges.contains c)

/-- One character of a quoted text. -/
def quotedChar (c : Char) : List Char :=
  if c = '\x00' then ['\\', '0']
  else if c = '\t' then ['\\', 't']
  else if c = '\r' then ['\\', 'r']
  else if c = '\n' then ['\\', 'n']
  else if c = '\\' then ['\\', '\\']
  else if c = '"' then ['\\', '"']
  else if isPrintable c then [c]
  else ['\\', 'u', '\x7b'] ++ hexDigits c.toNat ++ ['\x7d']

/-- The text between double quotes. -/
def quoted (s : String) : String :=
  String.ofList ('"' :: s.toList.flatMap quotedChar ++ ['"'])

end EntityGen.Text
