/-
  Json.lean --- JSON values and their texts.

  Source: section 6 of the specification: `bdm check` reports as text or as JSON. The syntax
  is that of the JSON standard.

  Values have two forms: on one line without blanks, and over several lines indented by two
  blanks a level. The members of an object keep their order. In strings the quote, the
  backslash and the ASCII controls are escaped.

  Only writing is modelled: no part of the program reads JSON.
-/
import EntityGen.Text.Pieces

set_option autoImplicit false

namespace EntityGen

/-- A JSON value as far as reports need it. -/
inductive Json where
  | string (text : String)
  | array (elements : List Json)
  | object (members : List (String × Json))
  deriving Repr, Inhabited

namespace Json

/-! ## Strings -/

/-- A number below sixteen as a hexadecimal digit. -/
def hexDigit (n : Nat) : Char :=
  Nat.digitChar n

/-- One character of a string. -/
def stringChar (c : Char) : List Char :=
  if c = '"' then ['\\', '"']
  else if c = '\\' then ['\\', '\\']
  else if c = '\n' then ['\\', 'n']
  else if c = '\r' then ['\\', 'r']
  else if c = '\t' then ['\\', 't']
  else if c = '\x08' then ['\\', 'b']
  else if c = '\x0c' then ['\\', 'f']
  else if c.toNat < 0x20 then
    ['\\', 'u', '0', '0', hexDigit (c.toNat / 16), hexDigit (c.toNat % 16)]
  else [c]

/-- A string between quotes. -/
def stringText (text : String) : String :=
  String.ofList ('"' :: text.toList.flatMap stringChar ++ ['"'])

/-! ## On one line -/

mutual

/-- A value on one line. -/
def compact : Json → String
  | .string text => stringText text
  | .array elements => "[" ++ Text.join "," (compactAll elements) ++ "]"
  | .object members => "\x7b" ++ Text.join "," (compactMembers members) ++ "\x7d"

/-- The elements of an array on one line. -/
def compactAll : List Json → List String
  | [] => []
  | first :: rest => compact first :: compactAll rest

/-- The members of an object on one line. -/
def compactMembers : List (String × Json) → List String
  | [] => []
  | (key, value) :: rest => (stringText key ++ ":" ++ compact value) :: compactMembers rest

end

/-! ## Over several lines -/

/-- The blanks before a line. -/
def margin (level : Nat) : String :=
  String.ofList (List.replicate (2 * level) ' ')

/-- Items one a line between brackets; without items the brackets stand together. -/
def bracketed (opening closing : String) (level : Nat) (items : List String) : String :=
  if items.isEmpty then opening ++ closing
  else
    opening ++ "\n" ++ Text.join ",\n" (items.map fun item => margin (level + 1) ++ item) ++ "\n" ++
      margin level ++ closing

mutual

/-- A value over several lines, at a level of indentation. -/
def prettyAt (level : Nat) : Json → String
  | .string text => stringText text
  | .array elements => bracketed "[" "]" level (prettyAll (level + 1) elements)
  | .object members => bracketed "\x7b" "\x7d" level (prettyMembers (level + 1) members)

/-- The elements of an array over several lines. -/
def prettyAll (level : Nat) : List Json → List String
  | [] => []
  | first :: rest => prettyAt level first :: prettyAll level rest

/-- The members of an object over several lines. -/
def prettyMembers (level : Nat) : List (String × Json) → List String
  | [] => []
  | (key, value) :: rest =>
    (stringText key ++ ": " ++ prettyAt level value) :: prettyMembers level rest

end

/-- A value over several lines. -/
def pretty (value : Json) : String :=
  prettyAt 0 value

end Json

end EntityGen
