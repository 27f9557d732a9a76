/-
  Text/Case.lean --- letter case of whole texts.

  Source: the full case mappings of the Unicode character database, version 17.0; the
  specification asks for upper case in section 4.2 (columns and tables) and for capitalized
  names in section 3 (fields).

  Both mappings are the full ones: one character may become several (`ß` becomes `SS`), and
  the lower case of a sigma depends on its neighbours. Characters of the ASCII range never
  reach the tables, so texts made of them compute without unfolding a table.

  The mappings of languages with letters of their own, such as the Turkish i, are not
  modelled: a text is mapped in the same way everywhere.
-/
import EntityGen.Text.CaseTables

set_option autoImplicit false

namespace EntityGen.Text

/-! ## Single characters -/

/-- The characters that a table of expansions and a table of runs give for `c`; `c` itself if
neither mentions it. -/
def mapped (expansions : List (Nat × List Nat)) (runs : List CaseRun) (c : Char) : List Char :=
  match expansions.lookup c.toNat with
  | some image => image.map Char.ofNat
  | none =>
    match runs.find? (·.covers c) with
    | some run => [run.image c]
    | none => [c]

/-- The character lies in the ASCII range. -/
def isAscii (c : Char) : Bool :=
  c.toNat < 0x80

/-- The upper case of one character. -/
def upperChar (c : Char) : List Char :=
  if isAscii c then [c.toUpper] else mapped upperExpansions upperRuns c

/-- The lower case of one character that stands alone. -/
def lowerChar (c : Char) : List Char :=
  if isAscii c then [c.toLower] else mapped lowerExpansions lowerRuns c

/-! ## Upper case -/

/-- The upper case of a text, character by character. -/
def upper (s : String) : String :=
  String.ofList (s.toList.flatMap upperChar)

/-- The first character in upper case, the rest as it is. -/
def capitalizeChars : List Char → List Char
  | [] => []
  | c :: rest => upperChar c ++ rest

/-- The text with its first character in upper case. -/
def capitalize (s : String) : String :=
  String.ofList (capitalizeChars s.toList)

/-! ## Lower case -/

/-- The character is upper, lower or title case. Only asked of characters that are not
case-ignorable. -/
def isCased (c : Char) : Bool :=
  if isAscii c then c.isAlpha else casedRanges.contains c

/-- Looking for a neighbouring letter passes over this character. -/
def isCaseIgnorable (c : Char) : Bool :=
  if isAscii c then c ∈ ['\'', '.', ':', '^', '\x60'] else caseIgnorableRanges.contains c

/-- The nearest character that is not case-ignorable is a cased one. -/
def meetsCased (neighbours : List Char) : Bool :=
  match neighbours.dropWhile isCaseIgnorable with
  | [] => false
  | c :: _ => isCased c

/-- The lower case of the remaining characters, given the preceding ones in reverse order. A capital
sigma that ends a word, with a letter before it and none after, takes its final shape. -/
def lowerChars (before : List Char) : List Char → List Char
  | [] => []
  | c :: rest =>
    (if c = 'Σ' then
      [if meetsCased before && !meetsCased rest then 'ς' else 'σ']
    else lowerChar c) ++ lowerChars (c :: before) rest

/-- The lower case of a text. -/
def lower (s : String) : String :=
  String.ofList (lowerChars [] s.toList)

end EntityGen.Text
