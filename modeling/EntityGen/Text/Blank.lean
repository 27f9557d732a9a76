/-
  Text/Blank.lean --- blank characters and trimming.

  Source: the Unicode property of white space. Trimming is used on the declared results of
  queries and on the lines of descriptions.

  The characters that separate words without being seen, and the removal of them from the
  ends of a text. The class is the Unicode property of white space: it holds the no-break
  space and the ideographic space, and neither the zero-width space nor the byte order mark.

  Characters are tested by code point. Nothing here depends on a locale.
-/

set_option autoImplicit false

namespace EntityGen.Text

/-- The character is white space. -/
def isBlank (c : Char) : Bool :=
  let n := c.toNat
  (0x9 ≤ n && n ≤ 0xD) || n == 0x20 || n == 0x85 || n == 0xA0 || n == 0x1680 ||
    (0x2000 ≤ n && n ≤ 0x200A) || n == 0x2028 || n == 0x2029 || n == 0x202F || n == 0x205F ||
    n == 0x3000

/-- The characters without the blank ones at their end. -/
def trimEndChars (cs : List Char) : List Char :=
  (cs.reverse.dropWhile isBlank).reverse

/-- The characters without the blank ones at either end. -/
def trimChars (cs : List Char) : List Char :=
  trimEndChars (cs.dropWhile isBlank)

/-- The text without the blank characters at either end. -/
def trim (s : String) : String :=
  String.ofList (trimChars s.toList)

end EntityGen.Text
