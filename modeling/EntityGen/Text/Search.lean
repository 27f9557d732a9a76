/-
  Text/Search.lean --- positions in a text.

  Source: section 7 of the specification: a fault of a model file points at spans of its
  text, and spans count bytes.

  Positions of a pattern in a text, counted in bytes of its UTF-8 form.

  The search from the front and the search from the back are written separately, each by
  recursion on the text. `Proofs/Text/Search.lean` says what they find by cutting the text.
-/

set_option autoImplicit false

namespace EntityGen.Text

/-- The number of bytes that the characters take in UTF-8. -/
def byteLength : List Char → Nat
  | [] => 0
  | c :: rest => c.utf8Size + byteLength rest

/-- The byte offset of the first occurrence of the pattern. -/
def findOffset (pattern : List Char) : List Char → Option Nat
  | [] => if pattern.isEmpty then some 0 else none
  | c :: rest =>
    if pattern.isPrefixOf (c :: rest) then some 0
    else (findOffset pattern rest).map (c.utf8Size + ·)

/-- The byte offset of the last occurrence of the pattern. -/
def findLastOffset (pattern : List Char) : List Char → Option Nat
  | [] => if pattern.isEmpty then some 0 else none
  | c :: rest =>
    match findLastOffset pattern rest with
    | some offset => some (c.utf8Size + offset)
    | none => if pattern.isPrefixOf (c :: rest) then some 0 else none

end EntityGen.Text
