/-
  Java/StringLiteral.lean --- string literals.

  Source: the specification, section 3 (the text of a query is passed through verbatim), and
  the escapes of Java.

  Texts as Java source writes them: between double quotes, with the quote, the backslash,
  the line ends and the tab as escapes.
-/

set_option autoImplicit false

namespace EntityGen.Java

/-- One character of a string literal. -/
def literalChar (c : Char) : List Char :=
  if c = '"' then ['\\', '"']
  else if c = '\\' then ['\\', '\\']
  else if c = '\n' then ['\\', 'n']
  else if c = '\r' then ['\\', 'r']
  else if c = '\t' then ['\\', 't']
  else [c]

/-- The characters of a string literal. -/
def literalChars (text : List Char) : List Char :=
  '"' :: text.flatMap literalChar ++ ['"']

/-- The string literal of a text. -/
def stringLiteral (text : String) : String :=
  String.ofList (literalChars text.toList)

end EntityGen.Java
