/-
  Java/Identifier.lean --- identifiers.

  Source: the specification, section 7 (invalid Java identifiers, Java keywords), and the
  keywords of Java.

  Which names Java source accepts for types, fields, methods and parameters. Identifiers are
  limited to ASCII; the reserved words, the three literals and two contextual words are
  none.

  Java itself admits letters beyond ASCII. The generator does not, and neither does this
  file.
-/

set_option autoImplicit false

namespace EntityGen.Java

/-- The words that cannot name anything. -/
def keywords : List String := [
  "abstract", "assert", "boolean", "break", "byte", "case", "catch", "char", "class", "const",
  "continue", "default", "do", "double", "else", "enum", "extends", "final", "finally", "float",
  "for", "goto", "if", "implements", "import", "instanceof", "int", "interface", "long",
  "native", "new", "package", "private", "protected", "public", "return", "short", "static",
  "strictfp", "super", "switch", "synchronized", "this", "throw", "throws", "transient", "try",
  "void", "volatile", "while",
  "true", "false", "null",
  "_", "var"]

/-- The name is a reserved word. -/
def isKeyword (name : String) : Bool :=
  keywords.contains name

/-- Why a name is no identifier. -/
inductive IdentifierFault where
  /-- there is no character -/
  | empty
  /-- the first character may not start an identifier -/
  | badStart
  /-- the name is a reserved word -/
  | keyword
  /-- a later character may not stand in an identifier -/
  | badCharacter
  deriving DecidableEq, Repr, Inhabited

/-- The fault in words. -/
def IdentifierFault.reason : IdentifierFault → String
  | .empty => "name cannot be empty"
  | .badStart => "name must start with a letter or underscore"
  | .keyword => "name is a Java reserved keyword"
  | .badCharacter => "name must contain only letters, numbers, underscores, and '$'"

/-- The character may start an identifier. -/
def isIdentifierStart (c : Char) : Bool :=
  c.isAlpha || c == '_' || c == '$'

/-- The character may stand in an identifier after the first. -/
def isIdentifierPart (c : Char) : Bool :=
  c.isAlphanum || c == '_' || c == '$'

/-- What is wrong with a name as an identifier. The first character is looked at first, then the
whole name as a word, then the other characters. -/
def identifierFault? (name : String) : Option IdentifierFault :=
  match name.toList with
  | [] => some .empty
  | first :: rest =>
    if !isIdentifierStart first then some .badStart
    else if isKeyword name then some .keyword
    else if !rest.all isIdentifierPart then some .badCharacter
    else none

/-- The name is an identifier. -/
def isIdentifier (name : String) : Bool :=
  (identifierFault? name).isNone

end EntityGen.Java
