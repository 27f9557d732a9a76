/-
  Layout/Fragment.lean --- pieces of code.

  Source: the specification, section 2: the program is serialized to textual source files.
  Fragments are what is left of that when the target language is taken away.

  Pieces of code before they are indented.
-/

set_option autoImplicit false

namespace EntityGen.Layout

/-- A piece of code. -/
inductive Fragment where
  | line (text : String)
  /-- an empty line -/
  | blank
  /-- text as it is, neither indented nor ended -/
  | raw (text : String)
  /-- a line, an indented body, and a line after it if there is one -/
  | block (header : String) (body : List Fragment) (close : Option String)
  | indented (body : List Fragment)
  /-- one piece after the other -/
  | sequence (parts : List Fragment)
  /-- a documentation comment -/
  | javadoc (text : String)
  deriving Repr, Inhabited

end EntityGen.Layout
