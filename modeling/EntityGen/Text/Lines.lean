/-
  Text/Lines.lean --- lines of a text.

  Source: the specification, section 3 (descriptions): the comment of an entity is written
  line by line.

  A line ends at a line feed, together with a carriage return right before it. A line feed
  at the very end of the text opens no further line, and a lone carriage return ends none.
-/
import EntityGen.Text.Pieces

set_option autoImplicit false

namespace EntityGen.Text

/-- A line without the carriage return at its end. -/
def dropReturn (line : List Char) : List Char :=
  if line.getLast? = some '\r' then line.dropLast else line

/-- Every piece but the last ended at a line feed and loses its carriage return; the last piece is a
line only if it holds a character. -/
def endLines : List (List Char) → List (List Char)
  | [] => []
  | [last] => if last.isEmpty then [] else [last]
  | line :: more => dropReturn line :: endLines more

/-- The lines of a text. -/
def lines (s : String) : List (List Char) :=
  endLines (piecesAt '\n' s.toList)

end EntityGen.Text
