/-
  Model/Source.lean --- sources and places in them.

  Source: section 7 of the specification: diagnostics carry source spans. A place is found
  by the text of a name alone; the spans of the reader are no longer at hand when the rules
  are checked.

  The text a model was read from, and where in it a name stands. A name is first looked for
  as a quoted value, in three spellings of rising generality, and then as bare text; a
  spelling that occurs anywhere hides the later ones.

  Because places are guessed from the text, a place may be that of another name spelled
  alike. How far the guess is right is the subject of `Proofs/Model/Places.lean` and
  `Proofs/Model/LastPlace.lean`.
-/
import EntityGen.Text.Pieces
import EntityGen.Text.Search
import EntityGen.Text.Span

set_option autoImplicit false

namespace EntityGen.Model

open EntityGen.Text (Span)

/-- A text and the name it goes by. -/
structure Source where
  text : String
  /-- The name, usually that of a file. -/
  name : String
  deriving DecidableEq, Repr, Inhabited

/-- A source, and the names of the parts of the model that are being looked at, outermost first. -/
structure Scope where
  source : Source
  /-- The names of the enclosing parts. -/
  path : List String
  deriving DecidableEq, Repr, Inhabited

/-! ## Finding names -/

/-- A spelling of a name in a source: the whole of it, and the bytes of it before the name. -/
structure Spelling where
  /-- The characters to look for. -/
  pattern : List Char
  /-- The bytes of the pattern before the name. -/
  lead : Nat
  deriving DecidableEq, Repr, Inhabited

/-- The ways in which a name may stand in a source, in the order in which they are looked for: as
the value of a key, with a blank or without, between quotes, and bare. -/
def spellings (name : List Char) : List Spelling :=
  let quoted := '"' :: name ++ ['"']
  [⟨'=' :: ' ' :: quoted, 3⟩, ⟨'=' :: quoted, 2⟩, ⟨quoted, 1⟩, ⟨name, 0⟩]

/-- The place of a name, given how to find a pattern. An empty name has none. -/
def placeBy (find : List Char → List Char → Option Nat) (text name : String) : Option Span :=
  if name.isEmpty then none
  else
    (spellings name.toList).findSome? fun spelling =>
      (find spelling.pattern text.toList).map fun offset =>
        ⟨offset + spelling.lead, Text.byteLength name.toList⟩

namespace Scope

/-- The scope of a whole source. -/
def top (source : Source) : Scope :=
  ⟨source, []⟩

/-- The scope of a part of the current one. -/
def inside (scope : Scope) (part : String) : Scope :=
  { scope with path := scope.path ++ [part] }

/-- The names of the enclosing parts in one text. -/
def pathText (scope : Scope) : String :=
  Text.join "/" scope.path

/-- A kind of name together with the parts that enclose it. -/
def describe (scope : Scope) (kind : String) : String :=
  if scope.path.isEmpty then kind else s!"{kind} in '{scope.pathText}'"

/-- The first place of a name in the source. -/
def firstPlace (scope : Scope) (name : String) : Option Span :=
  placeBy Text.findOffset scope.source.text name

/-- The last place of a name in the source. -/
def lastPlace (scope : Scope) (name : String) : Option Span :=
  placeBy Text.findLastOffset scope.source.text name

end Scope

end EntityGen.Model
