/-
  Layout/Writer.lean --- indented code.

  Source: the specification, section 3 (descriptions are documentation comments)
  and section 8; indentation is one unit of the style for each level.

  A writer holds the text so far and the level at which the next line is indented. Writing a
  fragment leaves the level as it was.

  A style is its unit of indentation, and every unit consists of blanks and is not empty.
  Blank lines carry no indentation.
-/
import EntityGen.Layout.Fragment
import EntityGen.Text.Blank
import EntityGen.Text.Lines

set_option autoImplicit false

namespace EntityGen.Layout

/-- What one level of indentation is made of. -/
inductive Indent where
  /-- so many blanks; any number but two, four and eight counts as four -/
  | spaces (count : Nat)
  | tab
  deriving DecidableEq, Repr, Inhabited

/-- The text of one level. -/
def Indent.text : Indent → String
  | .spaces 2 => "  "
  | .spaces 8 => "        "
  | .spaces _ => "    "
  | .tab => "\t"

/-- A level is made of blanks, and of at least one, so that it can be seen. -/
theorem Indent.text_blank (indent : Indent) :
    indent.text.toList ≠ [] ∧ ∀ c ∈ indent.text.toList, c = ' ' ∨ c = '\t' := by
  unfold Indent.text
  split <;> simp

/-- The indentation of Java sources. -/
def Indent.java : Indent := .spaces 4

/-- The text so far, and how the next line is indented. -/
structure Writer where
  /-- What a level is made of. -/
  indent : Indent
  /-- The number of levels. -/
  level : Nat
  /-- The text so far. -/
  text : String
  deriving DecidableEq, Repr, Inhabited

namespace Writer

/-- The writer without text. -/
def start (indent : Indent) : Writer :=
  ⟨indent, 0, ""⟩

/-! ## Single pieces -/

/-- Text as it is. -/
def raw (writer : Writer) (text : String) : Writer :=
  { writer with text := writer.text ++ text }

/-- The indentation of the next line. -/
def margin (writer : Writer) : String :=
  String.join (List.replicate writer.level writer.indent.text)

/-- An indented line. -/
def line (writer : Writer) (text : String) : Writer :=
  writer.raw (writer.margin ++ text ++ "\n")

/-- An empty line. -/
def blank (writer : Writer) : Writer :=
  writer.raw "\n"

/-- One level deeper. -/
def deeper (writer : Writer) : Writer :=
  { writer with level := writer.level + 1 }

/-- One level less deep; the outermost level stays. -/
def shallower (writer : Writer) : Writer :=
  { writer with level := writer.level - 1 }

/-- A line of a documentation comment. A blank line has nothing after its star. -/
def javadocLine (text : List Char) : String :=
  if (Text.trimChars text).isEmpty then " *"
  else " * " ++ String.ofList (Text.trimEndChars text)

/-- A documentation comment. -/
def javadoc (writer : Writer) (text : String) : Writer :=
  let body := (Text.lines text).foldl (fun writer line => writer.line (javadocLine line))
    (writer.line "/**")
  body.line " */"

/-! ## Fragments -/

mutual

/-- A fragment. -/
def fragment (writer : Writer) : Fragment → Writer
  | .line text => writer.line text
  | .blank => writer.blank
  | .raw text => writer.raw text
  | .block header body close =>
    let inside := (fragments (writer.line header).deeper body).shallower
    match close with
    | some close => inside.line close
    | none => inside
  | .indented body => (fragments writer.deeper body).shallower
  | .sequence parts => fragments writer parts
  | .javadoc text => writer.javadoc text

/-- Fragments one after the other. -/
def fragments (writer : Writer) : List Fragment → Writer
  | [] => writer
  | first :: rest => fragments (fragment writer first) rest

end

end Writer

end EntityGen.Layout
