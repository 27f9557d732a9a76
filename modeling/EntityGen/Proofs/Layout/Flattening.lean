/-
  Proofs/Layout/Flattening.lean --- flattening fragments.

  Source: `Layout/Fragment.lean` and `Layout/Writer.lean`: a level of nesting is one unit of
  indentation.

  A fragment is a tree, and what it writes is a list of rows: lines that each have a depth
  in the tree, and text between them that has none. The rows depend on the fragment alone. A
  writer indents each line by its own level and the depth of the line together, and is left
  at the level it was at.
-/
import EntityGen.Proofs.Layout.Writer

set_option autoImplicit false

namespace EntityGen.Layout

/-! ## Rows -/

/-- A row of code. -/
inductive Row where
  /-- a line of its own, so many levels deep -/
  | line (depth : Nat) (text : String)
  /-- text as it is, neither indented nor ended -/
  | plain (text : String)
  deriving DecidableEq, Repr, Inhabited

/-- The text of a row where the outermost lines stand at a level. -/
def Row.textAt (indent : Indent) (level : Nat) : Row → String
  | .line depth text => lineAt indent (level + depth) text
  | .plain text => text

mutual

/-- The rows of a fragment at a depth. The header and the closing line of a block are as deep as the
block, its body is one level deeper, and so is an indented body; a sequence is as deep as its parts. -/
def Fragment.rows (depth : Nat) : Fragment → List Row
  | .line text => [.line depth text]
  | .blank => [.plain "\n"]
  | .raw text => [.plain text]
  | .block header body close =>
    .line depth header :: Fragment.rowsOf (depth + 1) body ++ close.toList.map (.line depth)
  | .indented body => Fragment.rowsOf (depth + 1) body
  | .sequence parts => Fragment.rowsOf depth parts
  | .javadoc text => (javadocLines text).map (.line depth)

/-- The rows of fragments one after the other. -/
def Fragment.rowsOf (depth : Nat) : List Fragment → List Row
  | [] => []
  | first :: rest => Fragment.rows depth first ++ Fragment.rowsOf depth rest

end

/-- The text of rows one after the other. -/
def rowsText (indent : Indent) (level : Nat) (rows : List Row) : String :=
  String.join (rows.map (Row.textAt indent level))

section

variable {indent : Indent} {level : Nat}

theorem rowsText_append (rows more : List Row) :
    rowsText indent level (rows ++ more) =
      rowsText indent level rows ++ rowsText indent level more := by
  rw [rowsText, List.map_append, String.join_append, ← rowsText, ← rowsText]

theorem rowsText_singleton (row : Row) : rowsText indent level [row] = row.textAt indent level := by
  rw [rowsText, List.map_singleton, String.join_cons, String.join_nil, String.append_empty]

theorem rowsText_lines (depth : Nat) (texts : List String) :
    rowsText indent level (texts.map (.line depth)) = linesAt indent (level + depth) texts := by
  rw [rowsText, linesAt, List.map_map]
  rfl

mutual

/-- A fragment that stands deeper than the outermost lines has the text of its rows. -/
theorem textAt_eq_rowsText (depth : Nat) (part : Fragment) :
    part.textAt indent (level + depth) = rowsText indent level (part.rows depth) := by
  cases part with
  | line text =>
    unfold Fragment.textAt Fragment.rows
    exact (rowsText_singleton (.line depth text)).symm
  | blank =>
    unfold Fragment.textAt Fragment.rows
    exact (rowsText_singleton (.plain "\n")).symm
  | raw text =>
    unfold Fragment.textAt Fragment.rows
    exact (rowsText_singleton (.plain text)).symm
  | block header body close =>
    unfold Fragment.textAt Fragment.rows
    rw [rowsText_append, rowsText_lines, ← List.singleton_append, rowsText_append,
      rowsText_singleton, Nat.add_assoc, textsAt_eq_rowsText (depth + 1) body]
    rfl
  | indented body =>
    unfold Fragment.textAt Fragment.rows
    exact textsAt_eq_rowsText (depth + 1) body
  | sequence parts =>
    unfold Fragment.textAt Fragment.rows
    exact textsAt_eq_rowsText depth parts
  | javadoc text =>
    unfold Fragment.textAt Fragment.rows
    exact (rowsText_lines depth _).symm

theorem textsAt_eq_rowsText (depth : Nat) (parts : List Fragment) :
    Fragment.textsAt indent (level + depth) parts =
      rowsText indent level (Fragment.rowsOf depth parts) := by
  cases parts with
  | nil =>
    unfold Fragment.textsAt Fragment.rowsOf
    rfl
  | cons first rest =>
    unfold Fragment.textsAt Fragment.rowsOf
    rw [rowsText_append, textAt_eq_rowsText depth first, textsAt_eq_rowsText depth rest]

end

end

namespace Writer

/-! ## Sequences -/

theorem fragments_append (writer : Writer) (parts more : List Fragment) :
    writer.fragments (parts ++ more) = (writer.fragments parts).fragments more := by
  rw [fragments_eq_raw, fragments_eq_raw writer parts, fragments_eq_raw, raw_raw,
    Fragment.textsAt_append]
  rfl

theorem fragment_sequence (writer : Writer) (parts : List Fragment) :
    writer.fragment (.sequence parts) = writer.fragments parts := by
  rw [fragment]

theorem fragment_indented (writer : Writer) (body : List Fragment) :
    writer.fragment (.indented body) = (writer.deeper.fragment (.sequence body)).shallower := by
  rw [fragment, fragment_sequence]

/-! ## Main result -/

/-- Writing a fragment leaves what a level is made of and the level as they were, and adds the rows of
the fragment, each line indented by its depth below the level. An indented body adds what the same parts
add in a sequence one level deeper, and a sequence in two parts is written part by part. A level is
made of at least one blank and of nothing else, so that depths show in the rows. -/
theorem fragment_writes_rows (writer : Writer) (part : Fragment) :
    (writer.fragment part).indent = writer.indent ∧ (writer.fragment part).level = writer.level ∧
      (writer.fragment part).text =
        writer.text ++ rowsText writer.indent writer.level (part.rows 0) ∧
      (∀ body, ∃ added, writer.fragment (.indented body) = writer.raw added ∧
        writer.deeper.fragment (.sequence body) = writer.deeper.raw added) ∧
      (∀ parts more, writer.fragment (.sequence (parts ++ more)) =
        (writer.fragment (.sequence parts)).fragment (.sequence more)) ∧
      writer.indent.text.toList ≠ [] ∧
      ∀ c ∈ writer.indent.text.toList, c = ' ' ∨ c = '\t' := by
  have written : writer.fragment part =
      writer.raw (rowsText writer.indent writer.level (part.rows 0)) := by
    rw [fragment_eq_raw, ← textAt_eq_rowsText, Nat.add_zero]
  refine ⟨?_, ?_, ?_, fun body => ?_, fun parts more => ?_, writer.indent.text_blank⟩
  · rw [written, raw]
  · rw [written, raw]
  · rw [written, raw]
  · have inside : writer.deeper.fragment (.sequence body) = writer.deeper.raw _ :=
      fragment_eq_raw writer.deeper _
    refine ⟨_, ?_, inside⟩
    rw [fragment_indented, inside, shallower_deeper_raw]
  · rw [fragment_sequence, fragment_sequence, fragment_sequence, fragments_append]

end Writer

end EntityGen.Layout
