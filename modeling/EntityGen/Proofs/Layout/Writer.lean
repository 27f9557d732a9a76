/-
  Proofs/Layout/Writer.lean --- what fragments write.

  Source: `Layout/Writer.lean`. Later files say what is written by `textAt` and `textsAt`
  and do not follow the writer.

  Writing a fragment adds text to what is there. The added text depends on the fragment, on
  what a level of indentation is made of, and on the level at which it is written; the level
  stays as it was.
-/
import EntityGen.Layout.Writer

set_option autoImplicit false

namespace EntityGen.Layout

variable {indent : Indent} {level : Nat}

/-! ## Texts -/

/-- A line at a level. -/
def lineAt (indent : Indent) (level : Nat) (text : String) : String :=
  String.join (List.replicate level indent.text) ++ text ++ "\n"

/-- Lines at a level, one below the other. -/
def linesAt (indent : Indent) (level : Nat) (texts : List String) : String :=
  String.join (texts.map (lineAt indent level))

/-- What stands before a line is blank. -/
theorem blank_margin :
    ∀ c ∈ (String.join (List.replicate level indent.text)).toList, c = ' ' ∨ c = '\t' := by
  induction level with
  | zero => exact fun c mem => absurd mem List.not_mem_nil
  | succ level ih =>
    rw [List.replicate_succ, String.join_cons, String.toList_append, List.forall_mem_append]
    exact ⟨indent.text_blank.2, ih⟩

/-- The lines of a documentation comment. -/
def javadocLines (text : String) : List String :=
  "/**" :: (Text.lines text).map Writer.javadocLine ++ [" */"]

mutual

/-- What a fragment adds when it is written at a level. -/
def Fragment.textAt (indent : Indent) (level : Nat) : Fragment → String
  | .line text => lineAt indent level text
  | .blank => "\n"
  | .raw text => text
  | .block header body close =>
    lineAt indent level header ++ Fragment.textsAt indent (level + 1) body ++
      linesAt indent level close.toList
  | .indented body => Fragment.textsAt indent (level + 1) body
  | .sequence parts => Fragment.textsAt indent level parts
  | .javadoc text => linesAt indent level (javadocLines text)

/-- What fragments add one after the other. -/
def Fragment.textsAt (indent : Indent) (level : Nat) : List Fragment → String
  | [] => ""
  | first :: rest => Fragment.textAt indent level first ++ Fragment.textsAt indent level rest

end

theorem linesAt_cons (text : String) (texts : List String) :
    linesAt indent level (text :: texts) = lineAt indent level text ++ linesAt indent level texts := by
  rw [linesAt, List.map_cons, String.join_cons, ← linesAt]

theorem linesAt_append (texts more : List String) :
    linesAt indent level (texts ++ more) =
      linesAt indent level texts ++ linesAt indent level more := by
  rw [linesAt, List.map_append, String.join_append, ← linesAt, ← linesAt]

@[simp] theorem linesAt_singleton (text : String) :
    linesAt indent level [text] = lineAt indent level text := by
  rw [linesAt, List.map_singleton, String.join_cons, String.join_nil, String.append_empty]

namespace Fragment

theorem textsAt_append (parts more : List Fragment) :
    textsAt indent level (parts ++ more) =
      textsAt indent level parts ++ textsAt indent level more := by
  induction parts with
  | nil => rw [List.nil_append, textsAt, String.empty_append]
  | cons first rest ih => rw [List.cons_append, textsAt, textsAt, ih, String.append_assoc]

theorem textsAt_flatMap {α : Type} (parts : α → List Fragment) (items : List α) :
    textsAt indent level (items.flatMap parts) =
      String.join (items.map fun item => textsAt indent level (parts item)) := by
  induction items with
  | nil => rfl
  | cons item rest ih =>
    rw [List.flatMap_cons, textsAt_append, ih, List.map_cons, String.join_cons]

theorem textsAt_lines (texts : List String) :
    textsAt indent level (texts.map Fragment.line) = linesAt indent level texts := by
  induction texts with
  | nil => rfl
  | cons text rest ih => rw [List.map_cons, textsAt, textAt, ih, linesAt_cons]

end Fragment

/-! ## Writers -/

namespace Writer

variable {writer : Writer}

/-- Adding no text changes nothing. -/
theorem raw_empty (writer : Writer) : writer.raw "" = writer := by
  rw [raw, String.append_empty]

theorem raw_raw (writer : Writer) (text more : String) :
    (writer.raw text).raw more = writer.raw (text ++ more) := by
  simp only [raw, String.append_assoc]

theorem line_eq_raw (writer : Writer) (text : String) :
    writer.line text = writer.raw (lineAt writer.indent writer.level text) :=
  rfl

/-- Lines one after the other, as a fold over what they are made of. -/
theorem foldl_line_eq_raw {α : Type} (text : α → String) (items : List α) (writer : Writer) :
    items.foldl (fun writer item => writer.line (text item)) writer =
      writer.raw (linesAt writer.indent writer.level (items.map text)) := by
  induction items generalizing writer with
  | nil => exact (raw_empty writer).symm
  | cons item rest ih =>
    rw [List.foldl_cons, ih, line_eq_raw, raw_raw, List.map_cons, linesAt_cons]
    rfl

theorem javadoc_eq_raw (writer : Writer) (text : String) :
    writer.javadoc text = writer.raw (linesAt writer.indent writer.level (javadocLines text)) := by
  rw [javadoc, foldl_line_eq_raw, line_eq_raw, line_eq_raw, raw_raw, raw_raw, javadocLines,
    List.cons_append, linesAt_cons, linesAt_append, linesAt_singleton]
  simp only [raw, String.append_assoc]

/-- What is written one level deeper is added at that level. -/
theorem shallower_deeper_raw (writer : Writer) (text : String) :
    (writer.deeper.raw text).shallower = writer.raw text := by
  rfl

mutual

/-- Writing a fragment adds its text. -/
theorem fragment_eq_raw (writer : Writer) (part : Fragment) :
    writer.fragment part = writer.raw (part.textAt writer.indent writer.level) := by
  cases part with
  | line text =>
    unfold fragment Fragment.textAt
    exact line_eq_raw writer text
  | blank => rfl
  | raw text => rfl
  | block header body close =>
    unfold fragment Fragment.textAt
    rw [fragments_eq_raw, line_eq_raw]
    cases close with
    | none =>
      simp only [Option.toList_none, linesAt, List.map_nil, String.join_nil, String.append_empty]
      rw [← raw_raw]
      rfl
    | some close =>
      simp only [Option.toList_some, linesAt_singleton]
      rw [← raw_raw, ← raw_raw]
      rfl
  | indented body =>
    unfold fragment Fragment.textAt
    rw [fragments_eq_raw]
    exact shallower_deeper_raw writer _
  | sequence parts =>
    unfold fragment Fragment.textAt
    exact fragments_eq_raw writer parts
  | javadoc text =>
    unfold fragment Fragment.textAt
    exact javadoc_eq_raw writer text

/-- Writing fragments one after the other adds their texts. -/
theorem fragments_eq_raw (writer : Writer) (parts : List Fragment) :
    writer.fragments parts = writer.raw (Fragment.textsAt writer.indent writer.level parts) := by
  cases parts with
  | nil =>
    unfold fragments Fragment.textsAt
    exact (raw_empty writer).symm
  | cons first rest =>
    unfold fragments Fragment.textsAt
    rw [fragments_eq_raw, fragment_eq_raw, raw_raw]
    rfl

end

end Writer

end EntityGen.Layout
