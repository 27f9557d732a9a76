/-
  Proofs/Layout/Comment.lean --- documentation comments.

  Source: the specification, section 3 (descriptions), and the comments of Java, which end
  at the first star with a slash behind it.

  A documentation comment is written line by line, each line behind a star and a blank and
  without blanks at its end, and none of this brings a star before a slash. The comment
  therefore ends where it is meant to exactly if its text does not end a comment itself.
-/
import EntityGen.Proofs.Layout.Writer
import EntityGen.Proofs.Naming
import EntityGen.Proofs.Text.Blank
import Mathlib.Data.List.Infix

set_option autoImplicit false

namespace EntityGen.Layout

/-! ## Reading a comment -/

/-- What stands behind the first end of a comment. -/
def behindClose : List Char → Option (List Char)
  | '*' :: '/' :: rest => some rest
  | _ :: rest => behindClose rest
  | [] => none

/-- What stands behind the comment that a text begins with. -/
def behindComment (text : String) : Option String :=
  match text.toList with
  | '/' :: '*' :: rest => (behindClose rest).map String.ofList
  | _ => none

/-- The end of a comment stands among the characters. -/
def Closes (cs : List Char) : Prop :=
  ['*', '/'] <:+: cs

instance (cs : List Char) : Decidable (Closes cs) :=
  inferInstanceAs (Decidable (_ <:+: _))

section Closes

variable {c : Char} {before after cs : List Char}

theorem closes_cons_iff (other : c ≠ '*') : Closes (c :: cs) ↔ Closes cs := by
  have unlike : ¬ ['*', '/'] <+: c :: cs := fun start => other (List.cons_prefix_cons.1 start).1.symm
  unfold Closes
  rw [List.infix_cons_iff]
  exact ⟨fun closes => closes.resolve_left unlike, Or.inr⟩

/-- Where the second part begins with no slash, an end of a comment lies in one of the parts. -/
theorem closes_append_iff (apart : after.head? ≠ some '/') :
    Closes (before ++ after) ↔ Closes before ∨ Closes after := by
  unfold Closes
  rw [List.infix_append_iff]
  constructor
  · rintro (early | late | ⟨front, back, whole, suffix, start⟩)
    · exact Or.inl early
    · exact Or.inr late
    · -- An end across the border would have its slash at the beginning of the second part.
      cases front with
      | nil => exact Or.inr (whole ▸ start.isInfix)
      | cons star front =>
        cases front with
        | nil =>
          have slash : ['/'] = back := (List.cons.inj whole).2
          obtain ⟨rest, rfl⟩ := slash ▸ start
          exact absurd rfl apart
        | cons slash front =>
          have ends : front ++ back = [] := (List.cons.inj (List.cons.inj whole).2).2.symm
          rw [List.append_eq_nil_iff.1 ends |>.2, List.append_nil] at whole
          exact Or.inl (whole ▸ suffix.isInfix)
  · rintro (early | late)
    · exact Or.inl early
    · exact Or.inr (Or.inl late)

/-- A character that is no part of an end keeps both sides apart. -/
theorem closes_append_cons_iff (star : c ≠ '*') (slash : c ≠ '/') :
    Closes (before ++ c :: after) ↔ Closes before ∨ Closes after := by
  rw [closes_append_iff (by simpa using slash), closes_cons_iff star]

theorem closes_nil : ¬ Closes [] := by decide

/-- Characters that are no part of an end may stand before a text. -/
theorem closes_plain_append_iff (plain : ∀ c ∈ before, c ≠ '*') :
    Closes (before ++ cs) ↔ Closes cs := by
  induction before with
  | nil => rfl
  | cons c rest ih =>
    rw [List.forall_mem_cons] at plain
    rw [List.cons_append, closes_cons_iff plain.1, ih plain.2]

/-- They may stand behind it as well. -/
theorem closes_append_plain_iff (plain : ∀ c ∈ after, c ≠ '*' ∧ c ≠ '/') :
    Closes (cs ++ after) ↔ Closes cs := by
  induction after generalizing cs with
  | nil => rw [List.append_nil]
  | cons c rest ih =>
    rw [List.forall_mem_cons] at plain
    have none : ¬ Closes rest := fun closes => closes_nil ((@ih [] plain.2).1 closes)
    rw [closes_append_cons_iff plain.1.1 plain.1.2]
    exact or_iff_left none

end Closes

/-- A character with which no end begins is passed over. -/
theorem behindClose_cons {c : Char} {cs : List Char} (unlike : ¬ ['*', '/'] <+: c :: cs) :
    behindClose (c :: cs) = behindClose cs := by
  rw [behindClose]
  rintro rest rfl rfl
  exact unlike ⟨rest, rfl⟩

/-- Behind a text without an end in it comes the end that is written there. -/
theorem behindClose_of_not_closes {inner : List Char} (free : ¬ Closes inner) (rest : List Char) :
    behindClose (inner ++ '*' :: '/' :: rest) = some rest := by
  induction inner with
  | nil => rfl
  | cons c inner ih =>
    rw [Closes, List.infix_cons_iff, not_or] at free
    have unlike : ¬ ['*', '/'] <+: c :: (inner ++ '*' :: '/' :: rest) := by
      intro start
      cases inner with
      | nil => simp at start
      | cons d inner => exact free.1 (by simpa using start)
    rw [List.cons_append, behindClose_cons unlike, ih free.2]

/-- Text may come behind what is left over. -/
theorem behindClose_append {cs left : List Char} (ended : behindClose cs = some left)
    (rest : List Char) : behindClose (cs ++ rest) = some (left ++ rest) := by
  fun_induction behindClose cs with
  | case1 behind => rw [← Option.some.inj ended]; rfl
  | case2 c behind unlike ih =>
    rw [List.cons_append, behindClose_cons, ih ended]
    rintro ⟨later, whole⟩
    obtain ⟨rfl, follows⟩ := List.cons.inj whole
    cases behind with
    | nil => exact absurd ended (by simp [behindClose])
    | cons slash behind => exact unlike behind rfl (by rw [← (List.cons.inj follows).1])
  | case3 => exact absurd ended nofun

/-- A text with an end in it leaves something of itself behind. -/
theorem exists_behindClose_of_closes {cs : List Char} (closes : Closes cs) :
    ∃ left, behindClose cs = some left := by
  induction cs with
  | nil => exact absurd closes closes_nil
  | cons c cs ih =>
    by_cases here : ['*', '/'] <+: c :: cs
    · obtain ⟨left, whole⟩ := here
      exact ⟨left, whole ▸ rfl⟩
    · rw [behindClose_cons here]
      exact ih ((List.infix_cons_iff.1 closes).resolve_left here)

/-- What is left over behind a comment goes on with what comes behind it. -/
theorem behindComment_append {text left : String} (ended : behindComment text = some left)
    (rest : String) : behindComment (text ++ rest) = some (left ++ rest) := by
  unfold behindComment at ended ⊢
  split at ended
  · rename_i inner begins
    obtain ⟨behind, closed, rfl⟩ := Option.map_eq_some_iff.1 ended
    rw [String.toList_append, begins]
    simp only [List.cons_append, behindClose_append closed, Option.map_some]
    rw [String.ofList_append, String.ofList_toList]
  · exact absurd ended nofun

/-! ## Lines -/

/-- The characters of an indentation are no part of an end. -/
theorem plain_margin {indent : Indent} {level : Nat} :
    ∀ c ∈ (String.join (List.replicate level indent.text)).toList, c ≠ '*' ∧ c ≠ '/' := by
  intro c mem
  rcases blank_margin c mem with rfl | rfl
  · decide
  · decide

/-- An end stands in lines exactly if it stands in one of them. -/
theorem closes_linesAt_iff {indent : Indent} {level : Nat} {texts : List String} :
    Closes (linesAt indent level texts).toList ↔ ∃ text ∈ texts, Closes text.toList := by
  induction texts with
  | nil => simpa [linesAt] using closes_nil
  | cons text rest ih =>
    have chars : (linesAt indent level (text :: rest)).toList =
        (String.join (List.replicate level indent.text)).toList ++
          (text.toList ++ '\n' :: (linesAt indent level rest).toList) := by
      rw [linesAt_cons, lineAt]
      simp [String.toList_append]
    rw [chars, closes_plain_append_iff fun c mem => (plain_margin c mem).1,
      closes_append_cons_iff (by decide) (by decide), ih, List.exists_mem_cons_iff]

theorem closes_pieces_iff {cs : List Char} :
    (∃ piece ∈ Text.piecesAt '\n' cs, Closes piece) ↔ Closes cs := by
  by_cases ended : '\n' ∈ cs
  · obtain ⟨before, after, rfl, free⟩ := List.eq_append_cons_of_mem ended
    have later := @closes_pieces_iff after
    rw [Text.piecesAt_append_mark, Text.piecesAt_of_not_mem free, List.singleton_append,
      List.exists_mem_cons_iff, later, closes_append_cons_iff (by decide) (by decide)]
  · rw [Text.piecesAt_of_not_mem ended]
    simp
termination_by cs.length
decreasing_by
  simp_all
  omega

theorem closes_dropReturn_iff {line : List Char} : Closes (Text.dropReturn line) ↔ Closes line := by
  unfold Text.dropReturn
  split
  · rename_i last
    have whole : line.dropLast ++ ['\r'] = line := List.dropLast_append_getLast? '\r' last
    have plain : Closes (line.dropLast ++ ['\r']) ↔ Closes line.dropLast :=
      closes_append_plain_iff (by simp)
    rw [whole] at plain
    exact plain.symm
  · rfl

theorem closes_endLines_iff {pieces : List (List Char)} :
    (∃ line ∈ Text.endLines pieces, Closes line) ↔ ∃ piece ∈ pieces, Closes piece := by
  fun_induction Text.endLines pieces with
  | case1 => rfl
  | case2 last empty =>
    rw [List.isEmpty_iff.1 empty]
    simpa using closes_nil
  | case3 last more => rfl
  | case4 line more others ih =>
    rw [List.exists_mem_cons_iff, List.exists_mem_cons_iff, closes_dropReturn_iff, ih]

/-- It stands in the lines of a text exactly if it stands in the text. -/
theorem closes_lines_iff {text : String} :
    (∃ line ∈ Text.lines text, Closes line) ↔ Closes text.toList := by
  rw [Text.lines, closes_endLines_iff, closes_pieces_iff]

/-- Blank characters are no part of an end. -/
theorem plain_of_isBlank {c : Char} (blank : Text.isBlank c = true) : c ≠ '*' ∧ c ≠ '/' := by
  constructor
  · rintro rfl
    exact absurd blank (by decide)
  · rintro rfl
    exact absurd blank (by decide)

theorem closes_trimEndChars_iff {cs : List Char} : Closes (Text.trimEndChars cs) ↔ Closes cs := by
  obtain ⟨blanks, whole, blank⟩ := Text.exists_trimEndChars_append cs
  have plain : Closes (Text.trimEndChars cs ++ blanks) ↔ Closes (Text.trimEndChars cs) :=
    closes_append_plain_iff fun c mem => plain_of_isBlank (blank c mem)
  rw [← whole] at plain
  exact plain.symm

theorem closes_trimChars_iff {cs : List Char} : Closes (Text.trimChars cs) ↔ Closes cs := by
  have plain : Closes (cs.takeWhile Text.isBlank ++ cs.dropWhile Text.isBlank) ↔
      Closes (cs.dropWhile Text.isBlank) :=
    closes_plain_append_iff fun c mem => (plain_of_isBlank (List.mem_takeWhile_imp mem)).1
  rw [List.takeWhile_append_dropWhile] at plain
  rw [Text.trimChars, closes_trimEndChars_iff, plain]

/-- A line of a comment has an end in it exactly if the line of the text has: what is put before it
has a blank last. -/
theorem closes_javadocLine_iff {line : List Char} :
    Closes (Writer.javadocLine line).toList ↔ Closes line := by
  unfold Writer.javadocLine
  split
  · rename_i empty
    have none : ¬ Closes line := by
      rw [← closes_trimChars_iff, List.isEmpty_iff.1 empty]
      exact closes_nil
    exact iff_of_false (by decide) none
  · have chars : (" * " ++ String.ofList (Text.trimEndChars line)).toList =
        [' ', '*'] ++ ' ' :: Text.trimEndChars line := by
      simp [String.toList_append]
    have lead : ¬ Closes [' ', '*'] := by decide
    rw [chars, closes_append_cons_iff (by decide) (by decide), or_iff_right lead,
      closes_trimEndChars_iff]

/-! ## Comments -/

/-- A documentation comment without what stands before its first line and behind its last. -/
def commentAt (indent : Indent) (level : Nat) (text : String) : String :=
  "/**\n" ++ linesAt indent level ((Text.lines text).map Writer.javadocLine) ++
    String.join (List.replicate level indent.text) ++ " */"

/-- The lines of a comment are the comment, indented and ended like a line. -/
theorem linesAt_javadocLines (indent : Indent) (level : Nat) (text : String) :
    linesAt indent level (javadocLines text) =
      String.join (List.replicate level indent.text) ++ commentAt indent level text ++ "\n" := by
  rw [javadocLines, List.cons_append, linesAt_cons, linesAt_append, linesAt_singleton, lineAt,
    lineAt, commentAt]
  simp only [String.append_assoc]
  rfl

/-- What is written for a comment is the comment, indented and ended like a line. -/
theorem javadoc_eq_comment (writer : Writer) (text : String) :
    writer.javadoc text =
      writer.raw (writer.margin ++ commentAt writer.indent writer.level text ++ "\n") := by
  rw [Writer.javadoc_eq_raw, linesAt_javadocLines, Writer.margin]

/-- A comment is over where it ends exactly if its text does not end a comment itself. -/
theorem behindComment_commentAt_iff {indent : Indent} {level : Nat} {text : String}
    (rest : String) :
    behindComment (commentAt indent level text ++ rest) = some rest ↔ ¬ Closes text.toList := by
  obtain ⟨inner, chars, closes⟩ : ∃ inner,
      (commentAt indent level text ++ rest).toList =
        '/' :: '*' :: (inner ++ '*' :: '/' :: rest.toList) ∧
      (Closes inner ↔ Closes text.toList) := by
    refine ⟨'*' :: '\n' ::
      ((linesAt indent level ((Text.lines text).map Writer.javadocLine)).toList ++
        ((String.join (List.replicate level indent.text)).toList ++ [' '])), ?_, ?_⟩
    · simp [commentAt, String.toList_append]
    · have begins : ¬ Closes ['*'] := by decide
      have margin : ∀ c ∈ (String.join (List.replicate level indent.text)).toList ++ [' '],
          c ≠ '*' ∧ c ≠ '/' := by
        rw [List.forall_mem_append]
        exact ⟨plain_margin, by simp⟩
      rw [← List.singleton_append, closes_append_cons_iff (by decide) (by decide),
        or_iff_right begins, closes_append_plain_iff margin, closes_linesAt_iff,
        ← closes_lines_iff]
      constructor
      · rintro ⟨written, mem, hit⟩
        obtain ⟨line, listed, rfl⟩ := List.mem_map.1 mem
        exact ⟨line, listed, closes_javadocLine_iff.1 hit⟩
      · rintro ⟨line, listed, hit⟩
        exact ⟨_, List.mem_map_of_mem listed, closes_javadocLine_iff.2 hit⟩
  rw [behindComment, chars, ← closes]
  simp only [Option.map_eq_some_iff]
  constructor
  · rintro ⟨left, ended, same⟩ hit
    obtain ⟨more, early⟩ := exists_behindClose_of_closes hit
    have longer := behindClose_append early ('*' :: '/' :: rest.toList)
    have length := congrArg List.length (Option.some.inj (ended.symm.trans longer))
    rw [← same] at length
    simp at length
    omega
  · intro free
    exact ⟨rest.toList, behindClose_of_not_closes free rest.toList, String.ofList_toList⟩

end EntityGen.Layout
