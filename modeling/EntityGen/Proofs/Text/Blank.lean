/-
  Proofs/Text/Blank.lean --- what trimming takes away.

  Source: `Text/Blank.lean`. The lemmas serve the grammar of query results and the lines of
  comments.

  Trimming takes away blanks and nothing else, and it takes away all of them up to the first
  and the last character that is none. A text is therefore known from its trimmed form but
  for the blanks around it.
-/
import EntityGen.Text.Blank
import Mathlib.Data.List.DropRight

set_option autoImplicit false

namespace EntityGen.Text

/-- There are no characters but blank ones. -/
def AllBlank (cs : List Char) : Prop :=
  ∀ c ∈ cs, isBlank c = true

/-- There is no blank character. -/
def FreeOfBlanks (cs : List Char) : Prop :=
  ∀ c ∈ cs, isBlank c = false

instance (cs : List Char) : Decidable (FreeOfBlanks cs) :=
  decidable_of_iff (cs.all (!isBlank ·) = true) (by simp [FreeOfBlanks])

variable {cs before after word : List Char} {c : Char}

/-! ## What is taken away -/

/-- Without the blanks at its end a text is what it was but for blanks. -/
theorem exists_trimEndChars_append (cs : List Char) :
    ∃ blanks, cs = trimEndChars cs ++ blanks ∧ AllBlank blanks :=
  ⟨cs.rtakeWhile isBlank, (List.rdropWhile_append_rtakeWhile (p := isBlank)).symm,
    fun _ mem => List.mem_rtakeWhile_imp mem⟩

/-- The same for the blanks on both sides. -/
theorem exists_append_trimChars_append (cs : List Char) :
    ∃ before after, cs = before ++ trimChars cs ++ after ∧ AllBlank before ∧ AllBlank after := by
  obtain ⟨after, whole, blank⟩ := exists_trimEndChars_append (cs.dropWhile isBlank)
  refine ⟨cs.takeWhile isBlank, after, ?_, fun _ mem => List.mem_takeWhile_imp mem, blank⟩
  rw [trimChars, List.append_assoc, ← whole, List.takeWhile_append_dropWhile]

/-! ## What is left -/

/-- Blanks at the end make no difference. -/
theorem trimEndChars_append_blank (blank : AllBlank after) (cs : List Char) :
    trimEndChars (cs ++ after) = trimEndChars cs := by
  have reversed : ∀ c ∈ after.reverse, isBlank c = true := fun c mem =>
    blank c (List.mem_reverse.1 mem)
  rw [trimEndChars, List.reverse_append, List.dropWhile_append_of_pos reversed, trimEndChars]

/-- Blanks at the beginning make none. -/
theorem trimChars_blank_append (blank : AllBlank before) (cs : List Char) :
    trimChars (before ++ cs) = trimChars cs := by
  rw [trimChars, List.dropWhile_append_of_pos blank, trimChars]

/-- Nothing is taken away before a character that is not blank. -/
theorem trimEndChars_append_cons (solid : isBlank c = false) (before after : List Char) :
    trimEndChars (before ++ c :: after) = before ++ c :: trimEndChars after := by
  induction after using List.reverseRecOn with
  | nil => exact List.rdropWhile_concat_neg isBlank before c (by simp [solid])
  | append_singleton after last ih =>
    rw [← List.cons_append, ← List.append_assoc]
    by_cases blank : isBlank last = true
    · have only : AllBlank [last] := by simpa [AllBlank] using blank
      rw [trimEndChars_append_blank only, trimEndChars_append_blank only, ih]
    · -- The last character stays, and with it all that stands before it.
      have stays : ∀ cs, trimEndChars (cs ++ [last]) = cs ++ [last] := fun cs =>
        List.rdropWhile_concat_neg isBlank cs last blank
      rw [stays, stays]
      simp

/-- A word with blanks behind it is left. -/
theorem trimEndChars_word_append (free : FreeOfBlanks word) (blank : AllBlank after) :
    trimEndChars (word ++ after) = word := by
  rw [trimEndChars_append_blank blank]
  refine (List.rdropWhile_eq_self_iff).2 fun nonempty => ?_
  simp [free _ (List.getLast_mem nonempty)]

/-- A text that begins with a character that is not blank loses nothing at its beginning. -/
theorem trimChars_cons (solid : isBlank c = false) (cs : List Char) :
    trimChars (c :: cs) = trimEndChars (c :: cs) := by
  rw [trimChars, List.dropWhile_cons_of_neg (by simp [solid])]

end EntityGen.Text
