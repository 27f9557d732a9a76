/-
  Proofs/Text/Search.lean --- what a search finds.

  Source: `Text/Search.lean`. The lemmas serve the places of names in a source.

  Where a pattern stands in a text, said by cutting the text around it. The search from the
  front finds the least such place and the search from the back the greatest, and either
  finds none exactly if the pattern does not stand in the text.
-/
import EntityGen.Text.Search
import Mathlib.Data.List.Infix
import Mathlib.Data.String.Basic
import Mathlib.Order.Bounds.Basic

set_option autoImplicit false

namespace EntityGen.Text

variable {pattern cs : List Char} {c : Char} {offset : Nat}

/-! ## Bytes -/

theorem byteLength_eq_utf8Len (cs : List Char) : byteLength cs = String.utf8Len cs := by
  induction cs with
  | nil => rfl
  | cons c rest ih => rw [byteLength, ih, String.utf8Len_cons, Nat.add_comm]

theorem byteLength_append (before after : List Char) :
    byteLength (before ++ after) = byteLength before + byteLength after := by
  simp only [byteLength_eq_utf8Len, String.utf8Len_append]

theorem byteLength_toList (text : String) : byteLength text.toList = text.utf8ByteSize := by
  rw [byteLength_eq_utf8Len, ← String.utf8ByteSize_ofList, String.ofList_toList]

/-! ## Occurrences -/

/-- The pattern stands among the characters, behind so many bytes. -/
def OccursAt (pattern cs : List Char) (offset : Nat) : Prop :=
  ∃ before after, cs = before ++ pattern ++ after ∧ offset = byteLength before

theorem exists_occursAt_iff : (∃ offset, OccursAt pattern cs offset) ↔ pattern <:+: cs := by
  constructor
  · rintro ⟨offset, before, after, whole, -⟩
    exact ⟨before, after, whole.symm⟩
  · rintro ⟨before, after, whole⟩
    exact ⟨byteLength before, before, after, whole.symm, rfl⟩

theorem occursAt_nil_iff : OccursAt pattern [] offset ↔ pattern = [] ∧ offset = 0 := by
  constructor
  · rintro ⟨before, after, whole, rfl⟩
    obtain ⟨front, rfl⟩ := List.append_eq_nil_iff.1 whole.symm
    obtain ⟨rfl, rfl⟩ := List.append_eq_nil_iff.1 front
    exact ⟨rfl, rfl⟩
  · rintro ⟨rfl, rfl⟩
    exact ⟨[], [], rfl, rfl⟩

/-- A pattern stands at the first character, or further on. -/
theorem occursAt_cons_iff : OccursAt pattern (c :: cs) offset ↔
    pattern <+: c :: cs ∧ offset = 0 ∨
      ∃ later, OccursAt pattern cs later ∧ offset = c.utf8Size + later := by
  constructor
  · rintro ⟨before, after, whole, rfl⟩
    cases before with
    | nil => exact Or.inl ⟨⟨after, whole.symm⟩, rfl⟩
    | cons first before =>
      obtain ⟨rfl, rest⟩ := List.cons.inj whole
      exact Or.inr ⟨byteLength before, ⟨before, after, rest, rfl⟩, rfl⟩
  · rintro (⟨⟨after, whole⟩, rfl⟩ | ⟨later, ⟨before, after, rfl, rfl⟩, rfl⟩)
    · exact ⟨[], after, whole.symm, rfl⟩
    · exact ⟨c :: before, after, rfl, rfl⟩

/-! ## Searching -/

theorem findOffset_eq_none_iff : findOffset pattern cs = none ↔ ¬ pattern <:+: cs := by
  induction cs with
  | nil => simp [findOffset]
  | cons c rest ih =>
    rw [findOffset, List.infix_cons_iff, not_or, ← ih, ← List.isPrefixOf_iff_prefix]
    cases pattern.isPrefixOf (c :: rest) <;> simp

theorem findLastOffset_eq_none_iff : findLastOffset pattern cs = none ↔ ¬ pattern <:+: cs := by
  induction cs with
  | nil => simp [findLastOffset]
  | cons c rest ih =>
    rw [findLastOffset, List.infix_cons_iff, not_or, ← ih, ← List.isPrefixOf_iff_prefix]
    cases findLastOffset pattern rest <;> simp

/-- The search from the front finds the first occurrence. -/
theorem isLeast_of_findOffset (found : findOffset pattern cs = some offset) :
    IsLeast {place | OccursAt pattern cs place} offset := by
  induction cs generalizing offset with
  | nil =>
    rw [findOffset] at found
    split at found
    · rename_i empty
      cases found
      exact ⟨occursAt_nil_iff.2 ⟨List.isEmpty_iff.1 empty, rfl⟩, fun place _ => Nat.zero_le place⟩
    · cases found
  | cons c rest ih =>
    rw [findOffset] at found
    split at found
    · rename_i start
      cases found
      exact ⟨occursAt_cons_iff.2 (Or.inl ⟨List.isPrefixOf_iff_prefix.1 start, rfl⟩),
        fun place _ => Nat.zero_le place⟩
    · rename_i other
      obtain ⟨later, there, rfl⟩ := Option.map_eq_some_iff.1 found
      obtain ⟨here, least⟩ := ih there
      refine ⟨occursAt_cons_iff.2 (Or.inr ⟨later, here, rfl⟩), fun place occurs => ?_⟩
      rcases occursAt_cons_iff.1 occurs with ⟨start, -⟩ | ⟨further, beyond, rfl⟩
      · exact absurd (List.isPrefixOf_iff_prefix.2 start) other
      · exact Nat.add_le_add_left (least beyond) _

/-- The search from the back finds the last occurrence. -/
theorem isGreatest_of_findLastOffset (found : findLastOffset pattern cs = some offset) :
    IsGreatest {place | OccursAt pattern cs place} offset := by
  induction cs generalizing offset with
  | nil =>
    rw [findLastOffset] at found
    split at found
    · rename_i empty
      cases found
      refine ⟨occursAt_nil_iff.2 ⟨List.isEmpty_iff.1 empty, rfl⟩, fun place occurs => ?_⟩
      exact (occursAt_nil_iff.1 occurs).2.le
    · cases found
  | cons c rest ih =>
    rw [findLastOffset] at found
    split at found
    · rename_i later there
      cases found
      obtain ⟨here, greatest⟩ := ih there
      refine ⟨occursAt_cons_iff.2 (Or.inr ⟨later, here, rfl⟩), fun place occurs => ?_⟩
      rcases occursAt_cons_iff.1 occurs with ⟨-, rfl⟩ | ⟨further, beyond, rfl⟩
      · exact Nat.zero_le _
      · exact Nat.add_le_add_left (greatest beyond) _
    · rename_i none
      split at found
      · rename_i start
        cases found
        refine ⟨occursAt_cons_iff.2 (Or.inl ⟨List.isPrefixOf_iff_prefix.1 start, rfl⟩),
          fun place occurs => ?_⟩
        rcases occursAt_cons_iff.1 occurs with ⟨-, rfl⟩ | ⟨further, beyond, -⟩
        · exact Nat.le_refl 0
        · exact absurd (exists_occursAt_iff.1 ⟨further, beyond⟩) (findLastOffset_eq_none_iff.1 none)
      · cases found

/-- A way of searching finds a pattern exactly if it occurs, and finds it where it occurs. -/
structure IsSearch (find : List Char → List Char → Option Nat) : Prop where
  none_iff : ∀ {pattern cs : List Char}, find pattern cs = none ↔ ¬ pattern <:+: cs
  occursAt : ∀ {pattern cs : List Char} {offset : Nat},
    find pattern cs = some offset → OccursAt pattern cs offset

theorem isSearch_findOffset : IsSearch findOffset :=
  ⟨findOffset_eq_none_iff, fun found => (isLeast_of_findOffset found).1⟩

theorem isSearch_findLastOffset : IsSearch findLastOffset :=
  ⟨findLastOffset_eq_none_iff, fun found => (isGreatest_of_findLastOffset found).1⟩

end EntityGen.Text
