/-
  Proofs/Text/Letters.lean --- letters of the ASCII range.

  Source: the code points of ASCII. Capital letters are those from 65 to 90, small letters
  those from 97 to 122, and letter case is a shift by 32 between them.

  What is known of a letter is told here by its code point, once for all files about letter
  case. Either case moves the letters of the other one and leaves every character where it
  is that is no letter, so that upper and lower case forget the same.
-/
import Mathlib.Tactic.SplitIfs

set_option autoImplicit false

namespace EntityGen.Text

/-! ## Classes -/

theorem isUpper_iff (c : Char) : c.isUpper = true ↔ 65 ≤ c.val.toNat ∧ c.val.toNat ≤ 90 := by
  change decide _ = true ↔ _
  rw [decide_eq_true_iff]
  exact Iff.rfl

theorem isLower_iff (c : Char) : c.isLower = true ↔ 97 ≤ c.val.toNat ∧ c.val.toNat ≤ 122 := by
  change (decide _ && decide _) = true ↔ _
  rw [Bool.and_eq_true, decide_eq_true_iff, decide_eq_true_iff]
  exact Iff.rfl

theorem isAlpha_iff (c : Char) : c.isAlpha = true ↔ c.isUpper = true ∨ c.isLower = true := by
  change (c.isUpper || c.isLower) = true ↔ _
  rw [Bool.or_eq_true]

/-! ## Upper and lower case -/

/-- Upper case moves the small letters of the ASCII range. -/
theorem toNat_toUpper (c : Char) :
    c.toUpper.val.toNat =
      if 97 ≤ c.val.toNat ∧ c.val.toNat ≤ 122 then c.val.toNat - 32 else c.val.toNat := by
  unfold Char.toUpper
  have a : 'a'.val.toNat = 97 := rfl
  have z : 'z'.val.toNat = 122 := rfl
  have shift : ('A'.val - 'a'.val).toNat = 4294967264 := rfl
  simp only [UInt32.le_iff_toNat_le, a, z]
  split
  · simp only [UInt32.toNat_add, shift]
    omega
  · rfl

/-- Lower case moves the capital letters of the ASCII range. -/
theorem toNat_toLower (c : Char) :
    c.toLower.val.toNat =
      if 65 ≤ c.val.toNat ∧ c.val.toNat ≤ 90 then c.val.toNat + 32 else c.val.toNat := by
  unfold Char.toLower
  have a : 'A'.val.toNat = 65 := rfl
  have z : 'Z'.val.toNat = 90 := rfl
  have shift : ('a'.val - 'A'.val).toNat = 32 := rfl
  simp only [UInt32.le_iff_toNat_le, ge_iff_le, a, z]
  split
  · simp only [UInt32.toNat_add, shift]
    omega
  · rfl

theorem eq_of_toNat_val {c d : Char} (same : c.val.toNat = d.val.toNat) : c = d :=
  Char.ext (UInt32.toNat_inj.1 same)

theorem toLower_toUpper (c : Char) : c.toUpper.toLower = c.toLower := by
  refine eq_of_toNat_val ?_
  rw [toNat_toLower, toNat_toUpper, toNat_toLower]
  split_ifs <;> omega

theorem toUpper_toLower (c : Char) : c.toLower.toUpper = c.toUpper := by
  refine eq_of_toNat_val ?_
  rw [toNat_toUpper, toNat_toLower, toNat_toUpper]
  split_ifs <;> omega

/-- Upper case leads from a character to itself or to an upper-case letter. -/
theorem toUpper_eq_or_isUpper (c : Char) : c.toUpper = c ∨ c.toUpper.isUpper = true := by
  have moved := toNat_toUpper c
  split_ifs at moved with small
  · refine Or.inr ((isUpper_iff _).2 ?_)
    omega
  · exact Or.inl (eq_of_toNat_val moved)

/-- Lower case leads from a character to itself, or from a letter to a letter. -/
theorem toLower_eq_or_isAlpha (c : Char) :
    c.toLower = c ∨ c.isAlpha = true ∧ c.toLower.isAlpha = true := by
  have moved := toNat_toLower c
  split_ifs at moved with capital
  · have small : c.toLower.isLower = true := (isLower_iff _).2 (by omega)
    exact Or.inr ⟨(isAlpha_iff c).2 (Or.inl ((isUpper_iff c).2 capital)),
      (isAlpha_iff _).2 (Or.inr small)⟩
  · exact Or.inl (eq_of_toNat_val moved)

/-- Lower case makes no character that is not a letter, and loses none. -/
theorem toLower_eq_iff {c mark : Char} (noLetter : mark.isAlpha = false) :
    c.toLower = mark ↔ c = mark := by
  rcases toLower_eq_or_isAlpha c with same | ⟨letter, lowered⟩
  · rw [same]
  · constructor
    · intro made
      rw [made, noLetter] at lowered
      cases lowered
    · intro own
      rw [own, noLetter] at letter
      cases letter

end EntityGen.Text
