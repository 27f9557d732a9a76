/-
  Text/Ascending.lean --- sorting by a text.

  Source: the specification, section 8: the output is the same on every run, so whatever is
  gathered without an order is listed in ascending order of its text.

  Texts are compared character by character, by code points. Items of one text keep their
  order.

  Sorting is by insertion, which is what the proofs about imported names follow: inserting
  keeps the order and only adds the item.
-/

set_option autoImplicit false

namespace EntityGen.Text

variable {α : Type}

/-- The items with one more, which is put before the first item whose text is not smaller. -/
def insertBy (text : α → String) (item : α) : List α → List α
  | [] => [item]
  | first :: rest =>
    if text first < text item then first :: insertBy text item rest else item :: first :: rest

/-- The items in ascending order of their texts. -/
def ascendingBy (text : α → String) (items : List α) : List α :=
  items.foldr (insertBy text) []

theorem perm_insertBy (text : α → String) (item : α) (items : List α) :
    (insertBy text item items).Perm (item :: items) := by
  induction items with
  | nil => exact List.Perm.refl _
  | cons first rest ih =>
    unfold insertBy
    split
    · exact (ih.cons first).trans (List.Perm.swap item first rest)
    · exact List.Perm.refl _

/-- Nothing is lost and nothing is added. -/
theorem perm_ascendingBy (text : α → String) (items : List α) :
    (ascendingBy text items).Perm items := by
  induction items with
  | nil => exact List.Perm.refl _
  | cons first rest ih => exact (perm_insertBy text first _).trans (ih.cons first)

theorem pairwise_insertBy (text : α → String) (item : α) {items : List α}
    (h : items.Pairwise fun a b => text a ≤ text b) :
    (insertBy text item items).Pairwise fun a b => text a ≤ text b := by
  induction items with
  | nil => exact List.pairwise_singleton _ item
  | cons first rest ih =>
    rw [List.pairwise_cons] at h
    unfold insertBy
    split
    case isTrue smaller =>
      refine List.pairwise_cons.2 ⟨fun other mem => ?_, ih h.2⟩
      rcases List.mem_cons.1 ((perm_insertBy text item rest).mem_iff.1 mem) with rfl | old
      · exact String.not_lt.1 (String.lt_asymm smaller)
      · exact h.1 other old
    case isFalse notSmaller =>
      have le : text item ≤ text first := String.not_lt.1 notSmaller
      refine List.pairwise_cons.2 ⟨fun other mem => ?_, List.pairwise_cons.2 h⟩
      rcases List.mem_cons.1 mem with rfl | old
      · exact le
      · exact String.le_trans le (h.1 other old)

/-- No text comes before a smaller one. -/
theorem pairwise_ascendingBy (text : α → String) (items : List α) :
    (ascendingBy text items).Pairwise fun a b => text a ≤ text b := by
  induction items with
  | nil => exact List.Pairwise.nil
  | cons first rest ih => exact pairwise_insertBy text first ih

end EntityGen.Text
