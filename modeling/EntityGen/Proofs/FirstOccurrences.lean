/-
  Proofs/FirstOccurrences.lean --- lists without later occurrences.

  Source: no part of the specification: lemmas on `List.eraseDups`, for rosters, imports and
  attributes, where the first of several items counts.

  The items of a list that are kept when every later occurrence of an item is dropped. An
  item that is added behind the others is kept exactly if it is new.
-/
import Mathlib.Data.List.Induction
import Mathlib.Data.List.Nodup

set_option autoImplicit false

namespace EntityGen

variable {α : Type} [BEq α] [LawfulBEq α]

/-- An item behind the others is kept if it is new. -/
theorem eraseDups_concat (items : List α) (item : α) :
    (items ++ [item]).eraseDups =
      if item ∈ items then items.eraseDups else items.eraseDups ++ [item] := by
  rw [List.eraseDups_append]
  by_cases met : item ∈ items
  · simp [List.removeAll, met]
  · simp [List.removeAll, met, List.eraseDups_cons]

/-- No item is kept twice. -/
theorem nodup_eraseDups (items : List α) : items.eraseDups.Nodup := by
  induction items using List.reverseRecOn with
  | nil => exact List.nodup_nil
  | append_singleton rest item ih =>
    rw [eraseDups_concat]
    split
    case isTrue => exact ih
    case isFalse fresh =>
      refine List.nodup_append.2 ⟨ih, List.nodup_singleton item, ?_⟩
      rintro old met new mem rfl
      rw [List.mem_singleton.1 mem, List.mem_eraseDups] at met
      exact fresh met

/-- Where no item occurs twice all are kept. -/
theorem eraseDups_of_nodup {items : List α} (apart : items.Nodup) : items.eraseDups = items := by
  induction items using List.reverseRecOn with
  | nil => rfl
  | append_singleton rest item ih =>
    have fresh : item ∉ rest := fun met =>
      (List.nodup_append.1 apart).2.2 item met item (List.mem_singleton_self item) rfl
    rw [eraseDups_concat, if_neg fresh, ih (List.nodup_append.1 apart).1]

/-- Repetitions within two lists may be dropped before the lists are put together. -/
theorem eraseDups_append_eraseDups (items more : List α) :
    (items.eraseDups ++ more.eraseDups).eraseDups = (items ++ more).eraseDups := by
  induction more using List.reverseRecOn with
  | nil => rw [List.eraseDups_nil, List.append_nil, List.append_nil,
      eraseDups_of_nodup (nodup_eraseDups items)]
  | append_singleton rest item ih =>
    rw [← List.append_assoc, eraseDups_concat (items ++ rest), eraseDups_concat rest]
    by_cases met : item ∈ rest
    · rw [if_pos met, if_pos (List.mem_append_right items met), ih]
    · rw [if_neg met, ← List.append_assoc, eraseDups_concat, ih]
      simp only [List.mem_append, List.mem_eraseDups]

end EntityGen
