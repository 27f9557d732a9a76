/-
  Proofs/Lint/Collisions.lean --- counting type collisions.

  Source: the specification, section 7 (every diagnostic is collected), for
  `Lint/TypeCollision.lean`.

  The walk over the generated types carries the types that it remembers, one for each name
  that was met. Every type is either remembered or reported, so the number of findings is
  that of the types less that of their names when letter case is not told apart, and what is
  found in a list of types stays found, in its order, when more types follow.
-/
import EntityGen.Proofs.Lint.Silence
import Mathlib.Data.Finset.Card

set_option autoImplicit false

namespace EntityGen.Lint.TypeCollision

/-! ## One step -/

section Step

variable {earlier next : List GeneratedType} {type : GeneratedType} {findings : List Diagnostic}

/-- A step either reports or remembers its type. -/
theorem Steps.length_add (step : Steps earlier type findings next) :
    findings.length + next.length = earlier.length + 1 := by
  rcases step with ⟨first, -, -, rfl, rfl⟩ | ⟨-, rfl, rfl⟩
  · rw [List.length_singleton, Nat.add_comm]
  · rw [List.length_nil, Nat.zero_add, List.length_append, List.length_singleton]

/-- A step keeps the remembered names pairwise distinct. -/
theorem Steps.nodup (step : Steps earlier type findings next)
    (apart : (earlier.map foldedName).Nodup) : (next.map foldedName).Nodup := by
  rcases step with ⟨-, -, -, -, rfl⟩ | ⟨new, -, rfl⟩
  · exact apart
  · rw [List.map_append, List.map_singleton]
    exact nodup_of_new new apart

/-- Behind a step the name of its type is among the remembered ones, and no other one is new. -/
theorem Steps.mem_names_iff (step : Steps earlier type findings next) {name : String} :
    name ∈ next.map foldedName ↔ name ∈ earlier.map foldedName ∨ name = foldedName type := by
  rcases step with ⟨first, mem, same, -, rfl⟩ | ⟨-, -, rfl⟩
  · constructor
    · exact Or.inl
    · rintro (old | rfl)
      · exact old
      · exact same ▸ List.mem_map_of_mem mem
  · rw [List.map_append, List.map_singleton, List.mem_append, List.mem_singleton]

end Step

/-! ## Whole walks -/

/-- What is found in a list of types stays found when more types follow. -/
theorem collisions_append (earlier types more : List GeneratedType) :
    collisions earlier (types ++ more) =
      collisions earlier types ++ collisions (remembered earlier types) more := by
  induction types generalizing earlier with
  | nil => rfl
  | cons type rest ih =>
    obtain ⟨findings, next, -, goesOn⟩ := exists_steps earlier type
    rw [List.cons_append, (goesOn _).1, (goesOn _).1, (goesOn _).2, ih, List.append_assoc]

/-- Every type is either reported or remembered. -/
theorem length_collisions_add (earlier types : List GeneratedType) :
    (collisions earlier types).length + (remembered earlier types).length =
      earlier.length + types.length := by
  induction types generalizing earlier with
  | nil => simp [collisions, remembered]
  | cons type rest ih =>
    obtain ⟨findings, next, step, goesOn⟩ := exists_steps earlier type
    have here := step.length_add
    have later := ih next
    rw [(goesOn rest).1, (goesOn rest).2, List.length_append, List.length_cons]
    omega

/-- Remembered types have pairwise distinct names. -/
theorem nodup_remembered {earlier : List GeneratedType} (types : List GeneratedType)
    (apart : (earlier.map foldedName).Nodup) :
    ((remembered earlier types).map foldedName).Nodup := by
  induction types generalizing earlier with
  | nil => exact apart
  | cons type rest ih =>
    obtain ⟨findings, next, step, goesOn⟩ := exists_steps earlier type
    rw [(goesOn rest).2]
    exact ih (step.nodup apart)

/-- The remembered names are those that were met. -/
theorem mem_names_remembered_iff {earlier types : List GeneratedType} {name : String} :
    name ∈ (remembered earlier types).map foldedName ↔
      name ∈ earlier.map foldedName ∨ name ∈ types.map foldedName := by
  induction types generalizing earlier with
  | nil => simp [remembered]
  | cons type rest ih =>
    obtain ⟨findings, next, step, goesOn⟩ := exists_steps earlier type
    rw [(goesOn rest).2, ih, step.mem_names_iff, List.map_cons, List.mem_cons, or_assoc]

/-- There is a finding for each type beyond the first of its name. -/
theorem length_collisions_add_card (types : List GeneratedType) :
    (collisions [] types).length + (types.map foldedName).toFinset.card = types.length := by
  have distinct : ((remembered [] types).map foldedName).Nodup :=
    nodup_remembered types List.nodup_nil
  have same : ((remembered [] types).map foldedName).toFinset =
      (types.map foldedName).toFinset := by
    ext name
    simp only [List.mem_toFinset, mem_names_remembered_iff, List.map_nil, List.not_mem_nil,
      false_or]
  have walked := length_collisions_add [] types
  rw [List.length_nil, Nat.zero_add] at walked
  rw [← same, List.toFinset_card_of_nodup distinct, List.length_map, walked]

end EntityGen.Lint.TypeCollision
