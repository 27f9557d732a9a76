/-
  Proofs/Java/Identifier.lean --- names made of identifiers.

  Source: the specification, section 4.2 (accessors) and section 4.4 (finders).

  The generator makes names by putting words before and after identifiers and by
  capitalizing them. What it makes is an identifier again: no reserved word begins or ends
  as these names do.
-/
import EntityGen.Blueprint.Dao
import EntityGen.Java.Identifier
import EntityGen.Proofs.Naming
import EntityGen.Proofs.Text.Letters

set_option autoImplicit false

namespace EntityGen.Java

open EntityGen.Model (FieldType)

/-! ## Characters -/

theorem isIdentifierPart_of_start {c : Char} (start : isIdentifierStart c = true) :
    isIdentifierPart c = true := by
  simp only [isIdentifierStart, isIdentifierPart, Char.isAlphanum, Bool.or_eq_true] at start ⊢
  rcases start with (alpha | underscore) | dollar
  · exact Or.inl (Or.inl (Or.inl alpha))
  · exact Or.inl (Or.inr underscore)
  · exact Or.inr dollar

theorem isIdentifierPart_toUpper {c : Char} (part : isIdentifierPart c = true) :
    isIdentifierPart c.toUpper = true := by
  rcases Text.toUpper_eq_or_isUpper c with same | upper
  · rw [same]
    exact part
  · have letter : c.toUpper.isAlpha = true := (Text.isAlpha_iff _).2 (Or.inl upper)
    simp [isIdentifierPart, Char.isAlphanum, letter]

/-- Characters of identifiers never reach the case tables. -/
theorem isAscii_of_isIdentifierPart {c : Char} (part : isIdentifierPart c = true) :
    Text.isAscii c = true := by
  simp only [isIdentifierPart, Char.isAlphanum, Text.isAlpha_iff, Text.isUpper_iff,
    Text.isLower_iff, Char.isDigit, Bool.or_eq_true, Bool.and_eq_true, decide_eq_true_eq,
    beq_iff_eq, UInt32.le_iff_toNat_le, ge_iff_le] at part
  simp only [Text.isAscii, decide_eq_true_eq]
  rcases part with (((⟨-, upper⟩ | ⟨-, lower⟩) | ⟨-, digit⟩) | rfl) | rfl
  · exact Nat.lt_of_le_of_lt upper (by decide)
  · exact Nat.lt_of_le_of_lt lower (by decide)
  · exact Nat.lt_of_le_of_lt digit (by decide)
  · decide
  · decide

/-! ## Texts of identifier characters -/

/-- Every character may stand in an identifier after the first. -/
def HasIdentifierParts (s : String) : Prop :=
  ∀ c ∈ s.toList, isIdentifierPart c = true

instance (s : String) : Decidable (HasIdentifierParts s) :=
  decidable_of_iff (s.toList.all isIdentifierPart = true) List.all_eq_true

theorem HasIdentifierParts.append {s t : String} (left : HasIdentifierParts s)
    (right : HasIdentifierParts t) : HasIdentifierParts (s ++ t) := by
  intro c mem
  rw [String.toList_append, List.mem_append] at mem
  exact mem.elim (left c) (right c)

theorem HasIdentifierParts.capitalize {s : String} (parts : HasIdentifierParts s) :
    HasIdentifierParts (Text.capitalize s) := by
  unfold HasIdentifierParts Text.capitalize at *
  rw [String.toList_ofList]
  cases chars : s.toList with
  | nil => exact fun c mem => absurd mem List.not_mem_nil
  | cons first rest =>
    rw [chars] at parts
    have firstPart := parts first List.mem_cons_self
    intro c mem
    simp only [Text.capitalizeChars, Text.upperChar, isAscii_of_isIdentifierPart firstPart,
      if_pos, List.singleton_append, List.mem_cons] at mem
    rcases mem with rfl | later
    · exact isIdentifierPart_toUpper firstPart
    · exact parts c (List.mem_cons_of_mem first later)

theorem HasIdentifierParts.join {separator : String} {items : List String}
    (between : HasIdentifierParts separator) (each : ∀ item ∈ items, HasIdentifierParts item) :
    HasIdentifierParts (Text.join separator items) := by
  induction items with
  | nil => exact fun c mem => absurd mem List.not_mem_nil
  | cons first rest ih =>
    have here := each first List.mem_cons_self
    have there := ih fun item mem => each item (List.mem_cons_of_mem first mem)
    cases rest with
    | nil => exact here
    | cons second rest => exact (here.append between).append there

/-! ## Identifiers -/

/-- An identifier starts well, goes on well and is no reserved word. -/
theorem isIdentifier_iff {name : String} :
    isIdentifier name = true ↔ ∃ first rest, name.toList = first :: rest ∧
      isIdentifierStart first = true ∧ (∀ c ∈ rest, isIdentifierPart c = true) ∧
      name ∉ keywords := by
  unfold isIdentifier identifierFault? isKeyword
  cases chars : name.toList with
  | nil => simp
  | cons first rest =>
    simp only [Option.isNone_iff_eq_none, List.cons.injEq]
    constructor
    · intro free
      split at free
      · cases free
      · split at free
        · cases free
        · split at free
          · cases free
          · refine ⟨first, rest, ⟨rfl, rfl⟩, ?_, ?_, ?_⟩ <;> simp_all
    · rintro ⟨_, _, ⟨rfl, rfl⟩, start, parts, new⟩
      simpa [start, new] using parts

theorem hasIdentifierParts_of_isIdentifier {name : String} (legal : isIdentifier name = true) :
    HasIdentifierParts name := by
  obtain ⟨first, rest, chars, start, parts, -⟩ := isIdentifier_iff.1 legal
  intro c mem
  rw [chars] at mem
  rcases List.mem_cons.1 mem with rfl | later
  · exact isIdentifierPart_of_start start
  · exact parts c later

/-- An identifier stays one with more of its characters behind, unless that makes a reserved word. -/
theorem isIdentifier_append {name tail : String} (legal : isIdentifier name = true)
    (parts : HasIdentifierParts tail) (new : name ++ tail ∉ keywords) :
    isIdentifier (name ++ tail) = true := by
  obtain ⟨first, rest, chars, start, restParts, -⟩ := isIdentifier_iff.1 legal
  refine isIdentifier_iff.2 ⟨first, rest ++ tail.toList, ?_, start, ?_, new⟩
  · rw [String.toList_append, chars, List.cons_append]
  · intro c mem
    exact (List.mem_append.1 mem).elim (restParts c) (parts c)

/-! ## Names of methods -/

theorem isIdentifier_getterName {field : String} (legal : isIdentifier field = true)
    (type : FieldType) : isIdentifier (Naming.getterName field type) = true := by
  have parts := (hasIdentifierParts_of_isIdentifier legal).capitalize
  unfold Naming.getterName
  split
  · exact isIdentifier_append (by decide) parts (Text.append_not_mem_of_lead (by decide) _)
  · exact isIdentifier_append (by decide) parts (Text.append_not_mem_of_lead (by decide) _)

theorem isIdentifier_setterName {field : String} (legal : isIdentifier field = true) :
    isIdentifier (Naming.setterName field) = true :=
  isIdentifier_append (by decide) (hasIdentifierParts_of_isIdentifier legal).capitalize
    (Text.append_not_mem_of_lead (by decide) _)

theorem isIdentifier_finderName {fields : List String}
    (legal : ∀ field ∈ fields, isIdentifier field = true) :
    isIdentifier (Blueprint.finderName fields) = true := by
  refine isIdentifier_append (by decide) (HasIdentifierParts.join (by decide) ?_)
    (Text.append_not_mem_of_lead (by decide) _)
  intro item mem
  obtain ⟨field, listed, rfl⟩ := List.mem_map.1 mem
  exact (hasIdentifierParts_of_isIdentifier (legal field listed)).capitalize

end EntityGen.Java
