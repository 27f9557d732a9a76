/-
  Proofs/Text/Lower.lean --- lower case of names.

  Source: `Text/Case.lean`. The lemmas serve the comparison of generated names and of paths
  without letter case.

  In the ASCII range lower case is a matter of single letters: it leaves every other
  character where it is and makes no new ones. What separates the parts of a name therefore
  separates those of its lower case.

  They are limited to ASCII on purpose: beyond it lower case may change the number of
  characters.
-/
import EntityGen.Proofs.Naming
import EntityGen.Proofs.Text.Letters
import EntityGen.Text.Case

set_option autoImplicit false

namespace EntityGen

namespace Text

/-! ## Texts -/

/-- Every character lies in the ASCII range. -/
def AllAscii (s : String) : Prop :=
  ∀ c ∈ s.toList, isAscii c = true

instance (s : String) : Decidable (AllAscii s) :=
  decidable_of_iff (s.toList.all isAscii = true) List.all_eq_true

/-- Such a text is put into lower case letter by letter. -/
theorem toList_lower {s : String} (plain : AllAscii s) :
    (lower s).toList = s.toList.map Char.toLower := by
  have each : ∀ before cs, (∀ c ∈ cs, isAscii c = true) →
      lowerChars before cs = cs.map Char.toLower := by
    intro before cs ascii
    induction cs generalizing before with
    | nil => rfl
    | cons c rest ih =>
      have here : isAscii c = true := ascii c List.mem_cons_self
      have noSigma : c ≠ 'Σ' := by
        rintro rfl
        exact absurd here (by decide)
      rw [lowerChars, if_neg noSigma, lowerChar, if_pos here,
        ih (c :: before) fun other mem => ascii other (List.mem_cons_of_mem c mem)]
      rfl
  rw [lower, String.toList_ofList, each [] s.toList plain]

theorem mem_lower_iff {s : String} (plain : AllAscii s) {mark : Char}
    (noLetter : mark.isAlpha = false) : mark ∈ (lower s).toList ↔ mark ∈ s.toList := by
  rw [toList_lower plain, List.mem_map]
  simp only [toLower_eq_iff noLetter, exists_eq_right]

end Text

/-! ## Dotted names -/

namespace Naming

open Text (AllAscii lower)

theorem allAscii_dotted_iff {packageName simpleName : String} :
    AllAscii (dotted packageName simpleName) ↔ AllAscii packageName ∧ AllAscii simpleName := by
  unfold AllAscii
  rw [toList_dotted, List.forall_mem_append, List.forall_mem_cons]
  have dot : Text.isAscii '.' = true := by decide
  simp [dot]

theorem lower_dotted {packageName simpleName : String} (package : AllAscii packageName)
    (simple : AllAscii simpleName) :
    lower (dotted packageName simpleName) = dotted (lower packageName) (lower simpleName) := by
  have whole := Text.toList_lower (allAscii_dotted_iff.2 ⟨package, simple⟩)
  rw [← String.toList_inj, whole, toList_dotted, toList_dotted, Text.toList_lower package,
    Text.toList_lower simple, List.map_append, List.map_cons]
  rfl

section

variable {name : String} (packaged : (namespaceOf name).isEmpty = false) (plain : AllAscii name)

include packaged plain

theorem allAscii_parts : AllAscii (namespaceOf name) ∧ AllAscii (simpleNameOf name) := by
  rw [← dotted_namespaceOf packaged] at plain
  exact allAscii_dotted_iff.1 plain

/-- The parts of a name in lower case are its parts in lower case. -/
theorem parts_lower :
    namespaceOf (lower name) = lower (namespaceOf name) ∧
      simpleNameOf (lower name) = lower (simpleNameOf name) := by
  obtain ⟨package, simple⟩ := allAscii_parts packaged plain
  have lowered := lower_dotted package simple
  rw [dotted_namespaceOf packaged] at lowered
  have noDot : '.' ∉ (lower (simpleNameOf name)).toList := by
    rw [Text.mem_lower_iff simple (by decide)]
    exact not_mem_simpleNameOf name
  rw [lowered]
  exact ⟨namespaceOf_dotted noDot _, simpleNameOf_dotted noDot _⟩

theorem packaged_lower : (namespaceOf (lower name)).isEmpty = false := by
  have package := (allAscii_parts packaged plain).1
  rw [(parts_lower packaged plain).1]
  rw [Bool.eq_false_iff, ne_eq, String.isEmpty_iff, ← String.toList_eq_nil_iff] at packaged ⊢
  rw [Text.toList_lower package, List.map_eq_nil_iff]
  exact packaged

end

end Naming

end EntityGen
