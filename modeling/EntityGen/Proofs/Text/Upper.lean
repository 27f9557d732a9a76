/-
  Proofs/Text/Upper.lean --- upper and lower case.

  Source: `Text/Case.lean`. The lemmas serve the names of columns and tables, which are in
  upper case, against checks that compare in lower case.

  In the ASCII range upper and lower case forget the same: texts have one upper case exactly
  if they have one lower case.
-/
import EntityGen.Proofs.Text.Lower
import Mathlib.Data.List.Basic

set_option autoImplicit false

namespace EntityGen.Text

theorem toList_upper {s : String} (plain : AllAscii s) :
    (upper s).toList = s.toList.map Char.toUpper := by
  have each : ∀ c ∈ s.toList, upperChar c = [c.toUpper] := fun c mem => if_pos (plain c mem)
  rw [upper, String.toList_ofList, List.flatMap_congr each]
  exact List.flatMap_pure_eq_map Char.toUpper s.toList

/-- Texts that differ in letter case alone are told apart by neither case. -/
theorem upper_eq_upper_iff {s t : String} (plain : AllAscii s) (plain' : AllAscii t) :
    upper s = upper t ↔ lower s = lower t := by
  rw [← String.toList_inj, ← String.toList_inj, toList_upper plain, toList_upper plain',
    toList_lower plain, toList_lower plain']
  constructor
  · intro same
    have lowered := congrArg (List.map Char.toLower) same
    simpa only [List.map_map, Function.comp_def, toLower_toUpper] using lowered
  · intro same
    have raised := congrArg (List.map Char.toUpper) same
    simpa only [List.map_map, Function.comp_def, toUpper_toLower] using raised

end EntityGen.Text
