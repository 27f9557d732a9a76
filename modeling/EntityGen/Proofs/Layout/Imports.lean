/-
  Proofs/Layout/Imports.lean --- what is imported.

  Source: `Layout/Imports.lean`, as pairs of a module and a symbol.

  A pair that is new is added once and nothing else changes; pairs with pairwise distinct
  texts are listed in strictly ascending order.
-/
import EntityGen.Layout.Imports
import Mathlib.Data.List.Nodup

set_option autoImplicit false

namespace EntityGen

/-! ## Order -/

/-- Sorting distinct texts leaves no two neighbours of one text. -/
theorem Text.pairwise_lt_ascendingBy {texts : List String} (apart : texts.Nodup) :
    (Text.ascendingBy id texts).Pairwise fun a b => a < b := by
  have sorted := Text.pairwise_ascendingBy id texts
  have distinct : (Text.ascendingBy id texts).Nodup :=
    (Text.perm_ascendingBy id texts).nodup_iff.2 apart
  refine (sorted.and distinct).imp fun {a b} ⟨le, ne⟩ => ?_
  by_contra notSmaller
  exact ne (String.le_antisymm le (String.not_lt.1 notSmaller))

/-- No text occurs twice in strictly ascending order. -/
theorem Text.nodup_of_pairwise_lt {texts : List String}
    (ascending : texts.Pairwise fun a b => a < b) : texts.Nodup := by
  refine ascending.imp ?_
  rintro a b less rfl
  exact String.lt_irrefl a less

/-- Texts in strictly ascending order are known by which they are. -/
theorem Text.eq_of_pairwise_lt {texts others : List String}
    (ascending : texts.Pairwise fun a b => a < b) (ascending' : others.Pairwise fun a b => a < b)
    (same : ∀ text, text ∈ texts ↔ text ∈ others) : texts = others := by
  have perm := (List.perm_ext_iff_of_nodup (Text.nodup_of_pairwise_lt ascending)
    (Text.nodup_of_pairwise_lt ascending')).2 same
  refine List.Perm.eq_of_pairwise ?_ ascending ascending' perm
  intro a b _ _ less more
  exact absurd (String.lt_trans less more) (String.lt_irrefl a)

/-- Texts are sorted alike whatever order they were in. -/
theorem Text.ascendingBy_eq_of_perm {texts others : List String} (perm : texts.Perm others) :
    Text.ascendingBy id texts = Text.ascendingBy id others := by
  have sorted : (Text.ascendingBy id texts).Perm (Text.ascendingBy id others) :=
    ((Text.perm_ascendingBy id texts).trans perm).trans (Text.perm_ascendingBy id others).symm
  refine List.Perm.eq_of_pairwise ?_ (Text.pairwise_ascendingBy id texts)
    (Text.pairwise_ascendingBy id others) sorted
  intro a b _ _ le ge
  exact String.le_antisymm le ge

namespace Layout

/-! ## Symbols of a module -/

/-- A new symbol is put among the others. -/
theorem perm_insertSorted {symbol : String} {symbols : List String} (fresh : symbol ∉ symbols) :
    (insertSorted symbol symbols).Perm (symbol :: symbols) := by
  induction symbols with
  | nil => exact List.Perm.refl _
  | cons first rest ih =>
    simp only [List.mem_cons, not_or] at fresh
    unfold insertSorted
    rw [if_neg fresh.1]
    split
    · exact List.Perm.refl _
    · exact ((ih fresh.2).cons first).trans (List.Perm.swap symbol first rest)

namespace Imports

/-! ## Pairs -/

/-- The pairs of one module. -/
def pairsOf (entry : ModuleImports) : List (String × String) :=
  entry.symbols.map fun symbol => (entry.module, symbol)

/-- What is imported, module by module. -/
def pairs (imports : Imports) : List (String × String) :=
  imports.modules.flatMap pairsOf

@[simp] theorem pairs_empty : Imports.empty.pairs = [] := rfl

theorem mem_pairsOf {entry : ModuleImports} {module symbol : String} :
    (module, symbol) ∈ pairsOf entry ↔ entry.module = module ∧ symbol ∈ entry.symbols := by
  simp only [pairsOf, List.mem_map, Prod.mk.injEq]
  constructor
  · rintro ⟨symbol, mem, rfl, rfl⟩
    exact ⟨rfl, mem⟩
  · rintro ⟨rfl, mem⟩
    exact ⟨symbol, mem, rfl, rfl⟩

theorem perm_pairs_addTo {module symbol : String} {modules : List ModuleImports}
    (fresh : (module, symbol) ∉ modules.flatMap pairsOf) :
    ((addTo module [symbol] modules).flatMap pairsOf).Perm
      ((module, symbol) :: modules.flatMap pairsOf) := by
  induction modules with
  | nil => exact List.Perm.refl _
  | cons first rest ih =>
    rw [List.flatMap_cons, List.mem_append, not_or] at fresh
    unfold addTo
    split
    · rename_i same
      have new : symbol ∉ first.symbols := fun mem => fresh.1 (mem_pairsOf.2 ⟨same, mem⟩)
      have placed := (perm_insertSorted new).map fun other => (module, other)
      rw [List.flatMap_cons, List.flatMap_cons, ← List.cons_append]
      refine List.Perm.append_right _ ?_
      rw [pairsOf, pairsOf, same]
      exact placed
    · rw [List.flatMap_cons, List.flatMap_cons]
      exact ((ih fresh.2).append_left _).trans List.perm_middle

/-- A new pair is added once. -/
theorem perm_pairs_add {imports : Imports} {module symbol : String}
    (fresh : (module, symbol) ∉ imports.pairs) :
    (imports.add module symbol).pairs.Perm ((module, symbol) :: imports.pairs) :=
  perm_pairs_addTo fresh

/-! ## Texts -/

/-- What is listed are the texts of the pairs. -/
theorem qualified_eq_ascendingBy (imports : Imports) (separator : String) :
    imports.qualified separator =
      Text.ascendingBy id (imports.pairs.map fun pair => pair.1 ++ separator ++ pair.2) := by
  unfold qualified pairs
  rw [List.map_flatMap]
  simp only [pairsOf, List.map_map]
  rfl

theorem mem_qualified {imports : Imports} {separator text : String} :
    text ∈ imports.qualified separator ↔
      ∃ pair ∈ imports.pairs, pair.1 ++ separator ++ pair.2 = text := by
  rw [qualified_eq_ascendingBy, (Text.perm_ascendingBy id _).mem_iff, List.mem_map]

/-- Pairs with distinct texts are listed in strictly ascending order. -/
theorem pairwise_lt_qualified {imports : Imports} {separator : String}
    (apart : (imports.pairs.map fun pair => pair.1 ++ separator ++ pair.2).Nodup) :
    (imports.qualified separator).Pairwise fun a b => a < b := by
  rw [qualified_eq_ascendingBy]
  exact Text.pairwise_lt_ascendingBy apart

end Imports

end Layout

end EntityGen
