/-
  Proofs/Layout/Collecting.lean --- collecting imports.

  Source: the specification, section 8 (the output is the same on every run), for
  `Layout/Imports.lean`.

  Imports are collected symbol by symbol, and imports that were collected elsewhere are
  merged into them. However this is done, the outcome is known by the pairs of a module and
  a symbol that were added on the way: modules stand in the order in which they were first
  met, and the symbols of each are ascending. Merging is therefore a union of pairs, up to
  the order of the modules.
-/
import EntityGen.Proofs.FirstOccurrences
import EntityGen.Proofs.Layout.Imports

set_option autoImplicit false

namespace EntityGen.Layout

/-! ## Symbols of a module -/

theorem pairwise_insertSorted {symbol : String} {symbols : List String}
    (ascending : symbols.Pairwise fun a b => a < b) :
    (insertSorted symbol symbols).Pairwise fun a b => a < b := by
  induction symbols with
  | nil => exact List.pairwise_singleton _ symbol
  | cons first rest ih =>
    obtain ⟨least, others⟩ := List.pairwise_cons.1 ascending
    unfold insertSorted
    split
    case isTrue => exact ascending
    case isFalse other =>
      split
      case isTrue smaller =>
        refine List.pairwise_cons.2 ⟨fun old mem => ?_, ascending⟩
        rcases List.mem_cons.1 mem with rfl | mem
        · exact smaller
        · exact String.lt_trans smaller (least old mem)
      case isFalse notSmaller =>
        refine List.pairwise_cons.2 ⟨fun new mem => ?_, ih others⟩
        rcases mem_insertSorted.1 mem with rfl | mem
        · by_contra notGreater
          exact other (String.le_antisymm (String.not_lt.1 notGreater) (String.not_lt.1 notSmaller))
        · exact least new mem

/-- The symbols with several more, each put in its place. -/
def insertAll (symbols all : List String) : List String :=
  symbols.foldl (fun all symbol => insertSorted symbol all) all

theorem mem_insertAll {symbols all : List String} {symbol : String} :
    symbol ∈ insertAll symbols all ↔ symbol ∈ symbols ∨ symbol ∈ all := by
  unfold insertAll
  induction symbols generalizing all with
  | nil => simp
  | cons first rest ih =>
    rw [List.foldl_cons, ih, mem_insertSorted, List.mem_cons, or_left_comm, or_assoc]

theorem pairwise_insertAll (symbols : List String) {all : List String}
    (ascending : all.Pairwise fun a b => a < b) :
    (insertAll symbols all).Pairwise fun a b => a < b := by
  unfold insertAll
  induction symbols generalizing all with
  | nil => exact ascending
  | cons first rest ih => exact ih (pairwise_insertSorted ascending)

namespace Imports

/-! ## One module -/

/-- The modules, first met first. -/
def moduleNames (modules : List ModuleImports) : List String :=
  modules.map ModuleImports.module

/-- The symbols of each module are strictly ascending. -/
def Ascending (modules : List ModuleImports) : Prop :=
  ∀ entry ∈ modules, entry.symbols.Pairwise fun a b => a < b

section

variable {module : String} {symbols : List String} {modules : List ModuleImports}

theorem addTo_cons_of_eq {first : ModuleImports} (same : first.module = module) :
    addTo module symbols (first :: modules) =
      ⟨module, insertAll symbols first.symbols⟩ :: modules := by
  rw [addTo, if_pos same]
  rfl

theorem addTo_cons_of_ne {first : ModuleImports} (other : first.module ≠ module) :
    addTo module symbols (first :: modules) = first :: addTo module symbols modules := by
  rw [addTo, if_neg other]

/-- A module that was met keeps its place; a new one comes last. -/
theorem moduleNames_addTo :
    moduleNames (addTo module symbols modules) =
      if module ∈ moduleNames modules then moduleNames modules
      else moduleNames modules ++ [module] := by
  unfold moduleNames
  induction modules with
  | nil => rfl
  | cons first rest ih =>
    by_cases same : first.module = module
    · rw [addTo_cons_of_eq same]
      simp [same]
    · rw [addTo_cons_of_ne same, List.map_cons, ih]
      by_cases later : module ∈ rest.map ModuleImports.module
      · simp [later]
      · simp [later, Ne.symm same]

/-- The symbols are added to their module, and nothing else changes. -/
theorem mem_pairs_addTo {pair : String × String} :
    pair ∈ (addTo module symbols modules).flatMap pairsOf ↔
      pair ∈ modules.flatMap pairsOf ∨ pair.1 = module ∧ pair.2 ∈ symbols := by
  obtain ⟨owner, symbol⟩ := pair
  induction modules with
  | nil =>
    change (owner, symbol) ∈ [⟨module, insertAll symbols []⟩].flatMap pairsOf ↔ _
    rw [List.flatMap_singleton, mem_pairsOf, mem_insertAll]
    simp [eq_comm]
  | cons first rest ih =>
    by_cases same : first.module = module
    · rw [addTo_cons_of_eq same, List.flatMap_cons, List.flatMap_cons, List.mem_append,
        List.mem_append, mem_pairsOf, mem_pairsOf, mem_insertAll, same]
      simp only [eq_comm (a := module)]
      rw [and_or_left, or_assoc, or_comm]
    · rw [addTo_cons_of_ne same, List.flatMap_cons, List.flatMap_cons, List.mem_append,
        List.mem_append, ih, or_assoc]

theorem Ascending.addTo (ascending : Ascending modules) :
    Ascending (addTo module symbols modules) := by
  induction modules with
  | nil =>
    intro entry mem
    rw [List.mem_singleton.1 mem]
    exact pairwise_insertAll symbols List.Pairwise.nil
  | cons first rest ih =>
    obtain ⟨here, there⟩ := List.forall_mem_cons.1 ascending
    by_cases same : first.module = module
    · rw [addTo_cons_of_eq same]
      exact List.forall_mem_cons.2 ⟨pairwise_insertAll symbols here, there⟩
    · rw [addTo_cons_of_ne same]
      exact List.forall_mem_cons.2 ⟨here, ih there⟩

end

/-! ## Merging -/

theorem modules_merge_concat (imports : Imports) (entries : List ModuleImports)
    (entry : ModuleImports) :
    (imports.merge ⟨entries ++ [entry]⟩).modules =
      addTo entry.module entry.symbols (imports.merge ⟨entries⟩).modules := by
  rw [merge, merge, List.foldl_append]
  rfl

/-- A single symbol is added as it would be from imports of its own. -/
theorem add_eq_merge (imports : Imports) (module symbol : String) :
    imports.add module symbol = imports.merge ⟨[⟨module, [symbol]⟩]⟩ :=
  rfl

/-- Modules that are new come behind the others. -/
theorem moduleNames_merge {imports : Imports} (apart : (moduleNames imports.modules).Nodup)
    (other : Imports) :
    moduleNames (imports.merge other).modules =
      (moduleNames imports.modules ++ moduleNames other.modules).eraseDups := by
  obtain ⟨entries⟩ := other
  induction entries using List.reverseRecOn with
  | nil =>
    change moduleNames imports.modules = (moduleNames imports.modules ++ []).eraseDups
    rw [List.append_nil, eraseDups_of_nodup apart]
  | append_singleton rest entry ih =>
    have names : moduleNames (rest ++ [entry]) = moduleNames rest ++ [entry.module] :=
      List.map_append
    rw [modules_merge_concat, moduleNames_addTo, ih, names, ← List.append_assoc, eraseDups_concat]
    simp only [List.mem_eraseDups]

/-- The pairs of merged imports are those of either. -/
theorem mem_pairs_merge {imports other : Imports} {pair : String × String} :
    pair ∈ (imports.merge other).pairs ↔ pair ∈ imports.pairs ∨ pair ∈ other.pairs := by
  obtain ⟨entries⟩ := other
  induction entries using List.reverseRecOn with
  | nil => simp [merge, pairs]
  | append_singleton rest entry ih =>
    have here : pair ∈ pairsOf entry ↔ pair.1 = entry.module ∧ pair.2 ∈ entry.symbols := by
      rw [mem_pairsOf, eq_comm]
    have there : pair ∈ pairs ⟨rest ++ [entry]⟩ ↔ pair ∈ pairs ⟨rest⟩ ∨ pair ∈ pairsOf entry := by
      rw [pairs, pairs, List.flatMap_append, List.mem_append, List.flatMap_singleton]
    rw [pairs, modules_merge_concat, mem_pairs_addTo, ← pairs, ih, there, here, or_assoc]

theorem Ascending.merge {imports : Imports} (ascending : Ascending imports.modules)
    (other : Imports) : Ascending (imports.merge other).modules := by
  obtain ⟨entries⟩ := other
  induction entries using List.reverseRecOn with
  | nil => exact ascending
  | append_singleton rest entry ih =>
    rw [modules_merge_concat]
    exact ih.addTo

/-! ## What was added -/

/-- The imports are those of the pairs that were added, in this order. -/
structure Holds (imports : Imports) (added : List (String × String)) : Prop where
  /-- Modules stand in the order in which they were first met. -/
  names : moduleNames imports.modules = (added.map Prod.fst).eraseDups
  ascending : Ascending imports.modules
  mem_pairs : ∀ pair, pair ∈ imports.pairs ↔ pair ∈ added

theorem holds_empty : Holds .empty [] where
  names := rfl
  ascending := by
    intro entry mem
    exact absurd mem List.not_mem_nil
  mem_pairs _ := Iff.rfl

theorem holds_single (module symbol : String) :
    Holds ⟨[⟨module, [symbol]⟩]⟩ [(module, symbol)] where
  names := rfl
  ascending := by
    intro entry mem
    rw [List.mem_singleton.1 mem]
    exact List.pairwise_singleton _ symbol
  mem_pairs _ := Iff.rfl

variable {imports other : Imports} {added more : List (String × String)}

theorem Holds.apart (holds : Holds imports added) : (moduleNames imports.modules).Nodup := by
  rw [holds.names]
  exact nodup_eraseDups _

/-- What is merged counts as added behind what was there. -/
theorem Holds.merge (holds : Holds imports added) (holds' : Holds other more) :
    Holds (imports.merge other) (added ++ more) where
  names := by
    rw [moduleNames_merge holds.apart, holds.names, holds'.names, eraseDups_append_eraseDups,
      List.map_append]
  ascending := holds.ascending.merge other
  mem_pairs pair := by
    rw [mem_pairs_merge, holds.mem_pairs, holds'.mem_pairs, List.mem_append]

/-! ## Imports of pairs -/

/-- The symbols that were added to a module, ascending and each once. -/
def symbolsAdded (added : List (String × String)) (module : String) : List String :=
  Text.ascendingBy id ((added.filter fun pair => pair.1 == module).map Prod.snd).eraseDups

/-- The imports of pairs: each module once, first met first, with its symbols. -/
def ofPairs (added : List (String × String)) : Imports :=
  ⟨(added.map Prod.fst).eraseDups.map fun module => ⟨module, symbolsAdded added module⟩⟩

theorem mem_symbolsAdded {module symbol : String} :
    symbol ∈ symbolsAdded added module ↔ (module, symbol) ∈ added := by
  rw [symbolsAdded, (Text.perm_ascendingBy id _).mem_iff, List.mem_eraseDups, List.mem_map]
  constructor
  · rintro ⟨⟨owner, symbol⟩, mem, rfl⟩
    obtain ⟨mem, same⟩ := List.mem_filter.1 mem
    rwa [← eq_of_beq same]
  · intro mem
    exact ⟨(module, symbol), List.mem_filter.2 ⟨mem, beq_self_eq_true module⟩, rfl⟩

theorem pairwise_symbolsAdded (module : String) :
    (symbolsAdded added module).Pairwise fun a b => a < b :=
  Text.pairwise_lt_ascendingBy (nodup_eraseDups _)

theorem mem_symbols_iff (apart : (moduleNames imports.modules).Nodup) {entry : ModuleImports}
    (mem : entry ∈ imports.modules) {symbol : String} :
    symbol ∈ entry.symbols ↔ (entry.module, symbol) ∈ imports.pairs := by
  rw [pairs, List.mem_flatMap]
  constructor
  · intro listed
    exact ⟨entry, mem, mem_pairsOf.2 ⟨rfl, listed⟩⟩
  · rintro ⟨other, mem', pair⟩
    obtain ⟨same, listed⟩ := mem_pairsOf.1 pair
    rwa [← List.inj_on_of_nodup_map apart mem' mem same]

/-- Imports are known by what was added and in which order. -/
theorem Holds.eq_ofPairs (holds : Holds imports added) : imports = ofPairs added := by
  have each : ∀ entry ∈ imports.modules,
      entry = ⟨entry.module, symbolsAdded added entry.module⟩ := by
    intro entry mem
    have symbols : entry.symbols = symbolsAdded added entry.module := by
      refine Text.eq_of_pairwise_lt (holds.ascending entry mem) (pairwise_symbolsAdded _) ?_
      intro symbol
      rw [mem_symbols_iff holds.apart mem, holds.mem_pairs, mem_symbolsAdded]
    rw [← symbols]
  have modules : imports.modules =
      (moduleNames imports.modules).map fun module => ⟨module, symbolsAdded added module⟩ := by
    rw [moduleNames, List.map_map]
    conv_lhs => rw [← List.map_id imports.modules]
    exact List.map_congr_left each
  rw [ofPairs, ← holds.names, ← modules]

/-! ## What can be asked -/

theorem mem_moduleNames_of_mem {module symbol : String} (mem : (module, symbol) ∈ added) :
    module ∈ (added.map Prod.fst).eraseDups :=
  List.mem_eraseDups.2 (List.mem_map_of_mem mem)

/-- A symbol is imported exactly from the modules that it was added to. -/
theorem hasSymbol_ofPairs (module symbol : String) :
    (ofPairs added).hasSymbol module symbol = true ↔ (module, symbol) ∈ added := by
  rw [hasSymbol, symbols?, ofPairs, List.find?_map]
  simp only [Function.comp_def]
  cases found : (added.map Prod.fst).eraseDups.find? fun name => name == module with
  | none =>
    have missing : (module, symbol) ∉ added := fun mem => by
      simpa using List.find?_eq_none.1 found module (mem_moduleNames_of_mem mem)
    simp [missing]
  | some name =>
    have same : name = module := by simpa using List.find?_some found
    simp [same, mem_symbolsAdded]

/-- A symbol belongs to the first module that it was added to, in the order of the modules. -/
theorem owner?_ofPairs (symbol : String) :
    (ofPairs added).owner? symbol =
      (added.map Prod.fst).eraseDups.find? fun module => (module, symbol) ∈ added := by
  rw [owner?, ofPairs, List.find?_map, Option.map_map]
  have listed : ∀ module, (symbolsAdded added module).contains symbol =
      decide ((module, symbol) ∈ added) := by
    intro module
    rw [List.contains_eq_mem, decide_eq_decide, mem_symbolsAdded]
  simp only [Function.comp_def, listed]
  exact congrFun Option.map_id _

theorem Holds.nodup_pairs (holds : Holds imports added) : imports.pairs.Nodup := by
  refine List.nodup_flatMap.2 ⟨fun entry mem => ?_, ?_⟩
  · refine (Text.nodup_of_pairwise_lt (holds.ascending entry mem)).map ?_
    intro symbol other same
    exact congrArg Prod.snd same
  · have apart := List.pairwise_map.1 holds.apart
    refine apart.imp fun {first second} ne => ?_
    rintro ⟨module, symbol⟩ mem mem'
    exact ne ((mem_pairsOf.1 mem).1.trans (mem_pairsOf.1 mem').1.symm)

/-- What is listed are the texts of the pairs that were added, one for each pair. -/
theorem Holds.perm_qualified (holds : Holds imports added) (separator : String) :
    (imports.qualified separator).Perm
      (added.eraseDups.map fun pair => pair.1 ++ separator ++ pair.2) := by
  have same : imports.pairs.Perm added.eraseDups := by
    refine (List.perm_ext_iff_of_nodup holds.nodup_pairs (nodup_eraseDups added)).2 fun pair => ?_
    rw [holds.mem_pairs, List.mem_eraseDups]
  rw [qualified_eq_ascendingBy]
  exact (Text.perm_ascendingBy id _).trans (same.map _)

theorem pairwise_qualified (imports : Imports) (separator : String) :
    (imports.qualified separator).Pairwise fun a b => a ≤ b := by
  rw [qualified_eq_ascendingBy]
  exact Text.pairwise_ascendingBy id _

/-! ## Imports that are alike -/

/-- Imports that cannot be told apart by asking for symbols or by listing them. -/
structure Alike (imports other : Imports) : Prop where
  hasSymbol : ∀ module symbol, imports.hasSymbol module symbol = other.hasSymbol module symbol
  qualified : ∀ separator, imports.qualified separator = other.qualified separator

theorem Holds.hasSymbol_iff (holds : Holds imports added) (module symbol : String) :
    imports.hasSymbol module symbol = true ↔ (module, symbol) ∈ added := by
  rw [holds.eq_ofPairs, hasSymbol_ofPairs]

/-- Imports are alike exactly if the same pairs were added, in whatever order. -/
theorem Holds.alike_iff (holds : Holds imports added) (holds' : Holds other more) :
    Alike imports other ↔ ∀ pair, pair ∈ added ↔ pair ∈ more := by
  constructor
  · rintro alike ⟨module, symbol⟩
    rw [← holds.hasSymbol_iff, ← holds'.hasSymbol_iff, alike.hasSymbol]
  · intro same
    have perm : imports.pairs.Perm other.pairs := by
      refine (List.perm_ext_iff_of_nodup holds.nodup_pairs holds'.nodup_pairs).2 fun pair => ?_
      rw [holds.mem_pairs, holds'.mem_pairs, same]
    refine ⟨fun module symbol => ?_, fun separator => ?_⟩
    · rw [Bool.eq_iff_iff, holds.hasSymbol_iff, holds'.hasSymbol_iff, same]
    · rw [qualified_eq_ascendingBy, qualified_eq_ascendingBy]
      exact Text.ascendingBy_eq_of_perm (perm.map _)

end Imports

/-! ## Collections -/

/-- How imports come about. -/
inductive Collection where
  /-- nothing is imported yet -/
  | start
  /-- one more symbol is added -/
  | add (before : Collection) (module symbol : String)
  /-- what was collected elsewhere is merged -/
  | merge (before other : Collection)
  deriving DecidableEq, Repr, Inhabited

namespace Collection

/-- The imports that come about. -/
def imports : Collection → Imports
  | start => .empty
  | add before module symbol => before.imports.add module symbol
  | merge before other => before.imports.merge other.imports

/-- The pairs that are added on the way, here or in what is merged, as often as they are added. -/
def added : Collection → List (String × String)
  | start => []
  | add before module symbol => before.added ++ [(module, symbol)]
  | merge before other => before.added ++ other.added

theorem holds (collection : Collection) : collection.imports.Holds collection.added := by
  induction collection with
  | start => exact Imports.holds_empty
  | add before module symbol ih =>
    rw [imports, Imports.add_eq_merge]
    exact ih.merge (Imports.holds_single module symbol)
  | merge before other ih ih' => exact ih.merge ih'

/-! ## Main result -/

/-- However imports are collected: a symbol is imported from a module exactly if the pair was added,
here or in what was merged; what is listed are the texts of these pairs in ascending order, one for
each pair; and imports are alike exactly if the same pairs were added. Merging is therefore the union,
and up to likeness it does not matter in which order and how often something is merged. Modules are
held each once, in the order in which they were first met, with the symbols that were added to them,
and a symbol belongs to the first of them that it was added to. -/
theorem merging_is_union (collection : Collection) :
    (∀ module symbol, collection.imports.hasSymbol module symbol = true ↔
      (module, symbol) ∈ collection.added) ∧
    (∀ separator,
      ((collection.imports.qualified separator).Pairwise fun a b => a ≤ b) ∧
      (collection.imports.qualified separator).Perm
        (collection.added.eraseDups.map fun pair => pair.1 ++ separator ++ pair.2)) ∧
    (∀ other : Collection, collection.imports.Alike other.imports ↔
      ∀ pair, pair ∈ collection.added ↔ pair ∈ other.added) ∧
    (∀ other : Collection, ∀ module symbol,
      (collection.imports.merge other.imports).hasSymbol module symbol =
        (collection.imports.hasSymbol module symbol || other.imports.hasSymbol module symbol)) ∧
    (∀ other : Collection,
      (collection.imports.merge other.imports).Alike (other.imports.merge collection.imports)) ∧
    (∀ other third : Collection,
      ((collection.imports.merge other.imports).merge third.imports).Alike
        (collection.imports.merge (other.imports.merge third.imports))) ∧
    (collection.imports.merge collection.imports).Alike collection.imports ∧
    (collection.imports.modules.map ModuleImports.module).Nodup ∧
    collection.imports.modules = (collection.added.map Prod.fst).eraseDups.map (fun module =>
      ⟨module, Imports.symbolsAdded collection.added module⟩) ∧
    ∀ symbol, collection.imports.owner? symbol =
      (collection.added.map Prod.fst).eraseDups.find? fun module =>
        (module, symbol) ∈ collection.added := by
  have known := collection.holds
  refine ⟨known.hasSymbol_iff, fun separator => ?_, fun other => known.alike_iff other.holds,
    fun other module symbol => ?_, fun other => ?_, fun other third => ?_, ?_, known.apart, ?_,
    fun symbol => ?_⟩
  · exact ⟨Imports.pairwise_qualified _ separator, known.perm_qualified separator⟩
  · rw [Bool.eq_iff_iff, Bool.or_eq_true, (known.merge other.holds).hasSymbol_iff,
      known.hasSymbol_iff, other.holds.hasSymbol_iff, List.mem_append]
  · refine ((known.merge other.holds).alike_iff (other.holds.merge known)).2 fun pair => ?_
    rw [List.mem_append, List.mem_append, or_comm]
  · refine (((known.merge other.holds).merge third.holds).alike_iff
      (known.merge (other.holds.merge third.holds))).2 fun pair => ?_
    rw [List.append_assoc]
  · refine ((known.merge known).alike_iff known).2 fun pair => ?_
    rw [List.mem_append, or_self]
  · exact congrArg Imports.modules known.eq_ofPairs
  · conv_lhs => rw [known.eq_ofPairs]
    exact Imports.owner?_ofPairs symbol

/-- Merged the other way round, a symbol of two modules may belong to the other one. -/
example :
    (merge (add start "java.util" "List") (add start "org.acme" "List")).imports.owner? "List" =
      some "java.util" ∧
    (merge (add start "org.acme" "List") (add start "java.util" "List")).imports.owner? "List" =
      some "org.acme" := by
  decide

end Collection

end EntityGen.Layout
