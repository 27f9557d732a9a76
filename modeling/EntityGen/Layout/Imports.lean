/-
  Layout/Imports.lean --- imported symbols.

  Source: the specification, section 2 (import resolution) and section 8 (the output is the
  same on every run).

  The symbols that a file imports, module by module in the order in which modules were first
  met.

  The symbols of a module are kept ascending, so that it does not matter in which order they
  were met.
-/
import EntityGen.Text.Ascending

set_option autoImplicit false

namespace EntityGen.Layout

/-- The symbols of one module, ascending and without repetition. -/
structure ModuleImports where
  /-- The name of the module. -/
  module : String
  symbols : List String
  deriving DecidableEq, Repr, Inhabited

/-- The symbols with one more, which is put in its place. -/
def insertSorted (symbol : String) : List String → List String
  | [] => [symbol]
  | first :: rest =>
    if symbol = first then first :: rest
    else if symbol < first then symbol :: first :: rest
    else first :: insertSorted symbol rest

theorem mem_insertSorted {symbol other : String} {symbols : List String} :
    other ∈ insertSorted symbol symbols ↔ other = symbol ∨ other ∈ symbols := by
  induction symbols with
  | nil => simp [insertSorted]
  | cons first rest ih =>
    unfold insertSorted
    split
    case isTrue same => simp [same]
    case isFalse =>
      split
      case isTrue => simp
      case isFalse => simp [ih, or_left_comm]

/-- The imported symbols of a file. -/
structure Imports where
  /-- The modules, first met first. -/
  modules : List ModuleImports
  deriving DecidableEq, Repr, Inhabited

namespace Imports

/-- No imports. -/
def empty : Imports :=
  ⟨[]⟩

/-- Symbols added to a module among others; a module that is missing comes last. -/
def addTo (module : String) (symbols : List String) : List ModuleImports → List ModuleImports
  | [] => [⟨module, symbols.foldl (fun all symbol => insertSorted symbol all) []⟩]
  | first :: rest =>
    if first.module = module then
      ⟨module, symbols.foldl (fun all symbol => insertSorted symbol all) first.symbols⟩ :: rest
    else first :: addTo module symbols rest

/-- The imports with one more symbol. -/
def add (imports : Imports) (module symbol : String) : Imports :=
  ⟨addTo module [symbol] imports.modules⟩

/-- The imports of two files together. -/
def merge (imports other : Imports) : Imports :=
  ⟨other.modules.foldl (fun modules entry => addTo entry.module entry.symbols modules)
    imports.modules⟩

/-- The symbols of a module, if it was met. -/
def symbols? (imports : Imports) (module : String) : Option (List String) :=
  (imports.modules.find? fun entry => entry.module == module).map ModuleImports.symbols

/-- The module was met. -/
def hasModule (imports : Imports) (module : String) : Bool :=
  (imports.symbols? module).isSome

/-- The symbol is imported from the module. -/
def hasSymbol (imports : Imports) (module symbol : String) : Bool :=
  (imports.symbols? module).any (·.contains symbol)

/-- The first module that the symbol is imported from. -/
def owner? (imports : Imports) (symbol : String) : Option String :=
  (imports.modules.find? fun entry => entry.symbols.contains symbol).map ModuleImports.module

/-- Every imported symbol behind its module and a separator, ascending. -/
def qualified (imports : Imports) (separator : String) : List String :=
  Text.ascendingBy id <| imports.modules.flatMap fun entry =>
    entry.symbols.map fun symbol => entry.module ++ separator ++ symbol

/-- The number of modules. -/
def size (imports : Imports) : Nat :=
  imports.modules.length

/-- There are no imports. -/
def isEmpty (imports : Imports) : Bool :=
  imports.modules.isEmpty

end Imports

end EntityGen.Layout
