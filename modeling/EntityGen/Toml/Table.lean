/-
  Toml/Table.lean --- building tables.

  Source: TOML 1.1, tables, arrays of tables, inline tables and dotted keys.

  Where a key or a header leads, and what it may define there. A path creates the tables it
  passes through when they are missing, goes on in the last table of an array of tables, and
  never opens a table between braces again. A dotted key does not reach into a table that
  has a header, and a header does not define a table that is already defined.
-/
import EntityGen.Toml.Node
import EntityGen.Toml.Reader

set_option autoImplicit false

namespace EntityGen.Toml

open EntityGen.Text (Span)

/-- One step of a key, with its place in the source. -/
structure Key where
  /-- The text of the key, without quotes and escapes. -/
  name : String
  /-- Where the key stands. -/
  span : Span
  deriving DecidableEq, Repr, Inhabited

/-- A table that is being filled. -/
structure OpenTable where
  /-- How it came about. -/
  origin : TableOrigin
  /-- What it holds so far. -/
  entries : Entries
  deriving Repr, Inhabited

/-- A step of filling a table. -/
abbrev Change : Type := OpenTable → Except SyntaxFault OpenTable

/-- Makes a change to the last of several tables. -/
def changeLast (key : Key) (change : Change) : List Node → Except SyntaxFault (List Node)
  | [] => .error (.notATable key.span.offset)
  | [.table span origin entries] => do
    let changed ← change ⟨origin, entries⟩
    return [.table span changed.origin changed.entries]
  | [_] => .error (.notATable key.span.offset)
  | first :: rest => do
    return first :: (← changeLast key change rest)

/-- Makes a change to the table that one key leads to. -/
def OpenTable.changeUnder (dotted : Bool) (key : Key) (change : Change) : Change := fun table => do
  match table.entries.find? key.name with
  | none =>
    let changed ← change ⟨if dotted then .dotted else .implied, []⟩
    return { table with
      entries := table.entries.put key.name (.table key.span changed.origin changed.entries) }
  | some (.table span origin entries) =>
    if origin = .inline then throw (.notATable key.span.offset)
    else if dotted && origin == .header then throw (.duplicateKey key.span.offset)
    else
      let changed ← change ⟨origin, entries⟩
      return { table with
        entries := table.entries.put key.name (.table span changed.origin changed.entries) }
  | some (.tables span elements) =>
    let changed ← changeLast key change elements
    return { table with entries := table.entries.put key.name (.tables span changed) }
  | some _ => throw (.notATable key.span.offset)

/-- Makes a change to the table that a path of keys leads to. -/
def OpenTable.changeAt (dotted : Bool) : List Key → Change → Change
  | [], change => change
  | key :: path, change => OpenTable.changeUnder dotted key (OpenTable.changeAt dotted path change)

/-- Gives a new key of the table a value. A table that came about through dotted keys takes dotted
keys only, and every other table no last step of a dotted key. -/
def OpenTable.define (dotted : Bool) (key : Key) (value : Node) : Change := fun table =>
  if (table.origin == .dotted) != dotted || (table.entries.find? key.name).isSome then
    .error (.duplicateKey key.span.offset)
  else .ok { table with entries := table.entries.put key.name value }

/-- Gives the value at the end of a dotted key. -/
def OpenTable.assign (path : List Key) (key : Key) (value : Node) : Change :=
  OpenTable.changeAt true path (OpenTable.define (!path.isEmpty) key value)

/-- Opens the table of a header. A table that other headers passed through is opened with what it
holds. -/
def OpenTable.openTable (key : Key) (header : Span) : Change := fun table =>
  match table.entries.find? key.name with
  | none => .ok { table with entries := table.entries.put key.name (.table header .header []) }
  | some (.table _ .implied entries) =>
    .ok { table with entries := table.entries.put key.name (.table header .header entries) }
  | some _ => .error (.duplicateKey key.span.offset)

/-- Opens one more table of an array of tables. -/
def OpenTable.openElement (key : Key) (header : Span) : Change := fun table =>
  let element := Node.table header .header []
  match table.entries.find? key.name with
  | none => .ok { table with entries := table.entries.put key.name (.tables header [element]) }
  | some (.tables span elements) =>
    .ok { table with
      entries := table.entries.put key.name (.tables span (elements ++ [element])) }
  | some _ => .error (.duplicateKey key.span.offset)

end EntityGen.Toml
