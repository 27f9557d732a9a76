/-
  Toml/Node.lean --- values with their spans.

  Source: TOML 1.1, values and tables.

  A value with the span of the text that it was read from. The entries of a table stand in
  the order in which their keys were first met. A table remembers how it came about, because
  that decides what may still be added to it.
-/
import EntityGen.Text.Span
import EntityGen.Toml.Scalar

set_option autoImplicit false

namespace EntityGen.Toml

open EntityGen.Text (Span)

/-- How a table came about. -/
inductive TableOrigin where
  /-- under a header of its own, or as the root -/
  | header
  /-- as a step on the way to a header -/
  | implied
  /-- as a step of a dotted key -/
  | dotted
  /-- between braces -/
  | inline
  deriving DecidableEq, Repr, Inhabited

/-- A value and where it stands in the source. -/
inductive Node where
  | string (span : Span) (text : String)
  /-- a boolean, number, date or time -/
  | scalar (span : Span) (value : Scalar)
  /-- an array between brackets -/
  | array (span : Span) (elements : List Node)
  /-- the tables under headers with double brackets -/
  | tables (span : Span) (elements : List Node)
  | table (span : Span) (origin : TableOrigin) (entries : List (String × Node))
  deriving Repr, Inhabited

/-- Where the value stands in the source. A table under a header stands where its header does, the
tables of one name where their first header does, and a table that a key or a header passes through
where that key does. -/
def Node.span : Node → Span
  | .string span _ => span
  | .scalar span _ => span
  | .array span _ => span
  | .tables span _ => span
  | .table span _ _ => span

/-- The entries of a table. -/
abbrev Entries : Type := List (String × Node)

/-- The value of a key. -/
def Entries.find? (entries : Entries) (key : String) : Option Node :=
  entries.lookup key

/-- The entries with the value of one key replaced, or the key added at the end. -/
def Entries.put (entries : Entries) (key : String) (value : Node) : Entries :=
  match entries with
  | [] => [(key, value)]
  | (name, old) :: rest =>
    if name = key then (name, value) :: rest else (name, old) :: Entries.put rest key value

end EntityGen.Toml
