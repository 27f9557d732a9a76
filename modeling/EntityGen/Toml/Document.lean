/-
  Toml/Document.lean --- documents, keys and values.

  Source: TOML 1.1, the grammar of documents.

  Everything from keys and values up to a whole document. Values nest at most eighty deep,
  which is what bounds the recursion through arrays and inline tables; a dotted key has at
  most eighty steps. A byte order mark at the start is passed over and still counted in
  every offset.

  The reader takes the place of the library that the program reads its files with, and is
  there so that models can be read from texts at all. The rules for models are stated on
  what it yields, so that no theorem relies on its grammar; of a text that is no TOML it is
  only said that it is refused.
-/
import EntityGen.Toml.Quoted
import EntityGen.Toml.Table

set_option autoImplicit false

namespace EntityGen.Toml

open EntityGen.Text (Span)
open Reader

/-- The deepest nesting of arrays and inline tables. -/
def nestingLimit : Nat := 80

/-- The most steps of a dotted key. -/
def keyLimit : Nat := 80

/-- What a reader reads, with the span of its text. -/
def withSpan {α : Type} (reader : Reader α) : Reader (Span × α) := do
  let start ← offset
  let value ← reader
  return (Span.between start (← offset), value)

/-! ## Keys -/

/-- The character may stand in a key without quotes. -/
def isBareKey (c : Char) : Bool :=
  c.isAlphanum || c == '_' || c == '-'

/-- One step of a key. -/
def simpleKey : Reader Key := do
  let (span, name) ← withSpan do
    match ← peek with
    | some c =>
      if isQuote c then lineString
      else
        let name ← takeWhile isBareKey
        if name.isEmpty then fail .unexpected else return String.ofList name
    | none => fail .unexpected
  return ⟨name, span⟩

/-- A dotted key as the steps before the last one, and the last one. -/
def dottedKey : Reader (List Key × Key) := do
  let first ← simpleKey
  let (path, last) ← loop ([], first) fun (path, last) => do
    let before ← get
    blanks
    if ← sees ['.'] then
      skip
      blanks
      return .again (path ++ [last], ← simpleKey)
    else
      set before
      return .done (path, last)
  if path.length < keyLimit then return (path, last) else fail .tooDeep

/-- The equals sign between a key and its value, with what may stand on either side of it. -/
def equals (around : Reader Unit) : Reader Unit := do
  around
  expect ['=']
  around

/-! ## Values -/

/-- The character may stand in an unquoted value: it is no blank, ends no line and is no mark that
separates values. -/
def isScalarText (c : Char) : Bool :=
  c ∉ ['=', ',', '[', ']', '\x7b', '\x7d', ' ', '\t', '#', '\r', '\n']

/-- The text of an unquoted value. It goes on behind blanks if neither a quote nor a mark nor the end
of the line comes next. -/
def scalarText : Reader (List Char) := do
  let first ← takeWhile isScalarText
  loop first fun text => do
    let before ← get
    let between ← takeWhile isBlank
    let next ← peek
    if !between.isEmpty && next.any (fun c => isScalarText c && !isQuote c) then
      return .again (text ++ between ++ (← takeWhile isScalarText))
    else
      set before
      return .done text

/-- An unquoted value. -/
def scalarValue : Reader Scalar := do
  let before ← offset
  match scalar? (← scalarText) with
  | some value => return value
  | none => throw (.badScalar before)

/-- The elements of an array and its closing bracket, each element read by `element`. -/
def arrayBody (element : Reader Node) : Reader (List Node) := do
  let elements ← loop [] fun read => do
    gap
    if ← sees [']'] then return .done read
    else
      let value ← element
      gap
      if ← sees [','] then
        skip
        return .again (value :: read)
      else return .done (value :: read)
  expect [']']
  return elements.reverse

/-- The entries of an inline table and its closing brace, each value read by `element`. Lines may end
anywhere but within a key. -/
def inlineBody (element : Reader Node) : Reader Entries := do
  let table ← loop (OpenTable.mk .inline []) fun table => do
    gap
    if ← sees ['\x7d'] then return .done table
    else
      let (path, key) ← dottedKey
      equals gap
      let value ← element
      let table ← (OpenTable.assign path key value table : Except SyntaxFault OpenTable)
      gap
      if ← sees [','] then
        skip
        return .again table
      else return .done table
  expect ['\x7d']
  return table.entries

/-- A value whose elements, if it has any, are read by `element`; without a reader for them, arrays and
inline tables are nested too deeply. -/
def valueWith (element : Option (Reader Node)) : Reader Node := do
  let nested : Reader (Reader Node) := element.elim (fail .tooDeep) pure
  match ← peek with
  | none => fail .unexpected
  | some c =>
    if c == '[' then
      let element ← nested
      let (span, elements) ← withSpan (do skip; arrayBody element)
      return .array span elements
    else if c == '\x7b' then
      let element ← nested
      let (span, entries) ← withSpan (do skip; inlineBody element)
      return .table span .inline entries
    else if isQuote c then
      let (span, text) ← withSpan anyString
      return .string span text
    else
      let (span, scalar) ← withSpan scalarValue
      return .scalar span scalar

/-- A value in which arrays and inline tables nest at most `depth` deep. -/
def value : Nat → Reader Node
  | 0 => valueWith none
  | depth + 1 => valueWith (some (value depth))

/-! ## Documents -/

/-- A document that is being read: the root table, and the path to the table of the latest header.
-/
structure Draft where
  /-- What was read so far. -/
  root : OpenTable
  /-- Where the next keys belong. -/
  path : List Key
  deriving Repr, Inhabited

/-- A header between single or double brackets, with its span: the path, the last key, and whether
the brackets are double. -/
def header : Reader (Span × List Key × Key × Bool) :=
  withSpan do
    let double ← sees ['[', '[']
    expect (if double then ['[', '['] else ['['])
    blanks
    let (path, key) ← dottedKey
    blanks
    expect (if double then [']', ']'] else [']'])
    return (path, key, double)

/-- A header and the rest of its line. -/
def headerLine (draft : Draft) : Reader Draft := do
  let (span, path, key, double) ← header
  restOfLine
  let change := if double then OpenTable.openElement key span else OpenTable.openTable key span
  let root ← (draft.root.changeAt false path change : Except SyntaxFault OpenTable)
  return ⟨root, path ++ [key]⟩

/-- A key with its value and the rest of its line. -/
def entryLine (draft : Draft) : Reader Draft := do
  let (path, key) ← dottedKey
  equals blanks
  let value ← value nestingLimit
  restOfLine
  let root ← (draft.root.changeAt false draft.path (OpenTable.assign path key value) :
    Except SyntaxFault OpenTable)
  return { draft with root }

/-- The lines of a document. -/
def document : Reader Draft := do
  if ← sees ['\ufeff'] then skip
  loop ⟨⟨.header, []⟩, []⟩ fun draft => do
    blanks
    match ← peek with
    | none => return .done draft
    | some c =>
      if c == '[' then return .again (← headerLine draft)
      else if c == '\n' || c == '\r' || c == '#' then
        restOfLine
        return .again draft
      else return .again (← entryLine draft)

/-- The root table of a TOML text. -/
def parse (text : String) : Except SyntaxFault Entries := do
  let (draft, _) ← document.run ⟨0, text.toList⟩
  return draft.root.entries

end EntityGen.Toml
