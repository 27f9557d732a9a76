/-
  Toml/Reader.lean --- the steps of the reader.

  Source: the grammar of TOML 1.1, for the kinds of steps that it asks for.

  The steps that every part of the reader is made of: looking at the characters ahead,
  passing over them, and giving up. A reader carries the characters that are left and the
  number of bytes before them. A loop runs at most once for each character that is left, so
  every reader ends.

  Syntax faults keep the place of the fault. Their words are not those of another reader,
  and nothing compares them.
-/
import EntityGen.Text.Search

set_option autoImplicit false

namespace EntityGen.Toml

open EntityGen.Text

/-- Why a text is not TOML. Every cause is met at a byte offset. -/
inductive SyntaxFault where
  /-- the grammar allows nothing that starts with the text at this offset -/
  | unexpected (offset : Nat)
  /-- an escape names no character -/
  | badEscape (offset : Nat)
  /-- an unquoted value is no boolean, number, date or time -/
  | badScalar (offset : Nat)
  /-- arrays and inline tables are nested too deeply, or a key has too many steps -/
  | tooDeep (offset : Nat)
  /-- a key or a table is defined a second time -/
  | duplicateKey (offset : Nat)
  /-- a key goes through a value that is not an open table -/
  | notATable (offset : Nat)
  deriving DecidableEq, Repr, Inhabited

/-- The fault in words. -/
def SyntaxFault.message : SyntaxFault → String
  | .unexpected offset => s!"unexpected text at byte {offset}"
  | .badEscape offset => s!"an escape at byte {offset} names no character"
  | .badScalar offset => s!"no boolean, number, date or time at byte {offset}"
  | .tooDeep offset => s!"a value or a key is nested too deeply at byte {offset}"
  | .duplicateKey offset => s!"a key is defined a second time at byte {offset}"
  | .notATable offset => s!"a key goes through a value that is no open table at byte {offset}"

/-- Where a reader stands in the text. -/
structure Cursor where
  /-- The bytes that were read. -/
  offset : Nat
  /-- The characters that are left. -/
  rest : List Char
  deriving Repr, Inhabited

/-- The cursor after the next character, which is `c`. -/
def Cursor.pass (cursor : Cursor) (c : Char) : Cursor :=
  ⟨cursor.offset + c.utf8Size, cursor.rest.tail⟩

/-- A reader of one part of a TOML text. -/
abbrev Reader (α : Type) : Type := StateT Cursor (Except SyntaxFault) α

namespace Reader

/-! ## Looking ahead -/

/-- The number of bytes that were read. -/
def offset : Reader Nat := do
  return (← get).offset

/-- The next character. -/
def peek : Reader (Option Char) := do
  return (← get).rest.head?

/-- The text goes on with these characters. -/
def sees (expected : List Char) : Reader Bool := do
  return expected.isPrefixOf (← get).rest

/-- Gives up where the reader stands. -/
def fail {α : Type} (fault : Nat → SyntaxFault) : Reader α := do
  throw (fault (← offset))

/-! ## Passing over characters -/

/-- Passes over the next character. -/
def skip : Reader Unit := do
  let cursor ← get
  match cursor.rest with
  | [] => fail .unexpected
  | c :: _ => set (cursor.pass c)

/-- Passes over these characters, which must come next. -/
def expect (expected : List Char) : Reader Unit := do
  let cursor ← get
  if expected.isPrefixOf cursor.rest then
    set (Cursor.mk (cursor.offset + byteLength expected) (cursor.rest.drop expected.length))
  else fail .unexpected

/-- The longest run of characters of a class. -/
def takeWhile (belongs : Char → Bool) : Reader (List Char) := do
  let cursor ← get
  let run := cursor.rest.takeWhile belongs
  set (Cursor.mk (cursor.offset + byteLength run) (cursor.rest.dropWhile belongs))
  return run

/-- The next character if it belongs to a class. -/
def takeIf (belongs : Char → Bool) : Reader (Option Char) := do
  match ← peek with
  | none => return none
  | some c =>
    if belongs c then
      skip
      return some c
    else return none

/-! ## Loops -/

/-- What a turn of a loop decides. -/
inductive Turn (σ : Type) where
  /-- another turn follows -/
  | again (state : σ)
  /-- the loop is over -/
  | done (state : σ)

/-- At most `turns` turns of a loop. -/
def repeatTurns {σ : Type} (turn : σ → Reader (Turn σ)) : Nat → σ → Reader σ
  | 0, _ => fail .unexpected
  | turns + 1, state => do
    match ← turn state with
    | .done state => return state
    | .again state => repeatTurns turn turns state

/-- A loop whose every turn but the last reads a character. -/
def loop {σ : Type} (start : σ) (turn : σ → Reader (Turn σ)) : Reader σ := do
  repeatTurns turn ((← get).rest.length + 1) start

/-! ## Blanks, comments and line ends -/

/-- A blank within a line. -/
def isBlank (c : Char) : Bool :=
  c == ' ' || c == '\t'

/-- A character that may stand in a comment or a string: a tab, or none of the ASCII controls. -/
def isText (c : Char) : Bool :=
  c == '\t' || (0x20 ≤ c.toNat && c.toNat != 0x7F)

/-- Passes over blanks. -/
def blanks : Reader Unit := do
  let _ ← takeWhile isBlank

/-- Passes over a line end, if one comes next. -/
def lineEnd? : Reader Bool := do
  if ← sees ['\n'] then
    expect ['\n']
    return true
  else if ← sees ['\r', '\n'] then
    expect ['\r', '\n']
    return true
  else return false

/-- Passes over a comment, if one comes next. -/
def comment? : Reader Bool := do
  if ← sees ['#'] then
    let _ ← takeWhile isText
    return true
  else return false

/-- Passes over what may follow an expression on its line, and over the line end. -/
def restOfLine : Reader Unit := do
  blanks
  let _ ← comment?
  if !(← lineEnd?) && (← peek).isSome then
    fail .unexpected

/-- Passes over blanks, comments and line ends. -/
def gap : Reader Unit :=
  loop () fun _ => do
    blanks
    if ← comment? then return .again ()
    else if ← lineEnd? then return .again ()
    else return .done ()

end Reader

end EntityGen.Toml
