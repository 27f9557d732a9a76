/-
  Toml/Quoted.lean --- strings.

  Source: TOML 1.1, basic and literal strings.

  The four forms of a TOML string: basic and literal, on one line and over several. Escapes
  are known to the basic forms only. A line feed right after the opening quotes of a form
  over several lines is no part of the text, and up to two quotes may stand before its
  closing ones.
-/
import EntityGen.Text.Digits
import EntityGen.Toml.Reader

set_option autoImplicit false

namespace EntityGen.Toml

open Reader

/-- The code point is one of a character: neither a surrogate nor beyond the last plane. -/
def isCharacter (n : Nat) : Bool :=
  n < 0xD800 || (0xDFFF < n && n ≤ 0x10FFFF)

/-- The character that exactly `count` hexadecimal digits name. -/
def namedCharacter (count : Nat) : Reader Char := do
  let digits := (← get).rest.take count
  match Text.number? 16 digits with
  | some n =>
    if digits.length == count && isCharacter n then
      expect digits
      return Char.ofNat n
    else fail .badEscape
  | none => fail .badEscape

/-- What a backslash and the character after it stand for. -/
def escaped : Reader Char := do
  match ← takeIf (fun _ => true) with
  | some 'b' => return '\x08'
  | some 't' => return '\t'
  | some 'n' => return '\n'
  | some 'f' => return '\x0c'
  | some 'r' => return '\r'
  | some 'e' => return '\x1b'
  | some '"' => return '"'
  | some '\\' => return '\\'
  | some 'x' => namedCharacter 2
  | some 'u' => namedCharacter 4
  | some 'U' => namedCharacter 8
  | _ => fail .badEscape

/-- A backslash at the end of a line takes away the line end and all blanks and line ends after it.
-/
def joinedLine? : Reader Bool := do
  let before ← get
  blanks
  if ← lineEnd? then
    loop () fun _ => do
      blanks
      if ← lineEnd? then return .again () else return .done ()
    return true
  else
    set before
    return false

/-! ## Strings on one line -/

/-- The text of a basic string, after its opening quote. The characters read so far are in reverse
order. -/
def basicBody : Reader (List Char) :=
  loop [] fun read => do
    match ← takeIf isText with
    | none => fail .unexpected
    | some '"' => return .done read
    | some '\\' => return .again ((← escaped) :: read)
    | some c => return .again (c :: read)

/-- The text of a literal string, after its opening quote. -/
def literalBody : Reader (List Char) := do
  let text ← takeWhile fun c => isText c && c != '\''
  expect ['\'']
  return text.reverse

/-! ## Strings over several lines -/

/-- The closing quotes of a string over several lines with the quotes of the text right before them;
none if fewer than three quotes come next. -/
def closing? (quote : Char) : Reader (Option (List Char)) := do
  let count := ((← get).rest.takeWhile (· == quote)).length
  if count < 3 then return none
  else
    let taken := min count 5
    expect (List.replicate taken quote)
    return some (List.replicate (taken - 3) quote)

/-- A line end inside a string, as it is written. -/
def writtenLineEnd? : Reader (Option (List Char)) := do
  let written := if ← sees ['\n'] then ['\n'] else ['\r', '\n']
  if ← lineEnd? then return some written else return none

/-- The text of a string over several lines, after its opening quotes. -/
def linesBody (quote : Char) (escapes : Bool) : Reader (List Char) := do
  let _ ← lineEnd?
  loop [] fun read => do
    match ← closing? quote with
    | some quotes => return .done (quotes ++ read)
    | none =>
      match ← writtenLineEnd? with
      | some written => return .again (written.reverse ++ read)
      | none =>
        match ← takeIf isText with
        | none => fail .unexpected
        | some c =>
          if escapes && c == '\\' then
            if ← joinedLine? then return .again read
            else return .again ((← escaped) :: read)
          else return .again (c :: read)

/-! ## The opening quotes -/

/-- The character opens a string. -/
def isQuote (c : Char) : Bool :=
  c == '"' || c == '\''

/-- A string on one line. -/
def lineString : Reader String := do
  let body ←
    if ← sees ['"'] then do
      skip
      basicBody
    else do
      expect ['\'']
      literalBody
  return String.ofList body.reverse

/-- A string of any form. -/
def anyString : Reader String := do
  if ← sees ['"', '"', '"'] then
    expect ['"', '"', '"']
    return String.ofList (← linesBody '"' true).reverse
  else if ← sees ['\'', '\'', '\''] then
    expect ['\'', '\'', '\'']
    return String.ofList (← linesBody '\'' false).reverse
  else lineString

end EntityGen.Toml
