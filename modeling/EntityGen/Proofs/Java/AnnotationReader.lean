/-
  Proofs/Java/AnnotationReader.lean --- a reader of annotations.

  Source: the syntax of annotations and of string literals in Java, as far as tags use it.
  The reader knows nothing of the writer in `Java/Annotation.lean`.

  A text is cut into words, string literals and marks, and an annotation is read from these
  by recursive descent. The scanner gives the same tokens for texts that are put together as
  for their parts, as long as no two words meet. Literals may contain anything; the reader
  never looks into them.

  Octal and Unicode escapes are refused, and so are line ends in a literal, which end it in
  Java.
-/
import EntityGen.Java.Annotation
import EntityGen.Java.Identifier
import Mathlib.Data.List.Basic

set_option autoImplicit false

namespace EntityGen.Java

open EntityGen.Blueprint (Tag TagKind TagValue)

/-! ## Tokens -/

/-- What an annotation is made of. -/
inductive Token where
  /-- a name, a number or a constant -/
  | word (text : String)
  /-- what a string literal stands for -/
  | text (text : String)
  /-- any other character that is not white space -/
  | mark (c : Char)
  deriving DecidableEq, Repr, Inhabited

/-- The character stands in names and numbers. Dotted names are one word. -/
def isWordChar (c : Char) : Bool :=
  isIdentifierPart c || c == '.'

/-- The character is white space. -/
def isSpace (c : Char) : Bool :=
  c == ' ' || c == '\t' || c == '\n' || c == '\x0c' || c == '\r'

/-- The characters after a backslash and what they stand for. -/
def escapes : List (Char × Char) :=
  [('b', '\x08'), ('s', ' '), ('t', '\t'), ('n', '\n'), ('f', '\x0c'), ('r', '\r'), ('"', '"'),
    ('\x27', '\x27'), ('\\', '\\')]

/-- Where the scanner stands. -/
inductive Mode where
  /-- between tokens -/
  | idle
  /-- in a word of which these characters have been seen -/
  | word (seen : List Char)
  /-- in a literal -/
  | text (seen : List Char)
  /-- after a backslash in a literal -/
  | escape (seen : List Char)
  deriving DecidableEq, Repr, Inhabited

/-- A character between tokens. -/
def idleStep (c : Char) : List Token × Mode :=
  if isWordChar c then ([], .word [c])
  else if c = '"' then ([], .text [])
  else if isSpace c then ([], .idle)
  else ([.mark c], .idle)

/-- The tokens that end at a character, and where the scanner stands after it. -/
def Mode.step : Mode → Char → Option (List Token × Mode)
  | .idle, c => some (idleStep c)
  | .word seen, c =>
    if isWordChar c then some ([], .word (seen ++ [c]))
    else some (.word (String.ofList seen) :: (idleStep c).1, (idleStep c).2)
  | .text seen, c =>
    if c = '"' then some ([.text (String.ofList seen)], .idle)
    else if c = '\\' then some ([], .escape seen)
    else if c = '\n' ∨ c = '\r' then none
    else some ([], .text (seen ++ [c]))
  | .escape seen, c => (escapes.lookup c).map fun value => ([], .text (seen ++ [value]))

/-- The tokens that end with the text. -/
def Mode.finish : Mode → Option (List Token)
  | .idle => some []
  | .word seen => some [.word (String.ofList seen)]
  | .text _ | .escape _ => none

/-- The tokens of a text from some point on. -/
def scanFrom (mode : Mode) : List Char → Option (List Token)
  | [] => mode.finish
  | c :: rest => do
    let (tokens, next) ← mode.step c
    return tokens ++ (← scanFrom next rest)

/-- The tokens of a text. -/
def scan (text : String) : Option (List Token) :=
  scanFrom .idle text.toList

/-! ## The reader -/

/-- The kind of tag behind an annotation type. -/
def kindOf? (name : String) : Option TagKind :=
  TagKind.all.find? fun kind => annotationType kind == name

/-- The digits are a decimal numeral. -/
def isNumeral (digits : List Char) : Bool :=
  digits.all Char.isDigit && (digits.length == 1 || digits.head? != some '0')

/-- The texts of a list, up to its closing brace. -/
def readTexts : List Token → Option (List String × List Token)
  | .text first :: .mark '\x7d' :: rest => some ([first], rest)
  | .text first :: .mark ',' :: rest => do
    let (others, rest) ← readTexts rest
    return (first :: others, rest)
  | _ => none

section Reader

-- The dotted name of the type that a name denotes where the annotation stands.
variable (denotes : String → String)

/-- The value that a word is: a truth value, a number, or a constant of the type that goes with the
kind of tag. -/
def wordValue? (kind : TagKind) (word : String) : Option TagValue :=
  if word = "true" then some (.flag true)
  else if word = "false" then some (.flag false)
  else if isNumeral word.toList then some (.number (Nat.ofDigitChars 10 word.toList 0))
  else if constantType? kind = some (denotes (Naming.namespaceOf word)) then
    some (.constant (Naming.simpleNameOf word))
  else none

mutual

/-- An annotation. Each call takes one off the budget. -/
def readTag : Nat → List Token → Option (Tag × List Token)
  | budget + 1, .mark '@' :: .word name :: .mark '(' :: rest => do
    let kind ← kindOf? (denotes name)
    let (attributes, rest) ← readElements budget kind rest
    return (.mk kind attributes, rest)
  | _ + 1, .mark '@' :: .word name :: rest => do
    let kind ← kindOf? (denotes name)
    return (.mk kind [], rest)
  | _, _ => none

/-- What stands between parentheses: nothing, values with names, or a sole value without one. -/
def readElements : Nat → TagKind → List Token →
    Option (List (String × TagValue) × List Token)
  | _ + 1, _, .mark ')' :: rest => some ([], rest)
  | budget + 1, kind, .word name :: .mark '=' :: rest =>
    readNamed budget kind (.word name :: .mark '=' :: rest)
  | budget + 1, kind, tokens => do
    match ← readValue budget kind tokens with
    | (value, .mark ')' :: rest) => return ([(Blueprint.valueAttribute, value)], rest)
    | _ => none
  | 0, _, _ => none

/-- Values with names, up to the closing parenthesis. -/
def readNamed : Nat → TagKind → List Token → Option (List (String × TagValue) × List Token)
  | budget + 1, kind, .word name :: .mark '=' :: tokens =>
    if isIdentifier name then do
      match ← readValue budget kind tokens with
      | (value, .mark ')' :: rest) => return ([(name, value)], rest)
      | (value, .mark ',' :: more) =>
        let (others, rest) ← readNamed budget kind more
        return ((name, value) :: others, rest)
      | _ => none
    else none
  | _, _, _ => none

/-- A value. -/
def readValue : Nat → TagKind → List Token → Option (TagValue × List Token)
  | _ + 1, _, .text text :: rest => some (.text text, rest)
  | _ + 1, kind, .word word :: rest => do
    let value ← wordValue? denotes kind word
    return (value, rest)
  | _ + 1, _, .mark '\x7b' :: .mark '\x7d' :: rest => some (.texts [], rest)
  | budget + 1, _, .mark '\x7b' :: .mark '@' :: tokens => do
    let (nested, rest) ← readTags budget (.mark '@' :: tokens)
    return (.tags nested, rest)
  | _ + 1, _, .mark '\x7b' :: tokens => do
    let (items, rest) ← readTexts tokens
    return (.texts items, rest)
  | _, _, _ => none

/-- The annotations of a list, up to its closing brace. -/
def readTags : Nat → List Token → Option (List Tag × List Token)
  | budget + 1, tokens => do
    match ← readTag budget tokens with
    | (tag, .mark '\x7d' :: rest) => return ([tag], rest)
    | (tag, .mark ',' :: more) =>
      let (others, rest) ← readTags budget more
      return (tag :: others, rest)
    | _ => none
  | 0, _ => none

end

/-- The tag of which a text is the annotation. -/
def readBack (text : String) : Option Tag := do
  let tokens ← scan text
  match ← readTag denotes (2 * tokens.length) tokens with
  | (tag, []) => return tag
  | _ => none

end Reader

/-! ## Scanning -/

section Scanning

variable {first second : String} {tokens more : List Token}

/-- The text begins with no word. -/
def StartsPlain (text : String) : Prop :=
  ∀ c ∈ text.toList.head?, isWordChar c = false

/-- The text ends with no word. -/
def EndsPlain (text : String) : Prop :=
  ∀ c ∈ text.toList.getLast?, isWordChar c = false

-- There are finitely many characters, and trying all of them would decide the bounded statements
-- as well, but takes far too long.
instance (text : String) : Decidable (StartsPlain text) :=
  decidable_of_iff (text.toList.head?.all fun c => !isWordChar c) (by
    cases h : text.toList.head? <;> simp [StartsPlain, h])

instance (text : String) : Decidable (EndsPlain text) :=
  decidable_of_iff (text.toList.getLast?.all fun c => !isWordChar c) (by
    cases h : text.toList.getLast? <;> simp [EndsPlain, h])

/-- What is scanned from a character on is what ends there, and what is scanned from the next on. -/
theorem scanFrom_cons_iff {mode : Mode} {c : Char} {rest : List Char} :
    scanFrom mode (c :: rest) = some tokens ↔ ∃ early next others,
      mode.step c = some (early, next) ∧ scanFrom next rest = some others ∧
        tokens = early ++ others := by
  rw [scanFrom]
  constructor
  · intro scanned
    obtain ⟨⟨early, next⟩, stepped, walked⟩ := Option.bind_eq_some_iff.1 scanned
    obtain ⟨others, later, same⟩ := Option.bind_eq_some_iff.1 walked
    exact ⟨early, next, others, stepped, later, (Option.some.inj same).symm⟩
  · rintro ⟨early, next, others, stepped, later, rfl⟩
    simp [stepped, later]

theorem idleStep_ne_word {c : Char} (plain : isWordChar c = false) (seen : List Char) :
    (idleStep c).2 ≠ .word seen := by
  unfold idleStep
  rw [if_neg (by simp [plain])]
  split
  · simp
  · split <;> simp

/-- A step over any other character leads out of a word. -/
theorem Mode.step_ne_word {mode next : Mode} {c : Char} (plain : isWordChar c = false)
    (stepped : mode.step c = some (tokens, next)) (seen : List Char) : next ≠ .word seen := by
  cases mode with
  | idle =>
    have same : (idleStep c).2 = next := congrArg Prod.snd (Option.some.inj stepped)
    rw [← same]
    exact idleStep_ne_word plain seen
  | word earlier =>
    rw [Mode.step, if_neg (by simp [plain])] at stepped
    have same : (idleStep c).2 = next := congrArg Prod.snd (Option.some.inj stepped)
    rw [← same]
    exact idleStep_ne_word plain seen
  | text earlier =>
    rintro rfl
    simp only [Mode.step] at stepped
    repeat' split at stepped
    all_goals simp at stepped
  | escape earlier =>
    obtain ⟨value, -, same⟩ := Option.map_eq_some_iff.1 stepped
    cases same
    exact Mode.noConfusion

/-- The scanner stands between tokens, or in a word that may not go on. -/
theorem scanFrom_append_nil {mode : Mode} {after : List Char}
    (apart : (∀ c ∈ after.head?, isWordChar c = false) ∨ ∀ seen, mode ≠ .word seen)
    (finished : mode.finish = some tokens) (later : scanFrom .idle after = some more) :
    scanFrom mode after = some (tokens ++ more) := by
  cases mode with
  | idle =>
    cases finished
    exact later
  | word seen =>
    cases finished
    cases after with
    | nil =>
      cases later
      rfl
    | cons c rest =>
      have plain : isWordChar c = false := by
        rcases apart with start | idle
        · exact start c rfl
        · exact absurd rfl (idle seen)
      obtain ⟨early, next, others, stepped, scanned, rfl⟩ := scanFrom_cons_iff.1 later
      have step : idleStep c = (early, next) := Option.some.inj stepped
      refine scanFrom_cons_iff.2
        ⟨.word (String.ofList seen) :: early, next, others, ?_, scanned, rfl⟩
      rw [Mode.step, if_neg (by simp [plain]), step]
  | text seen => cases finished
  | escape seen => cases finished

/-- Behind a text whose last word is finished, or before one that begins with no word, the scanner
gives the tokens of both. -/
theorem scanFrom_append {mode : Mode} {before after : List Char}
    (apart : (∀ c ∈ after.head?, isWordChar c = false) ∨
      (∀ c ∈ before.getLast?, isWordChar c = false) ∧ (before = [] → ∀ seen, mode ≠ .word seen))
    (scanned : scanFrom mode before = some tokens) (later : scanFrom .idle after = some more) :
    scanFrom mode (before ++ after) = some (tokens ++ more) := by
  induction before generalizing mode tokens with
  | nil => exact scanFrom_append_nil (apart.imp_right fun both => both.2 rfl) scanned later
  | cons c rest ih =>
    obtain ⟨early, next, others, stepped, walked, rfl⟩ := scanFrom_cons_iff.1 scanned
    have apart' : (∀ c ∈ after.head?, isWordChar c = false) ∨
        (∀ c ∈ rest.getLast?, isWordChar c = false) ∧
          (rest = [] → ∀ seen, next ≠ .word seen) := by
      rcases apart with start | ⟨plain, -⟩
      · exact Or.inl start
      · refine Or.inr ⟨fun last mem => plain last ?_, ?_⟩
        · cases rest with
          | nil => cases mem
          | cons d others => rwa [List.getLast?_cons_cons]
        · rintro rfl
          exact Mode.step_ne_word (plain c rfl) stepped
    rw [List.append_assoc]
    exact scanFrom_cons_iff.2 ⟨early, next, others ++ more, stepped, ih apart' walked, rfl⟩

theorem scan_append (apart : EndsPlain first ∨ StartsPlain second)
    (scanned : scan first = some tokens) (later : scan second = some more) :
    scan (first ++ second) = some (tokens ++ more) := by
  rw [scan, String.toList_append]
  refine scanFrom_append ?_ scanned later
  rcases apart with plain | start
  · exact Or.inr ⟨plain, fun _ seen => Mode.noConfusion⟩
  · exact Or.inl start

/-! ### Separators -/

theorem EndsPlain.append {tail : String} (plain : EndsPlain tail) (nonempty : tail ≠ "")
    (text : String) : EndsPlain (text ++ tail) := by
  have chars : tail.toList ≠ [] := fun empty => nonempty (String.toList_eq_nil_iff.1 empty)
  unfold EndsPlain
  rw [String.toList_append, List.getLast?_append_of_ne_nil _ chars]
  exact plain

/-- The text has these tokens and keeps words on both of its sides apart. -/
structure IsSeparator (text : String) (tokens : List Token) : Prop where
  scanned : scan text = some tokens
  begins : StartsPlain text
  ends : EndsPlain text
  nonempty : text ≠ ""

instance (text : String) (tokens : List Token) : Decidable (IsSeparator text tokens) :=
  decidable_of_iff (scan text = some tokens ∧ StartsPlain text ∧ EndsPlain text ∧ text ≠ "")
    ⟨fun all => ⟨all.1, all.2.1, all.2.2.1, all.2.2.2⟩,
      fun separator => ⟨separator.1, separator.2, separator.3, separator.4⟩⟩

namespace IsSeparator

variable {text : String} {marks : List Token}

theorem endsPlain (separator : IsSeparator text marks) (first : String) :
    EndsPlain (first ++ text) :=
  separator.ends.append separator.nonempty first

theorem startsPlain (separator : IsSeparator text marks) (second : String) :
    StartsPlain (text ++ second) := by
  have chars : text.toList ≠ [] := fun empty =>
    separator.nonempty (String.toList_eq_nil_iff.1 empty)
  unfold StartsPlain
  rw [String.toList_append, List.head?_append_of_ne_nil _ chars]
  exact separator.begins

theorem before (separator : IsSeparator text marks) (later : scan second = some more) :
    scan (text ++ second) = some (marks ++ more) :=
  scan_append (Or.inl separator.ends) separator.scanned later

theorem behind (separator : IsSeparator text marks) (scanned : scan first = some tokens) :
    scan (first ++ text) = some (tokens ++ marks) :=
  scan_append (Or.inr separator.begins) scanned separator.scanned

theorem between (separator : IsSeparator text marks) (scanned : scan first = some tokens)
    (later : scan second = some more) :
    scan (first ++ text ++ second) = some (tokens ++ marks ++ more) :=
  scan_append (Or.inl (separator.endsPlain first)) (separator.behind scanned) later

end IsSeparator

theorem isSeparator_newline : IsSeparator "\n" [] := by decide

theorem isSeparator_indent : IsSeparator "    " [] := by decide

theorem isSeparator_comma : IsSeparator "," [.mark ','] := by decide

theorem isSeparator_commaBlank : IsSeparator ", " [.mark ','] := by decide

/-! ### Words and literals -/

/-- A text of word characters is one word. -/
def IsWord (text : String) : Prop :=
  text.toList ≠ [] ∧ text.toList.all isWordChar = true

instance (text : String) : Decidable (IsWord text) :=
  inferInstanceAs (Decidable (_ ∧ _))

theorem scanFrom_word (seen : List Char) {cs : List Char} (all : cs.all isWordChar = true) :
    scanFrom (.word seen) cs = some [.word (String.ofList (seen ++ cs))] := by
  induction cs generalizing seen with
  | nil =>
    rw [List.append_nil]
    rfl
  | cons c rest ih =>
    rw [List.all_cons, Bool.and_eq_true_iff] at all
    have others := ih (seen ++ [c]) all.2
    rw [List.append_assoc, List.singleton_append] at others
    exact scanFrom_cons_iff.2 ⟨[], _, _, if_pos all.1, others, rfl⟩

theorem scan_word {text : String} (word : IsWord text) : scan text = some [.word text] := by
  obtain ⟨nonempty, all⟩ := word
  unfold scan
  cases chars : text.toList with
  | nil => exact absurd chars nonempty
  | cons c rest =>
    rw [chars, List.all_cons, Bool.and_eq_true_iff] at all
    have others := scanFrom_word [c] all.2
    rw [List.singleton_append, ← chars, String.ofList_toList] at others
    refine scanFrom_cons_iff.2 ⟨[], _, _, ?_, others, rfl⟩
    rw [Mode.step, idleStep, if_pos all.1]

/-- What a literal has for a character, the scanner takes for that character. -/
theorem scanFrom_literalChar (seen : List Char) (c : Char) (rest : List Char) :
    scanFrom (.text seen) (literalChar c ++ rest) = scanFrom (.text (seen ++ [c])) rest := by
  unfold literalChar
  split_ifs with quote backslash newline carriage tab
  all_goals simp_all [scanFrom, Mode.step, escapes, List.lookup_cons]

/-- Whatever the text, its literal is one token: no character of it ends the literal. -/
theorem scanFrom_literal (seen text : List Char) :
    scanFrom (.text seen) (text.flatMap literalChar ++ ['"']) =
      some [.text (String.ofList (seen ++ text))] := by
  induction text generalizing seen with
  | nil => simp [scanFrom, Mode.step, Mode.finish]
  | cons c rest ih =>
    rw [List.flatMap_cons, List.append_assoc, scanFrom_literalChar, ih, List.append_assoc,
      List.singleton_append]

theorem scan_stringLiteral (text : String) : scan (stringLiteral text) = some [.text text] := by
  have body := scanFrom_literal [] text.toList
  rw [List.nil_append, String.ofList_toList] at body
  rw [scan, stringLiteral, String.toList_ofList, literalChars, List.cons_append]
  exact scanFrom_cons_iff.2 ⟨[], _, _, by decide, body, rfl⟩

example : scan "@Table(name = \"a\\\", b\")" =
    some [.mark '@', .word "Table", .mark '(', .word "name", .mark '=', .text "a\", b",
      .mark ')'] := by
  decide

/-! ### Lines -/

/-- The tokens of lines one after the other. -/
def scanLines : List String → Option (List Token)
  | [] => some []
  | line :: rest => do return (← scan line) ++ (← scanLines rest)

theorem scanLines_cons_iff {line : String} {rest : List String} :
    scanLines (line :: rest) = some tokens ↔ ∃ here others,
      scan line = some here ∧ scanLines rest = some others ∧ tokens = here ++ others := by
  rw [scanLines]
  constructor
  · intro scanned
    obtain ⟨here, first, walked⟩ := Option.bind_eq_some_iff.1 scanned
    obtain ⟨others, later, same⟩ := Option.bind_eq_some_iff.1 walked
    exact ⟨here, others, first, later, (Option.some.inj same).symm⟩
  · rintro ⟨here, others, first, later, rfl⟩
    simp [first, later]

theorem scanLines_singleton (line : String) : scanLines [line] = scan line := by
  cases scanned : scan line with
  | none => simp [scanLines, scanned]
  | some tokens => simp [scanLines, scanned]

theorem scanLines_append_iff {lines others : List String} :
    scanLines (lines ++ others) = some tokens ↔ ∃ here behind,
      scanLines lines = some here ∧ scanLines others = some behind ∧ tokens = here ++ behind := by
  induction lines generalizing tokens with
  | nil => simp [scanLines]
  | cons line rest ih =>
    rw [List.cons_append, scanLines_cons_iff]
    constructor
    · rintro ⟨first, later, scanned, walked, rfl⟩
      obtain ⟨here, behind, inside, outside, rfl⟩ := ih.1 walked
      refine ⟨first ++ here, behind, ?_, outside, (List.append_assoc _ _ _).symm⟩
      exact scanLines_cons_iff.2 ⟨first, here, scanned, inside, rfl⟩
    · rintro ⟨here, behind, walked, outside, rfl⟩
      obtain ⟨first, inside, scanned, within, rfl⟩ := scanLines_cons_iff.1 walked
      refine ⟨first, inside ++ behind, scanned, ?_, List.append_assoc _ _ _⟩
      exact ih.2 ⟨inside, behind, within, outside, rfl⟩

theorem scanLines_append {lines others : List String} (scanned : scanLines lines = some tokens)
    (later : scanLines others = some more) : scanLines (lines ++ others) = some (tokens ++ more) :=
  scanLines_append_iff.2 ⟨tokens, more, scanned, later, rfl⟩

/-- Line ends separate tokens. -/
theorem scan_join {lines : List String} (scanned : scanLines lines = some tokens) :
    scan (Text.join "\n" lines) = some tokens := by
  induction lines generalizing tokens with
  | nil => exact scanned
  | cons line rest ih =>
    cases rest with
    | nil => rwa [scanLines_singleton] at scanned
    | cons next others =>
      obtain ⟨here, behind, first, walked, rfl⟩ := scanLines_cons_iff.1 scanned
      have whole := isSeparator_newline.between first (ih walked)
      rwa [List.append_nil] at whole

/-- Blanks before a line are nothing. -/
theorem scanLines_indentLines {lines : List String} (scanned : scanLines lines = some tokens) :
    scanLines (indentLines lines) = some tokens := by
  induction lines generalizing tokens with
  | nil => exact scanned
  | cons line rest ih =>
    obtain ⟨here, behind, first, walked, rfl⟩ := scanLines_cons_iff.1 scanned
    have indented : scan ("    " ++ line) = some here := isSeparator_indent.before first
    exact scanLines_cons_iff.2 ⟨here, behind, indented, ih walked, rfl⟩

theorem scanLines_withComma {lines : List String} (nonempty : lines ≠ [])
    (scanned : scanLines lines = some tokens) :
    scanLines (withComma lines) = some (tokens ++ [.mark ',']) := by
  induction lines generalizing tokens with
  | nil => exact absurd rfl nonempty
  | cons line rest ih =>
    cases rest with
    | nil =>
      rw [scanLines_singleton] at scanned
      rw [withComma, scanLines_singleton]
      exact isSeparator_comma.behind scanned
    | cons next others =>
      obtain ⟨here, behind, first, walked, rfl⟩ := scanLines_cons_iff.1 scanned
      rw [withComma, List.append_assoc]
      · exact scanLines_cons_iff.2 ⟨here, _, first, ih (List.cons_ne_nil _ _) walked, rfl⟩
      · exact List.cons_ne_nil _ _

end Scanning

end EntityGen.Java
