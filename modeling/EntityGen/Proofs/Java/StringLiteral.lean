/-
  Proofs/Java/StringLiteral.lean --- what string literals denote.

  Source: the lexical rules of Java: Unicode escapes first, then the escapes of string
  literals.

  Java reads a string literal twice. A first pass looks for Unicode escapes anywhere in the
  source: a backslash with an even number of backslashes right before it and the letter u
  behind it. The literal of a text has none. In the second pass the literal ends at its
  first unescaped quote, which is its last character, and its escapes stand for the text.
-/
import EntityGen.Java.StringLiteral
import EntityGen.Proofs.Java.AnnotationReader
import Mathlib.Algebra.Group.Nat.Even
import Mathlib.Data.List.Induction

set_option autoImplicit false

namespace EntityGen.Java

/-! ## Escaping -/

/-- The number of backslashes right before a position. -/
def backslashesBefore (cs : List Char) (i : Nat) : Nat :=
  ((cs.take i).reverse.takeWhile (· == '\\')).length

/-- A quote stands at the position, and the backslashes before it do not escape it. -/
def IsUnescapedQuote (cs : List Char) (i : Nat) : Prop :=
  cs[i]? = some '"' ∧ Even (backslashesBefore cs i)

/-- The first pass takes what stands at the position for a Unicode escape. -/
def IsUnicodeEscape (cs : List Char) (i : Nat) : Prop :=
  cs[i]? = some '\\' ∧ cs[i + 1]? = some 'u' ∧ Even (backslashesBefore cs i)

/-- Whether the next character is escaped, after one more character. -/
def escapeStep (escaped : Bool) (c : Char) : Bool :=
  !escaped && c == '\\'

/-- The characters escape what stands behind them. -/
def escapesNext (cs : List Char) : Bool :=
  cs.foldl escapeStep false

/-- What stands behind an even number of backslashes is not escaped. -/
theorem even_backslashes_iff (cs : List Char) :
    Even (cs.reverse.takeWhile (· == '\\')).length ↔ escapesNext cs = false := by
  induction cs using List.reverseRecOn with
  | nil => simp [escapesNext]
  | append_singleton cs c ih =>
    have next : escapesNext (cs ++ [c]) = escapeStep (escapesNext cs) c := by
      rw [escapesNext, List.foldl_append]
      rfl
    rw [List.reverse_append, List.reverse_singleton, List.singleton_append, next]
    by_cases backslash : c = '\\'
    · subst backslash
      rw [List.takeWhile_cons_of_pos rfl, List.length_cons, Nat.even_add_one, ih]
      simp [escapeStep]
    · rw [List.takeWhile_cons_of_neg (by simpa using backslash)]
      simp [escapeStep, backslash]

theorem even_backslashesBefore_iff {cs : List Char} {i : Nat} :
    Even (backslashesBefore cs i) ↔ escapesNext (cs.take i) = false :=
  even_backslashes_iff (cs.take i)

theorem eq_take_append_of_getElem? {cs : List Char} {i : Nat} {c : Char}
    (here : cs[i]? = some c) : cs = cs.take i ++ c :: cs.drop (i + 1) := by
  obtain ⟨bound, rfl⟩ := List.getElem?_eq_some_iff.1 here
  rw [← List.drop_eq_getElem_cons bound, List.take_append_drop]

/-! ## The characters of a literal -/

/-- The letters that are written behind a backslash. -/
def writtenEscapes : List Char := ['"', '\\', 'n', 'r', 't']

/-- A character is written as itself, or as a backslash and a letter. -/
theorem literalChar_cases (c : Char) :
    literalChar c = [c] ∧ c ≠ '"' ∧ c ≠ '\\' ∧ c ≠ '\n' ∧ c ≠ '\r' ∨
      ∃ letter ∈ writtenEscapes, literalChar c = ['\\', letter] := by
  unfold literalChar
  split_ifs with quote backslash newline carriage tab
  · exact Or.inr ⟨'"', by simp [writtenEscapes], rfl⟩
  · exact Or.inr ⟨'\\', by simp [writtenEscapes], rfl⟩
  · exact Or.inr ⟨'n', by simp [writtenEscapes], rfl⟩
  · exact Or.inr ⟨'r', by simp [writtenEscapes], rfl⟩
  · exact Or.inr ⟨'t', by simp [writtenEscapes], rfl⟩
  · exact Or.inl ⟨rfl, quote, backslash, newline, carriage⟩

theorem not_mem_literalChar {mark : Char} (ending : mark = '\n' ∨ mark = '\r') (c : Char) :
    mark ∉ literalChar c := by
  rcases literalChar_cases c with ⟨same, -, -, newline, carriage⟩ | ⟨letter, mem, same⟩
  · rw [same, List.mem_singleton]
    rintro rfl
    exact ending.elim newline carriage
  · rw [same]
    simp only [writtenEscapes, List.mem_cons, List.not_mem_nil, or_false] at mem
    rcases ending with rfl | rfl <;> rcases mem with rfl | rfl | rfl | rfl | rfl <;> decide

/-- A character leaves what stands behind it unescaped. -/
theorem foldl_literalChar (c : Char) : (literalChar c).foldl escapeStep false = false := by
  rcases literalChar_cases c with ⟨same, -, backslash, -⟩ | ⟨letter, mem, same⟩
  · simp [same, escapeStep, backslash]
  · simp [same, escapeStep]

theorem escapesNext_flatMap (text : List Char) :
    escapesNext (text.flatMap literalChar) = false := by
  unfold escapesNext
  induction text with
  | nil => rfl
  | cons c rest ih => rw [List.flatMap_cons, List.foldl_append, foldl_literalChar, ih]

/-- Behind the opening quote, an unescaped character is the closing quote, or it is no quote and, if
it is a backslash, a letter of the written escapes follows it. -/
theorem literalChar_split {text before after : List Char} {c : Char}
    (whole : text.flatMap literalChar ++ ['"'] = before ++ c :: after)
    (free : escapesNext before = false) :
    c = '"' ∧ after = [] ∨
      c ≠ '"' ∧ (c = '\\' → ∃ letter ∈ writtenEscapes, after.head? = some letter) := by
  induction text generalizing before with
  | nil =>
    cases before with
    | nil =>
      obtain ⟨rfl, rfl⟩ := List.cons.inj whole
      exact Or.inl ⟨rfl, rfl⟩
    | cons d before =>
      obtain ⟨-, rest⟩ := List.cons.inj whole
      simp at rest
  | cons d text ih =>
    rw [List.flatMap_cons, List.append_assoc] at whole
    rcases literalChar_cases d with ⟨same, quote, backslash, -⟩ | ⟨letter, mem, same⟩
    · rw [same, List.singleton_append] at whole
      cases before with
      | nil =>
        obtain ⟨rfl, -⟩ := List.cons.inj whole
        exact Or.inr ⟨quote, fun other => absurd other backslash⟩
      | cons d' before =>
        obtain ⟨rfl, rest⟩ := List.cons.inj whole
        have step : escapeStep false d = false := by simp [escapeStep, backslash]
        rw [escapesNext, List.foldl_cons, step] at free
        exact ih rest free
    · rw [same, List.cons_append, List.singleton_append] at whole
      cases before with
      | nil =>
        obtain ⟨rfl, rfl⟩ := List.cons.inj whole
        exact Or.inr ⟨by decide, fun _ => ⟨letter, mem, rfl⟩⟩
      | cons d' before =>
        obtain ⟨rfl, tail⟩ := List.cons.inj whole
        cases before with
        | nil =>
          -- The letter stands right behind a backslash that is not escaped itself.
          exact absurd free (by decide)
        | cons d' before =>
          obtain ⟨rfl, rest⟩ := List.cons.inj tail
          exact ih rest free

/-! ## Reading a literal -/

/-- The value of an octal digit. -/
def octalDigit? (c : Char) : Option Nat :=
  if '0' ≤ c ∧ c ≤ '7' then some (c.toNat - '0'.toNat) else none

/-- Where the reader of a literal stands between its quotes. -/
inductive LiteralMode where
  | plain
  /-- behind a backslash -/
  | escaped
  /-- in an octal escape of this value, with room for so many more digits -/
  | octal (value room : Nat)
  deriving DecidableEq, Repr, Inhabited

/-- A character that is not part of an escape. Quotes and line ends cannot stand in a literal. -/
def plainStep (c : Char) : Option (List Char × LiteralMode) :=
  if c = '\\' then some ([], .escaped)
  else if c = '"' ∨ c = '\n' ∨ c = '\r' then none
  else some ([c], .plain)

/-- The characters that are known after one more, and where the reader stands then. An octal escape
goes on as long as it can: up to three digits, or two where the first is above 3. -/
def LiteralMode.step : LiteralMode → Char → Option (List Char × LiteralMode)
  | .plain, c => plainStep c
  | .escaped, c =>
    match octalDigit? c with
    | some digit => some ([], .octal digit (if digit ≤ 3 then 2 else 1))
    | none => (escapes.lookup c).map fun value => ([value], .plain)
  | .octal value room, c =>
    match room, octalDigit? c with
    | room + 1, some digit => some ([], .octal (8 * value + digit) room)
    | _, _ => (plainStep c).map fun (known, next) => (Char.ofNat value :: known, next)

/-- The characters that are known at the end. -/
def LiteralMode.finish : LiteralMode → Option (List Char)
  | .plain => some []
  | .escaped => none
  | .octal value _ => some [Char.ofNat value]

/-- What characters between quotes stand for. -/
def decodeFrom (mode : LiteralMode) : List Char → Option (List Char)
  | [] => mode.finish
  | c :: rest => do
    let (known, next) ← mode.step c
    return known ++ (← decodeFrom next rest)

/-- The text that a string literal denotes. -/
def literalValue? (literal : String) : Option String :=
  match literal.toList with
  | '"' :: rest =>
    if rest.getLast? = some '"' then (decodeFrom .plain rest.dropLast).map String.ofList else none
  | _ => none

theorem decodeFrom_cons (mode : LiteralMode) (c : Char) (rest : List Char) :
    decodeFrom mode (c :: rest) = (mode.step c).bind fun (known, next) =>
      (decodeFrom next rest).map (known ++ ·) := by
  rw [decodeFrom]
  cases mode.step c with
  | none => rfl
  | some stepped =>
    obtain ⟨known, next⟩ := stepped
    cases others : decodeFrom next rest <;> simp [others]

theorem decodeFrom_plain {c : Char} (quote : c ≠ '"') (backslash : c ≠ '\\') (newline : c ≠ '\n')
    (carriage : c ≠ '\r') (rest : List Char) :
    decodeFrom .plain (c :: rest) = (decodeFrom .plain rest).map (c :: ·) := by
  have step : LiteralMode.plain.step c = some ([c], .plain) := by
    rw [LiteralMode.step, plainStep, if_neg backslash, if_neg (by simp [quote, newline, carriage])]
  rw [decodeFrom_cons, step]
  rfl

theorem decodeFrom_escape {letter value : Char} (other : octalDigit? letter = none)
    (listed : escapes.lookup letter = some value) (rest : List Char) :
    decodeFrom .plain ('\\' :: letter :: rest) = (decodeFrom .plain rest).map (value :: ·) := by
  have first : LiteralMode.plain.step '\\' = some ([], .escaped) := rfl
  have second : LiteralMode.escaped.step letter = some ([value], .plain) := by
    simp only [LiteralMode.step, other, listed, Option.map_some]
  have inner : decodeFrom .escaped (letter :: rest) =
      (decodeFrom .plain rest).map (value :: ·) := by
    rw [decodeFrom_cons, second]
    rfl
  rw [decodeFrom_cons, first, ← inner]
  exact Option.map_id'

/-- What is written for a character stands for it. -/
theorem decodeFrom_literalChar (c : Char) (rest : List Char) :
    decodeFrom .plain (literalChar c ++ rest) = (decodeFrom .plain rest).map (c :: ·) := by
  unfold literalChar
  split_ifs with quote backslash newline carriage tab
  · subst quote
    exact decodeFrom_escape rfl rfl rest
  · subst backslash
    exact decodeFrom_escape rfl rfl rest
  · subst newline
    exact decodeFrom_escape rfl rfl rest
  · subst carriage
    exact decodeFrom_escape rfl rfl rest
  · subst tab
    exact decodeFrom_escape rfl rfl rest
  · exact decodeFrom_plain quote backslash newline carriage rest

theorem decodeFrom_flatMap (text : List Char) :
    decodeFrom .plain (text.flatMap literalChar) = some text := by
  induction text with
  | nil => rfl
  | cons c rest ih => rw [List.flatMap_cons, decodeFrom_literalChar, ih, Option.map_some]

/-! ## Literals -/

section Literal

variable {text : String} {i : Nat}

theorem toList_stringLiteral (text : String) :
    (stringLiteral text).toList = '"' :: (text.toList.flatMap literalChar ++ ['"']) := by
  rw [stringLiteral, String.toList_ofList, literalChars, List.cons_append]

theorem not_mem_stringLiteral {mark : Char} (ending : mark = '\n' ∨ mark = '\r') :
    mark ∉ (stringLiteral text).toList := by
  have other : mark ≠ '"' := by rcases ending with rfl | rfl <;> decide
  intro mem
  rw [toList_stringLiteral] at mem
  simp only [List.mem_cons, List.mem_append, List.mem_flatMap, List.not_mem_nil, or_false, other,
    false_or] at mem
  obtain ⟨c, -, mem⟩ := mem
  exact not_mem_literalChar ending c mem

/-- What stands unescaped behind the opening quote. -/
theorem unescaped_cases {c : Char} (here : (stringLiteral text).toList[i + 1]? = some c)
    (even : Even (backslashesBefore (stringLiteral text).toList (i + 1))) :
    c = '"' ∧ (stringLiteral text).toList.drop (i + 2) = [] ∨
      c ≠ '"' ∧ (c = '\\' → ∃ letter ∈ writtenEscapes,
        (stringLiteral text).toList[i + 2]? = some letter) := by
  have whole := eq_take_append_of_getElem? here
  rw [even_backslashesBefore_iff] at even
  rw [toList_stringLiteral, List.take_succ_cons] at whole even
  rw [← List.head?_drop, toList_stringLiteral]
  exact literalChar_split (List.cons.inj whole).2 even

theorem isUnescapedQuote_iff : IsUnescapedQuote (stringLiteral text).toList i ↔
    i = 0 ∨ i + 1 = (stringLiteral text).toList.length := by
  constructor
  · rintro ⟨here, even⟩
    cases i with
    | zero => exact Or.inl rfl
    | succ i =>
      rcases unescaped_cases here even with ⟨-, last⟩ | ⟨other, -⟩
      · have bound := (List.getElem?_eq_some_iff.1 here).1
        have stop := List.drop_eq_nil_iff.1 last
        exact Or.inr (by omega)
      · exact absurd rfl other
  · rintro (rfl | last)
    · exact ⟨by rw [toList_stringLiteral]; rfl, by simp [backslashesBefore]⟩
    · have whole : (stringLiteral text).toList =
          ('"' :: text.toList.flatMap literalChar) ++ ['"'] := toList_stringLiteral text
      rw [whole, List.length_append, List.length_singleton, Nat.add_right_cancel_iff] at last
      subst last
      refine ⟨?_, even_backslashesBefore_iff.2 ?_⟩
      · rw [whole, List.getElem?_append_right (Nat.le_refl _), Nat.sub_self]
        rfl
      · rw [whole, List.take_left]
        exact escapesNext_flatMap text.toList

theorem not_isUnicodeEscape : ¬ IsUnicodeEscape (stringLiteral text).toList i := by
  rintro ⟨here, letter, even⟩
  cases i with
  | zero =>
    rw [toList_stringLiteral] at here
    exact absurd here (by simp)
  | succ i =>
    rcases unescaped_cases here even with ⟨quote, -⟩ | ⟨-, follows⟩
    · exact absurd quote (by decide)
    · obtain ⟨other, mem, same⟩ := follows rfl
      obtain rfl : 'u' = other := Option.some.inj (letter.symm.trans same)
      exact absurd mem (by decide)

theorem literalValue?_stringLiteral : literalValue? (stringLiteral text) = some text := by
  unfold literalValue?
  rw [toList_stringLiteral]
  simp [decodeFrom_flatMap]

end Literal

/-! ## Main result -/

/-- The literal of a text has no line ends, its only unescaped quotes are its first and its last
character, nothing in it is a Unicode escape, and it denotes the text. -/
theorem stringLiteral_denotes (text : String) :
    '\n' ∉ (stringLiteral text).toList ∧ '\r' ∉ (stringLiteral text).toList ∧
      2 ≤ (stringLiteral text).toList.length ∧
      (∀ i, IsUnescapedQuote (stringLiteral text).toList i ↔
        i = 0 ∨ i + 1 = (stringLiteral text).toList.length) ∧
      (∀ i, ¬ IsUnicodeEscape (stringLiteral text).toList i) ∧
      literalValue? (stringLiteral text) = some text := by
  have long : 2 ≤ (stringLiteral text).toList.length := by
    rw [toList_stringLiteral, List.length_cons, List.length_append, List.length_singleton]
    omega
  exact ⟨not_mem_stringLiteral (Or.inl rfl), not_mem_stringLiteral (Or.inr rfl), long,
    fun i => isUnescapedQuote_iff, fun i => not_isUnicodeEscape, literalValue?_stringLiteral⟩

end EntityGen.Java
