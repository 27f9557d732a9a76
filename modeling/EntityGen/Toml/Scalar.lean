/-
  Toml/Scalar.lean --- values without quotes.

  Source: TOML 1.1, booleans, integers, floats and dates.

  Booleans, integers, floats, dates and times by their text. Digits may be grouped by single
  underscores between them; a decimal number has no leading zero; the parts of a date or a
  time must be in range. An integer has no greatest value here, and a float keeps its
  decimal digits.

  The text of an integer need not write a number: its digits may be missing after `0x`, and
  a decimal integer may hold anything but a blank after its first underscore, tabs included,
  as long as hexadecimal digits stand beside the underscores. Such a text is an integer
  without a value.
-/
import EntityGen.Text.Digits

set_option autoImplicit false

namespace EntityGen.Toml

open EntityGen.Text (digitValue? isDigitOf number?)

/-- A floating-point value as it is written. -/
inductive FloatText where
  /-- not a number -/
  | nan
  /-- beyond all numbers -/
  | infinite (negative : Bool)
  | decimal (negative : Bool) (digits : Nat) (exponent : Int)
  deriving DecidableEq, Repr, Inhabited

/-- A value that is written without quotes. -/
inductive Scalar where
  /-- true or false -/
  | boolean (value : Bool)
  /-- a whole number -/
  | integer (value : Int)
  /-- an integer whose text writes no number, such as `0x` or `1_a` -/
  | valueless
  /-- a floating-point number -/
  | float (value : FloatText)
  /-- a date, a time, or both -/
  | dateTime
  deriving DecidableEq, Repr, Inhabited

/-! ## Groups of digits -/

/-- The text without its underscores, each of which stands between two digits of a base; none if one
stands elsewhere. -/
def ungrouped? (base : Nat) : List Char → Option (List Char)
  | [] => some []
  | '_' :: _ => none
  | c :: '_' :: d :: rest =>
    if isDigitOf base c && isDigitOf base d then (ungrouped? base (d :: rest)).map (c :: ·)
    else none
  | c :: rest => (ungrouped? base rest).map (c :: ·)

/-- The text starts with a zero that other characters follow. -/
def hasLeadingZero : List Char → Bool
  | '0' :: _ :: _ => true
  | _ => false

/-! ## Signs -/

/-- A text without its sign, and whether the sign was a minus. -/
def unsigned : List Char → Bool × List Char
  | '+' :: rest => (false, rest)
  | '-' :: rest => (true, rest)
  | text => (false, text)

/-- A number with its sign. -/
def signed (negative : Bool) (n : Nat) : Int :=
  if negative then -(n : Int) else n

/-! ## Integers -/

/-- The integer of a text without underscores. -/
def integerOf (negative : Bool) (base : Nat) (digits : List Char) : Scalar :=
  match number? base digits with
  | some n => .integer (signed negative n)
  | none => .valueless

/-- An integer in another base, without the two characters that say which; it has no sign. -/
def radixInteger? (base : Nat) (text : List Char) : Option Scalar := do
  let digits ← ungrouped? base text
  if digits.all (isDigitOf base) then some (integerOf false base digits) else none

/-- The text holds nothing but digits up to its first underscore, at least one of them, and no blank
anywhere. -/
def startsAsInteger (text : List Char) : Bool :=
  !text.isEmpty && (text.takeWhile (· != '_')).all (isDigitOf 10) && !text.contains ' '

/-- A decimal integer without its sign. Its underscores stand between hexadecimal digits. -/
def decimalInteger? (negative : Bool) (text : List Char) : Option Scalar := do
  let digits ← ungrouped? 16 text
  if startsAsInteger text && !hasLeadingZero digits then some (integerOf negative 10 digits)
  else none

/-! ## Floats -/

/-- What stands before and after the first character of a class. -/
def cutAt (marks : Char → Bool) (text : List Char) : List Char × Option (List Char) :=
  match text.dropWhile (!marks ·) with
  | [] => (text, none)
  | _ :: after => (text.takeWhile (!marks ·), some after)

/-- The exponent of a float; a missing one is zero. -/
def exponent? : Option (List Char) → Option Int
  | none => some 0
  | some ('+' :: digits) => (number? 10 digits).map (signed false)
  | some ('-' :: digits) => (number? 10 digits).map (signed true)
  | some digits => (number? 10 digits).map (signed false)

/-- The number that the digits on both sides of the point of a float write, and how many of them
stand behind it. A missing point leaves none there. -/
def mantissa? (whole : List Char) : Option (List Char) → Option (Nat × Nat)
  | none => (number? 10 whole).map (·, 0)
  | some places =>
    if whole.isEmpty || places.isEmpty then none
    else (number? 10 (whole ++ places)).map (·, places.length)

/-- The character makes a number a float. -/
def isFloatMark (c : Char) : Bool :=
  c == '.' || c == 'e' || c == 'E'

/-- A floating-point number with a fraction, an exponent or both, without its sign. Its underscores
stand between decimal digits. -/
def decimalFloat? (negative : Bool) (text : List Char) : Option FloatText := do
  let digits ← ungrouped? 10 text
  let (mantissa, power) := cutAt (fun c => c == 'e' || c == 'E') digits
  let (whole, fraction) := cutAt (· == '.') mantissa
  if hasLeadingZero whole then none
  else
    let (digits, places) ← mantissa? whole fraction
    let exponent ← exponent? power
    return .decimal negative digits (exponent - places)

/-- A decimal number or one of the names, with an optional sign. -/
def decimal? (text : List Char) : Option Scalar :=
  match unsigned text with
  | (negative, ['i', 'n', 'f']) => some (.float (.infinite negative))
  | (_, ['n', 'a', 'n']) => some (.float .nan)
  | (negative, body) =>
    if body.any isFloatMark then (decimalFloat? negative body).map .float
    else decimalInteger? negative body

/-! ## Dates and times -/

/-- A number of exactly `count` decimal digits. -/
def fixedNumber? (count : Nat) (text : List Char) : Option Nat :=
  if text.length == count then number? 10 text else none

/-- The year has a twenty-ninth of February. -/
def isLeapYear (year : Nat) : Bool :=
  year % 4 == 0 && (year % 100 != 0 || year % 400 == 0)

/-- The days of a month; zero for a number that is no month. -/
def daysOf (year month : Nat) : Nat :=
  if month == 2 then (if isLeapYear year then 29 else 28)
  else if month ∈ [4, 6, 9, 11] then 30
  else if 1 ≤ month && month ≤ 12 then 31
  else 0

/-- The text is a day of the calendar, such as `1979-05-27`. -/
def isDate (text : List Char) : Bool :=
  match fixedNumber? 4 (text.take 4), fixedNumber? 2 ((text.drop 5).take 2),
      fixedNumber? 2 (text.drop 8) with
  | some year, some month, some day =>
    text[4]? == some '-' && text[7]? == some '-' && 1 ≤ day && day ≤ daysOf year month
  | _, _, _ => false

/-- The text is a pair of numbers up to the given ones with a colon between them. -/
def isClock (hours minutes : Nat) (text : List Char) : Bool :=
  match fixedNumber? 2 (text.take 2), fixedNumber? 2 (text.drop 3) with
  | some hour, some minute => text[2]? == some ':' && hour ≤ hours && minute ≤ minutes
  | _, _ => false

/-- The text is a count of seconds after its colon, with an optional fraction; it may be missing. -/
def isSeconds (text : List Char) : Bool :=
  match text with
  | [] => true
  | ':' :: rest =>
    let (seconds, fraction) := cutAt (· == '.') rest
    ((fixedNumber? 2 seconds).any (· ≤ 60)) &&
      (match fraction with
      | none => true
      | some digits => !digits.isEmpty && digits.all (isDigitOf 10))
  | _ => false

/-- The text is a time of day, such as `07:32:00.5`. -/
def isTime (text : List Char) : Bool :=
  isClock 23 59 (text.take 5) && isSeconds (text.drop 5)

/-- The text is a time of day with an optional offset from universal time. -/
def isZonedTime (text : List Char) : Bool :=
  let (time, zone) := (text.takeWhile fun c => c ∉ ['Z', 'z', '+', '-'],
    text.dropWhile fun c => c ∉ ['Z', 'z', '+', '-'])
  isTime time &&
    (match zone with
    | [] => true
    | ['Z'] => true
    | ['z'] => true
    | sign :: clock => (sign == '+' || sign == '-') && isClock 23 59 clock)

/-- The text is a date, a time, or a date and a time. -/
def isDateTime (text : List Char) : Bool :=
  isTime text || isDate text ||
    (isDate (text.take 10) && (text[10]?).any (· ∈ ['T', 't', ' ']) && isZonedTime (text.drop 11))

/-! ## All together -/

/-- The value of an unquoted text. -/
def scalar? (text : List Char) : Option Scalar :=
  if isDateTime text then some .dateTime
  else
    match text with
    | ['t', 'r', 'u', 'e'] => some (.boolean true)
    | ['f', 'a', 'l', 's', 'e'] => some (.boolean false)
    | '0' :: 'x' :: digits => radixInteger? 16 digits
    | '0' :: 'o' :: digits => radixInteger? 8 digits
    | '0' :: 'b' :: digits => radixInteger? 2 digits
    | _ => decimal? text

end EntityGen.Toml
