/-
  Decimal/Binary64.lean --- double-precision numbers in decimal.

  Source: the format of double-precision binary numbers, and the rule that such a number is
  printed with the fewest digits that are read as the same number.

  Decimal numbers and the double-precision numbers nearest to them, in exact arithmetic on
  naturals: a decimal `d · 10^e` is rounded to `m · 2^q` with at most 53 bits in `m`, and
  such a number is written back with the fewest digits that round to it again, a tie among
  those going up. Texts are positional, whatever the exponent.

  A model has no fields for such numbers. They are needed for one kind of message: a float
  in the place of another value is quoted by its shortest digits.
-/

set_option autoImplicit false

namespace EntityGen.Decimal

/-- The magnitude of a double-precision number: `mantissa · 2^exponent`, with a mantissa below
`2^53` and an exponent of at least `-1074`. -/
structure Binary64 where
  /-- The significant bits. -/
  mantissa : Nat
  /-- The power of two that scales them. -/
  exponent : Int
  deriving DecidableEq, Repr, Inhabited

/-- The least exponent of a double-precision number. -/
def leastExponent : Int := -1074

/-- The greatest exponent of a double-precision number. -/
def greatestExponent : Int := 971

/-- `base ^ exponent` as a fraction of naturals. -/
def powerFraction (base : Nat) (exponent : Int) : Nat × Nat :=
  if 0 ≤ exponent then (Nat.pow base exponent.toNat, 1)
  else (1, Nat.pow base (-exponent).toNat)

/-- `num / den` rounded to the nearest natural, a tie to the even one. -/
def roundedToEven (num den : Nat) : Nat :=
  let quotient := num / den
  let twice := 2 * (num % den)
  if den < twice || (twice == den && quotient % 2 == 1) then quotient + 1 else quotient

/-- `num / den` rounded to the nearest natural, a tie to the greater one. -/
def roundedUp (num den : Nat) : Nat :=
  (2 * num + den) / (2 * den)

/-! ## From decimal -/

/-- The exponent for which `num / den` has 53 bits, or the least one. -/
def exponentFor (num den : Nat) : Int :=
  let estimate : Int := (num.log2 : Int) - (den.log2 : Int) - 52
  let scale := powerFraction 2 estimate
  -- the estimate is exact or one too large
  let exact := if num * scale.2 < Nat.pow 2 52 * (den * scale.1) then estimate - 1 else estimate
  if exact < leastExponent then leastExponent else exact

/-- The double-precision number nearest to the fraction; none if it is beyond the greatest one. -/
def nearestToFraction (num den : Nat) : Option Binary64 :=
  let exponent := exponentFor num den
  let scale := powerFraction 2 exponent
  let mantissa := roundedToEven (num * scale.2) (den * scale.1)
  let result : Binary64 :=
    if mantissa == Nat.pow 2 53 then ⟨Nat.pow 2 52, exponent + 1⟩ else ⟨mantissa, exponent⟩
  if greatestExponent < result.exponent then none else some result

/-- The double-precision number nearest to `digits · 10^exponent`; none if it is beyond the greatest
one. Exponents far outside the range are settled without computing the power. -/
def nearest (digits : Nat) (exponent : Int) : Option Binary64 :=
  let magnitude : Int := ((Nat.toDigits 10 digits).length : Int) + exponent
  if digits == 0 || magnitude < -400 then some ⟨0, leastExponent⟩
  else if 400 < magnitude then none
  else
    let scale := powerFraction 10 exponent
    nearestToFraction (digits * scale.1) scale.2

/-! ## To decimal -/

/-- The numbers that round to a given one: from `low` to `high` around `value`, all over one
denominator; the ends belong to them if `closed`. -/
structure Neighbourhood where
  /-- The lower end. -/
  low : Nat
  /-- The number itself. -/
  value : Nat
  /-- The upper end. -/
  high : Nat
  /-- The common denominator. -/
  den : Nat
  /-- The ends round to the number as well. -/
  closed : Bool
  deriving DecidableEq, Repr, Inhabited

/-- The numbers that round to `x`. Below a power of two the neighbours are half as far apart. -/
def Binary64.neighbourhood (x : Binary64) : Neighbourhood :=
  let scale := powerFraction 2 (x.exponent - 2)
  let below := if x.mantissa == Nat.pow 2 52 && leastExponent < x.exponent then 1 else 2
  { low := (4 * x.mantissa - below) * scale.1
    value := 4 * x.mantissa * scale.1
    high := (4 * x.mantissa + 2) * scale.1
    den := scale.2
    closed := x.mantissa % 2 == 0 }

/-- The decimal `digits · 10^exponent` lies in the neighbourhood. -/
def Neighbourhood.holds (n : Neighbourhood) (digits : Nat) (exponent : Int) : Bool :=
  let scale := powerFraction 10 exponent
  let scaled := digits * scale.1 * n.den
  let low := n.low * scale.2
  let high := n.high * scale.2
  if n.closed then low ≤ scaled && scaled ≤ high else low < scaled && scaled < high

/-- The multiple of `10^exponent` nearest to the number, among the two beside it that lie in the
neighbourhood. Of two equally near ones it is the greater. -/
def Neighbourhood.onGrid? (n : Neighbourhood) (exponent : Int) : Option Nat :=
  let scale := powerFraction 10 exponent
  let num := n.value * scale.2
  let den := n.den * scale.1
  let below := num / den
  let nearer := roundedUp num den
  let farther := if nearer == below then below + 1 else below
  if n.holds nearer exponent then some nearer
  else if n.holds farther exponent then some farther
  else none

/-- The power of ten of the number's leading digit. -/
def Neighbourhood.leadingPower (n : Neighbourhood) : Int :=
  let whole := n.value / n.den
  if 0 < whole then ((Nat.toDigits 10 whole).length : Int) - 1
  else
    -- the least number of places that makes the scaled value reach one
    let places := ((List.range 330).find? (fun k => n.den ≤ n.value * Nat.pow 10 k)).getD 330
    0 - (places : Int)

/-- The fewest digits that round to `x`, as `digits · 10^exponent`. -/
def Binary64.shortest (x : Binary64) : Nat × Int :=
  let n := x.neighbourhood
  let top := n.leadingPower
  let grids := (List.range 18).filterMap fun (k : Nat) =>
    let exponent := top - (k : Int)
    (n.onGrid? exponent).bind fun digits =>
      if digits == 0 then none
      else if digits % 10 == 0 then some (digits / 10, exponent + 1)
      else some (digits, exponent)
  grids.headD (0, 0)

/-- The decimal `digits · 10^exponent` without an exponent, always with a point. -/
def positional (digits : Nat) (exponent : Int) : List Char :=
  let shown := Nat.toDigits 10 digits
  if 0 ≤ exponent then
    let zeros := if digits == 0 then 0 else exponent.toNat
    shown ++ List.replicate zeros '0' ++ ['.', '0']
  else
    let places := (-exponent).toNat
    let padded := List.replicate (places + 1 - shown.length) '0' ++ shown
    padded.take (padded.length - places) ++ '.' :: padded.drop (padded.length - places)

/-- The shortest positional text of `x`. -/
def Binary64.text (x : Binary64) : String :=
  let decimal := x.shortest
  String.ofList (positional decimal.1 decimal.2)

end EntityGen.Decimal
