/-
  Text/Digits.lean --- whole numbers in a base.

  Source: the integers and escapes of TOML 1.1, which are decimal, hexadecimal, octal or
  binary.

  Reading whole numbers in a base up to sixteen. Letters of either case are digits beyond
  nine.

  A number here is a natural of any size. Whether it fits where it is read is decided by
  whoever reads it.
-/

set_option autoImplicit false

namespace EntityGen.Text

/-- The value of a digit in a base. -/
def digitValue? (base : Nat) (c : Char) : Option Nat :=
  let value :=
    if '0' ≤ c && c ≤ '9' then some (c.toNat - '0'.toNat)
    else if 'a' ≤ c && c ≤ 'f' then some (c.toNat - 'a'.toNat + 10)
    else if 'A' ≤ c && c ≤ 'F' then some (c.toNat - 'A'.toNat + 10)
    else none
  value.filter (· < base)

/-- The character is a digit in a base. -/
def isDigitOf (base : Nat) (c : Char) : Bool :=
  (digitValue? base c).isSome

/-- The number that a text of digits writes; none if it is empty or holds anything else. -/
def number? (base : Nat) (text : List Char) : Option Nat :=
  if text.isEmpty then none
  else (text.mapM (digitValue? base)).map (·.foldl (fun n d => base * n + d) 0)

end EntityGen.Text
