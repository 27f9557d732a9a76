/-
  Text/Ranges.lean --- the shape of character tables.

  Source: the Unicode character database, whose properties and mappings are given by ranges
  of code points.

  The shape of the tables that describe character classes and letter-case mappings: ranges
  of code points, and runs of code points that are mapped by one common shift.

  A test runs through a table from its start, which is fast enough for the names and the
  messages it is used on.
-/

set_option autoImplicit false

namespace EntityGen.Text

/-- Closed ranges of code points. -/
abbrev Ranges : Type := List (Nat × Nat)

/-- The character lies in one of the ranges. -/
def Ranges.contains (ranges : Ranges) (c : Char) : Bool :=
  ranges.any fun r => r.1 ≤ c.toNat && c.toNat ≤ r.2

/-- Every `step`-th code point from `first` to `last`, mapped by adding `shift`. -/
structure CaseRun where
  /-- The first code point of the run. -/
  first : Nat
  /-- The last code point of the run. -/
  last : Nat
  /-- The distance between neighbours. -/
  step : Nat
  /-- What the mapping adds to a code point. -/
  shift : Int
  deriving DecidableEq, Repr, Inhabited

/-- The run maps this character. -/
def CaseRun.covers (run : CaseRun) (c : Char) : Bool :=
  run.first ≤ c.toNat && c.toNat ≤ run.last && (c.toNat - run.first) % run.step == 0

/-- What the run maps the character to. -/
def CaseRun.image (run : CaseRun) (c : Char) : Char :=
  Char.ofNat ((c.toNat : Int) + run.shift).toNat

end EntityGen.Text
