/-
  Text/Span.lean --- stretches of a text.

  Source: section 7 of the specification: diagnostics of a model file carry source spans.

  A stretch of a source text, counted in bytes of its UTF-8 form.
-/

set_option autoImplicit false

namespace EntityGen.Text

/-- A stretch of a source text. -/
structure Span where
  /-- The bytes before the stretch. -/
  offset : Nat
  /-- The bytes of the stretch. -/
  length : Nat
  deriving DecidableEq, Repr, Inhabited

/-- The stretch from one offset up to another. -/
def Span.between (start stop : Nat) : Span :=
  ⟨start, stop - start⟩

end EntityGen.Text
