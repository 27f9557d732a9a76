/-
  Lint/Basic.lean --- what a lint is.

  Source: the specification, section 7: lints collect every diagnostic before anything
  fails.

  A lint looks at a whole model and reports findings. Most lints look at each business
  object on its own.
-/
import EntityGen.Lint.Diagnostic
import EntityGen.Model.Basic

set_option autoImplicit false

namespace EntityGen

open EntityGen.Lint (Diagnostic)
open EntityGen.Model (BusinessObject DataModel)

/-- A check of models. -/
structure Lint where
  /-- The name that findings carry. -/
  name : String
  /-- What is checked, in words. -/
  description : String
  /-- The findings in a model. -/
  check : DataModel → List Diagnostic

/-- The lint that looks at each business object on its own. -/
def Lint.perObject (name description : String) (check : BusinessObject → List Diagnostic) : Lint :=
  ⟨name, description, fun model => model.objects.flatMap check⟩

end EntityGen
