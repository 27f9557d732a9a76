/-
  Lint/Suite.lean --- the lints of every model.

  Source: the specification, section 7; the order is that in which the findings are
  reported.

  Seven lints, six of which look at each object on its own.
-/
import EntityGen.Lint.DaoMethod
import EntityGen.Lint.DuplicateField
import EntityGen.Lint.Identifier
import EntityGen.Lint.QueryReturnType
import EntityGen.Lint.ReservedName
import EntityGen.Lint.TypeCollision
import EntityGen.Lint.UniqueConstraint

set_option autoImplicit false

namespace EntityGen.Lint

open EntityGen.Model (DataModel)

/-- The lints that every model is checked with. -/
def suite : List Lint :=
  [reservedName, typeCollision, identifier, duplicateField, uniqueConstraint, daoMethod,
    queryReturnType]

/-- The findings of several lints in a model, lint by lint. -/
def findings (lints : List Lint) (model : DataModel) : List Diagnostic :=
  lints.flatMap fun lint => lint.check model

end EntityGen.Lint
