/-
  Lint/QueryReturnType.lean --- results of queries.

  Source: the specification, section 7: a warning where a result is neither the object nor a
  sequence.

  Queries that declare a result which is neither their business object nor a sequence. They
  are taken to yield one object.
-/
import EntityGen.Lint.Basic

set_option autoImplicit false

namespace EntityGen.Lint

open EntityGen.Model (BusinessObject Query)

namespace QueryReturnType

/-- The name that findings carry. -/
def name : String := "query-return-type"

/-- The finding in a query. -/
def checkQuery (object : BusinessObject) (query : Query) : List Diagnostic :=
  let type := Text.trim query.returnType
  if query.returnsSequence || type == object.qualifiedName || type == object.simpleName then []
  else
    [⟨.warning, name,
      s!"query '{query.name}' returns '{type}', generating a single '{object.simpleName}' " ++
        "result instead",
      some s!"{object.qualifiedName}.queries.{query.name}"⟩]

/-- The findings in a business object. -/
def check (object : BusinessObject) : List Diagnostic :=
  object.queries.flatMap (checkQuery object)

end QueryReturnType

/-- Queries that declare another result than their business object or a sequence. -/
def queryReturnType : Lint :=
  .perObject QueryReturnType.name "Check queries return their business object or a list of it"
    QueryReturnType.check

end EntityGen.Lint
