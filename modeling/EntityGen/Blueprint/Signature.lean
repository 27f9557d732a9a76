/-
  Blueprint/Signature.lean --- how a query is called.

  Source: the specification, section 4.3 (Query Signature Synthesizer).

  A query is called with its declared parameters, followed by the bounds of a page if it
  yields many objects.

  The text of a query plays no part in its signature.
-/
import EntityGen.Blueprint.Class
import EntityGen.Model.Basic

set_option autoImplicit false

namespace EntityGen.Blueprint

open EntityGen.Model (BusinessObject Query)

/-- The parameter that says where a page starts. -/
def startIndex : String := "startIndex"

/-- The parameter that says how many objects a page has. -/
def maxResults : String := "maxResults"

/-- The parameters that bound a page. -/
def pageParameters : List MethodParameter :=
  [⟨startIndex, .primitive .int⟩, ⟨maxResults, .primitive .int⟩]

/-- How a query is called. -/
structure Signature where
  /-- The name of the method. -/
  name : String
  result : TypeRef
  parameters : List MethodParameter
  deriving DecidableEq, Repr, Inhabited

/-- The signature of a query on an object. -/
def Signature.ofQuery (query : Query) (object : BusinessObject) : Signature :=
  let entity := TypeRef.named object.qualifiedName
  let declared := query.parameters.map fun parameter =>
    MethodParameter.mk parameter.name (.named parameter.className)
  if query.returnsSequence then ⟨query.name, .array entity, declared ++ pageParameters⟩
  else ⟨query.name, entity, declared⟩

/-- The method of a signature. -/
def Signature.method (signature : Signature) : Method :=
  { name := signature.name
    parameters := signature.parameters
    result := signature.result }

end EntityGen.Blueprint
