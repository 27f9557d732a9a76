/-
  Blueprint/Variant.lean --- the two flavours of a program.

  Source: the specification, section 3 (Program: server variant and client variant).

  The two programs that a model is turned into: one for the server, which stores objects,
  and one for clients, which only hold them.
-/

set_option autoImplicit false

namespace EntityGen.Blueprint

/-- For whom classes are generated. -/
inductive Variant where
  /-- classes that are stored -/
  | server
  /-- classes without anything about how they are stored -/
  | client
  deriving DecidableEq, Repr, Inhabited

/-- The name of the variant. -/
def Variant.label : Variant → String
  | .server => "server"
  | .client => "client"

end EntityGen.Blueprint
