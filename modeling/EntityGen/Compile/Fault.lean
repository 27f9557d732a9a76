/-
  Compile/Fault.lean --- why a compilation fails.

  Source: the specification, section 7 (taxonomy; fatal before any file is written).

  The wording is a chain of messages, from what was tried to what went wrong.
-/
import EntityGen.Blueprint.Fault
import EntityGen.Lint.Diagnostic
import EntityGen.Text.Pieces

set_option autoImplicit false

namespace EntityGen.Compile

open EntityGen.Blueprint (ClassFault)
open EntityGen.Lint (Diagnostic)

/-- Why a phase of a compilation fails. -/
inductive CompileFault where
  /-- checks found errors -/
  | rejected (errors : List Diagnostic)
  /-- a business object makes no entity -/
  | noEntity (object : String) (fault : ClassFault)
  /-- a business object makes no access interface -/
  | noDao (object : String) (fault : ClassFault)
  /-- the classes make no program -/
  | noProgram (fault : ClassFault)
  /-- the program is asked for and is not there -/
  | notBuilt
  /-- an added phase gives up, in its own words -/
  | aborted (message : String)
  deriving DecidableEq, Repr, Inhabited

namespace CompileFault

/-- The errors of a model, one a line. -/
def rejection (errors : List Diagnostic) : String :=
  s!"Validation failed with {errors.length} error(s)\n" ++
    Text.join "\n" (errors.map fun error => "  " ++ error.text)

/-- The messages of the fault, from what was tried to what went wrong. -/
def chain : CompileFault → List String
  | rejected errors => [rejection errors]
  | noEntity object fault => [s!"failed to build entity '{object}'", fault.message]
  | noDao object fault => [s!"failed to build DAO for '{object}'", fault.message]
  | noProgram fault => [fault.message]
  | notBuilt => ["program not built, did the build phase run?"]
  | aborted message => [message]

/-- The fault of a class behind the fault, if there is one. -/
def classFault? : CompileFault → Option ClassFault
  | noEntity _ fault => some fault
  | noDao _ fault => some fault
  | noProgram fault => some fault
  | _ => none

end CompileFault

end EntityGen.Compile
