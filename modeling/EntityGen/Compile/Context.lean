/-
  Compile/Context.lean --- what the phases share.

  Source: the specification, section 5 (validate, build, render, emit) and section 7.

  The model, the variant, the findings so far, and the program once it is built.

  Events for a log are not modelled: they change neither the findings nor the program.
-/
import EntityGen.Blueprint.Program
import EntityGen.Blueprint.Variant
import EntityGen.Compile.Fault
import EntityGen.Model.Basic

set_option autoImplicit false

namespace EntityGen.Compile

open EntityGen.Blueprint (Program Variant)
open EntityGen.Lint (Diagnostic)
open EntityGen.Model (DataModel)

/-- The state of a compilation. -/
structure Context where
  model : DataModel
  /-- For whom classes are generated. -/
  variant : Variant
  /-- The program, once it is built. -/
  program : Option Program
  /-- The findings so far. -/
  diagnostics : List Diagnostic
  deriving Inhabited

namespace Context

/-- The state before the first phase. -/
def start (model : DataModel) (variant : Variant) : Context :=
  ⟨model, variant, none, []⟩

/-- The findings that keep anything from being generated. -/
def errors (context : Context) : List Diagnostic :=
  context.diagnostics.filter Diagnostic.isError

/-- The findings that do not. -/
def warnings (context : Context) : List Diagnostic :=
  context.diagnostics.filter Diagnostic.isWarning

/-- There is a finding that keeps anything from being generated. -/
def hasErrors (context : Context) : Bool :=
  context.diagnostics.any Diagnostic.isError

/-- There is a finding that does not. -/
def hasWarnings (context : Context) : Bool :=
  context.diagnostics.any Diagnostic.isWarning

/-- The state with more findings. -/
def report (context : Context) (diagnostics : List Diagnostic) : Context :=
  { context with diagnostics := context.diagnostics ++ diagnostics }

/-- The program, which has to be built. -/
def builtProgram (context : Context) : Except CompileFault Program :=
  match context.program with
  | some program => .ok program
  | none => .error .notBuilt

end Context

end EntityGen.Compile
