/-
  Compile/Phase.lean --- phases.

  Source: the specification, section 2 (data flow) and section 5.

  A phase changes the state of a compilation and may fail; what it changed stays even then.
  The first phase checks the model, the second builds the program, and further ones may be
  added.
-/
import EntityGen.Compile.Context
import EntityGen.Lint.Suite

set_option autoImplicit false

namespace EntityGen.Compile

open EntityGen.Blueprint (Program Variant)
open EntityGen.Model (BusinessObject DataModel)

/-- What a phase leaves behind: the state, and why it failed if it did. -/
structure Step where
  /-- The state after the phase. -/
  context : Context
  /-- Why the phase failed. -/
  fault : Option CompileFault
  deriving Inhabited

/-- A phase of a compilation. -/
structure Phase where
  name : String
  /-- What the phase does, in words. -/
  description : String
  /-- The change it makes. -/
  run : Context → Step

/-! ## Checking -/

/-- The state with the findings of several lints. -/
def collect (lints : List Lint) (context : Context) : Context :=
  context.report (Lint.findings lints context.model)

/-- The phase that checks a model. It fails if there are errors among the findings, earlier ones
included. -/
def validation (lints : List Lint) : Phase where
  name := "validate"
  description := "Check model integrity and collect diagnostics"
  run context :=
    let checked := collect lints context
    ⟨checked, if checked.hasErrors then some (.rejected checked.errors) else none⟩

/-! ## Building -/

/-- The program with the two classes of one more business object. -/
def addObject (variant : Variant) (program : Program) (object : BusinessObject) :
    Except CompileFault Program := do
  let entity ← (Blueprint.entityClass variant object).mapError (.noEntity object.qualifiedName)
  let dao ← (Blueprint.daoInterface object).mapError (.noDao object.qualifiedName)
  let program ← (Blueprint.Program.add program entity).mapError .noProgram
  (Blueprint.Program.add program dao).mapError .noProgram

/-- The program of a model. -/
def buildProgram (variant : Variant) (model : DataModel) : Except CompileFault Program :=
  model.objects.foldlM (addObject variant) Roster.empty

/-- The phase that builds the program. -/
def building : Phase where
  name := "build"
  description := "Build entity classes and DAO interfaces"
  run context :=
    match buildProgram context.variant context.model with
    | .ok program => ⟨{ context with program := some program }, none⟩
    | .error fault => ⟨context, some fault⟩

/-! ## Compilations -/

/-- Phases one after the other, up to the first that fails. -/
def runPhases : List Phase → Context → Step
  | [], context => ⟨context, none⟩
  | phase :: rest, context =>
    match phase.run context with
    | ⟨context, none⟩ => runPhases rest context
    | failed => failed

/-- The state after the checks of every model alone. -/
def check (variant : Variant) (model : DataModel) : Context :=
  collect Lint.suite (Context.start model variant)

/-- The state after checking, building and the added phases. -/
def compile (variant : Variant) (added : List Phase) (model : DataModel) :
    Except CompileFault Context :=
  match runPhases (validation Lint.suite :: building :: added) (Context.start model variant) with
  | ⟨context, none⟩ => .ok context
  | ⟨_, some fault⟩ => .error fault

end EntityGen.Compile
