/-
  Report/Generate.lean --- what is reported on a generation.

  Source: the specification, section 6 (`bdm generate`, with a dry run) and section 4.5
  (`preview`).

  The warnings, and either the files that were written or those that would be.
-/
import EntityGen.Java.Generator
import EntityGen.Report.Line

set_option autoImplicit false

namespace EntityGen.Report

open EntityGen.Blueprint (Variant)
open EntityGen.Compile (CompileFault)
open EntityGen.Files (FileEntry FileFault Path.relativeTo? Volume)
open EntityGen.Lint (Diagnostic)
open EntityGen.Model (DataModel)

/-- Why nothing is generated. -/
inductive GenerateFault where
  /-- the model makes no program -/
  | notCompiled (fault : CompileFault)
  /-- the program is asked for and is not there -/
  | notBuilt (fault : CompileFault)
  /-- a file cannot be written -/
  | notWritten (fault : FileFault)
  deriving DecidableEq, Repr, Inhabited

/-- The messages of the fault, from what was tried to what went wrong. -/
def GenerateFault.chain : GenerateFault → List String
  | .notCompiled fault => "Pipeline failed" :: fault.chain
  | .notBuilt fault => fault.chain
  | .notWritten fault => ["Failed to generate code", fault.message]

/-- What became of the generated files. -/
inductive GenerationResult where
  /-- they were written to these paths under a directory -/
  | written (directory : String) (paths : List String)
  /-- they are only shown -/
  | preview (files : List FileEntry)
  deriving DecidableEq, Repr, Inhabited

/-- The report on a run of the generator. -/
structure GenerateReport where
  /-- For whom classes are generated. -/
  variant : Variant
  /-- The number of business objects. -/
  businessObjects : Nat
  warnings : List String
  /-- The files. -/
  result : GenerationResult
  deriving DecidableEq, Repr, Inhabited

namespace GenerateReport

/-- The number of files. -/
def fileCount (report : GenerateReport) : Nat :=
  match report.result with
  | .written _ paths => paths.length
  | .preview files => files.length

/-- What the report says about files that were written. -/
def writtenLines (report : GenerateReport) (directory : String) (paths : List String) :
    List Line :=
  [.keyValue "Generated"
    (s!"{report.fileCount} {report.variant.label} file(s) for " ++
      s!"{report.businessObjects} business object(s)"),
   .newline, .heading directory] ++
    paths.map fun path => .addedItem ((Path.relativeTo? directory path).getD path)

/-- What the report says about files that are only shown. -/
def previewLines (files : List FileEntry) : List Line :=
  files.flatMap (fun file => [.divider file.path, .preformatted file.content]) ++
    [.divider "Summary", .preformatted s!"{files.length} files would be generated"]

/-- What the report says. -/
def lines (report : GenerateReport) : List Line :=
  report.warnings.map .warning ++
    match report.result with
    | .written directory paths => report.writtenLines directory paths
    | .preview files => previewLines files

end GenerateReport

/-- What is to be generated. -/
structure GenerateOptions where
  /-- The directory that files are written under. -/
  outputDirectory : String
  /-- Files are only shown. -/
  dryRun : Bool
  /-- For whom classes are generated. -/
  variant : Variant
  deriving DecidableEq, Repr, Inhabited

/-- The warnings of a model and its source files. -/
def generateSources (variant : Variant) (model : DataModel) :
    Except GenerateFault (List String × Files.Registry) := do
  let context ← (Compile.compile variant [] model).mapError .notCompiled
  let program ← context.builtProgram.mapError .notBuilt
  return (context.warnings.map Diagnostic.text, Java.sources program)

/-- Generates the source files of a model. -/
def generate {m : Type → Type} [Monad m] {Handle : Type} (volume : Volume m Handle)
    (model : DataModel) (options : GenerateOptions) : m (Except GenerateFault GenerateReport) := do
  match generateSources options.variant model with
  | .error fault => return .error fault
  | .ok (warnings, registry) =>
    let report := GenerateReport.mk options.variant model.size warnings
    if options.dryRun then return .ok (report (.preview registry.entries))
    else
      match ← registry.writeAll volume options.outputDirectory with
      | .ok paths => return .ok (report (.written options.outputDirectory paths))
      | .error fault => return .error (.notWritten fault)

end EntityGen.Report
