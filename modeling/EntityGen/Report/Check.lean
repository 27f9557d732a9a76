/-
  Report/Check.lean --- what is reported on a check.

  Source: the specification, section 6 (`bdm check`, as text or as JSON) and section 7.

  The business objects of the model and the findings. A model is valid if there are no
  errors among these.
-/
import EntityGen.Compile.Phase
import EntityGen.Json
import EntityGen.Report.Line

set_option autoImplicit false

namespace EntityGen.Report

open EntityGen.Lint (Diagnostic)
open EntityGen.Model (BusinessObject DataModel)

/-- A finding as JSON; a missing location is left out. -/
def diagnosticJson (diagnostic : Diagnostic) : Json :=
  .object <|
    [("severity", .string diagnostic.severity.label),
     ("source", .string diagnostic.source),
     ("message", .string diagnostic.message)] ++
      match diagnostic.location with
      | some location => [("location", .string location)]
      | none => []

/-- The report on a check. -/
structure CheckReport where
  modelPath : String
  /-- The names of the business objects. -/
  businessObjects : List String
  /-- The findings. -/
  diagnostics : List Diagnostic
  deriving DecidableEq, Repr, Inhabited

/-- The check of a model that was read from a path. -/
def checkModel (model : DataModel) (modelPath : String) : CheckReport :=
  { modelPath
    businessObjects := model.objects.map BusinessObject.qualifiedName
    diagnostics := (Compile.check .server model).diagnostics }

namespace CheckReport

/-- The number of errors among the findings. -/
def errorCount (report : CheckReport) : Nat :=
  report.diagnostics.countP Diagnostic.isError

/-- There are no errors among the findings. -/
def isValid (report : CheckReport) : Bool :=
  report.errorCount == 0

/-- What the report says. -/
def lines (report : CheckReport) : List Line :=
  report.diagnostics.map (fun diagnostic => .diagnostic diagnostic.text) ++
    (if report.diagnostics.isEmpty then [] else [.newline]) ++
    if report.isValid then
      [.preformatted s!"✓ {report.modelPath} is valid", .newline,
       .heading s!"Business objects ({report.businessObjects.length})"] ++
        report.businessObjects.map .listItem
    else [.preformatted s!"✗ {report.modelPath} has {report.errorCount} error(s)"]

/-- The report as JSON. -/
def json (report : CheckReport) : Json :=
  .object
    [("model_path", .string report.modelPath),
     ("business_objects", .array (report.businessObjects.map .string)),
     ("diagnostics", .array (report.diagnostics.map diagnosticJson))]

end CheckReport

end EntityGen.Report
