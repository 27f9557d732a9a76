/-
  CommandLine/Run.lean --- running a command.

  Source: the specification, section 6 and section 9.2 (errors are reported at the seam of
  the command line).

  What the program does with the words of its command line, on a volume that is given to it:
  what it shows as results and as remarks, and the code it ends with.

  Of help, of usage faults and of completion scripts only the exit code and the stream are
  modelled; their texts are made by libraries, and no other part of the program reads them.
-/
import EntityGen.CommandLine.Command
import EntityGen.Model.Load
import EntityGen.Report.Check
import EntityGen.Report.Generate

set_option autoImplicit false

namespace EntityGen.CommandLine

open EntityGen.Files (Volume)
open EntityGen.Model (DataModel ModelFault)
open EntityGen.Report (Line)

/-- The text of the version. -/
def versionText : String :=
  "bdm 0.1.0\n"

/-- What a run leaves behind. -/
structure Outcome where
  /-- The code it ends with. -/
  exitCode : UInt32
  /-- What it shows as results. -/
  results : String
  /-- What it shows as remarks. -/
  remarks : String
  deriving DecidableEq, Repr, Inhabited

namespace Outcome

/-- The code of a run that did what was asked for. -/
def successCode : UInt32 := 0

/-- The code of a run that failed. -/
def failureCode : UInt32 := 1

/-- The code of a run that was not understood. -/
def usageCode : UInt32 := 2

/-- The run showed a text. -/
def shown (text : String) : Outcome :=
  ⟨successCode, text, ""⟩

/-- The run failed with messages, from what was tried to what went wrong, and with advice. -/
def failed (chain : List String) (advice : Option String) : Outcome :=
  ⟨failureCode, "", "Error: " ++ Text.join "\n  caused by: " chain ++ "\n" ++
    (advice.map fun advice => s!"  help: {advice}\n").getD ""⟩

/-- The words were not understood. What is remarked about them is not modelled. -/
def misused : Outcome :=
  ⟨usageCode, "", ""⟩

/-- The run explained commands or completed their names. The texts of that are not modelled. -/
def explained : Outcome :=
  .shown ""

/-- The run ended with a code and a report. -/
def reported (exitCode : UInt32) (lines : List Line) : Outcome :=
  ⟨exitCode, Report.shownOn .results lines, Report.shownOn .remarks lines⟩

end Outcome

variable {m : Type → Type} [Monad m] {Handle : Type}

/-- Writes or shows the sources of a model. -/
def runGenerate (volume : Volume m Handle) (modelPath : String)
    (options : Report.GenerateOptions) : m Outcome := do
  match ← DataModel.load volume modelPath with
  | .error fault => return .failed fault.chain fault.help?
  | .ok model =>
    match ← Report.generate volume model options with
    | .error fault => return .failed fault.chain none
    | .ok report => return .reported Outcome.successCode report.lines

/-- Shows the report on a check of a model. -/
def runCheck (volume : Volume m Handle) (modelPath : String) (asJson : Bool) : m Outcome := do
  match ← DataModel.load volume modelPath with
  | .error fault => return .failed fault.chain fault.help?
  | .ok model =>
    let report := Report.checkModel model modelPath
    let exitCode := if report.isValid then Outcome.successCode else Outcome.failureCode
    if asJson then return ⟨exitCode, Json.pretty report.json ++ "\n", ""⟩
    else return .reported exitCode report.lines

/-- Does what is to be done. -/
def runCommand (volume : Volume m Handle) : Command → m Outcome
  | .generate modelPath outputDirectory variant dryRun =>
    runGenerate volume modelPath ⟨outputDirectory, dryRun, variant⟩
  | .check modelPath asJson => runCheck volume modelPath asJson
  | .completions _ => return .explained

/-- Runs the program with the words of its command line. -/
def run (volume : Volume m Handle) (words : List String) : m Outcome :=
  match readRequest words with
  | .error _ => return .misused
  | .ok (.command command) => runCommand volume command
  | .ok (.help _) => return .explained
  | .ok .version => return .shown versionText

end EntityGen.CommandLine
