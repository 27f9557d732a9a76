/-
  Lint/Diagnostic.lean --- findings.

  Source: the specification, section 7 (errors and warnings) and section 6 (`bdm check`).

  What a check of a model finds: how grave it is, which check found it, what it is, and
  where.
-/

set_option autoImplicit false

namespace EntityGen.Lint

/-- How grave a finding is. -/
inductive Severity where
  /-- nothing can be generated -/
  | error
  /-- something unexpected is generated -/
  | warning
  deriving DecidableEq, Repr, Inhabited

/-- The name of the severity. -/
def Severity.label : Severity → String
  | .error => "error"
  | .warning => "warning"

/-- A finding. -/
structure Diagnostic where
  /-- How grave it is. -/
  severity : Severity
  /-- The check that found it. -/
  source : String
  /-- What it is. -/
  message : String
  /-- Where it is. -/
  location : Option String
  deriving DecidableEq, Repr, Inhabited

namespace Diagnostic

/-- The finding keeps anything from being generated. -/
def isError (diagnostic : Diagnostic) : Bool :=
  diagnostic.severity == .error

/-- The finding does not keep anything from being generated. -/
def isWarning (diagnostic : Diagnostic) : Bool :=
  diagnostic.severity == .warning

/-- The finding in one line. -/
def text (diagnostic : Diagnostic) : String :=
  s!"{diagnostic.severity.label}[{diagnostic.source}]: {diagnostic.message}" ++
    match diagnostic.location with
    | some location => s!" (at {location})"
    | none => ""

end Diagnostic

end EntityGen.Lint
