/-
  Report/Line.lean --- lines of reports.

  Source: the specification, section 9.1: output for users is plain text on the two standard
  streams.

  What a report says, line by line and by meaning, and how a terminal shows it.
-/

set_option autoImplicit false

namespace EntityGen.Report

/-- Something that a report says. -/
inductive Line where
  | heading (title : String)
  /-- a value under a key -/
  | keyValue (key value : String)
  | listItem (text : String)
  /-- an item that was added -/
  | addedItem (text : String)
  | warning (message : String)
  /-- a finding in a model -/
  | diagnostic (text : String)
  /-- a line between parts -/
  | divider (label : String)
  /-- a text as it is -/
  | preformatted (text : String)
  /-- an empty line -/
  | newline
  deriving DecidableEq, Repr, Inhabited

/-- Where a terminal shows something. -/
inductive Stream where
  /-- among the results -/
  | results
  /-- among the remarks -/
  | remarks
  deriving DecidableEq, Repr, Inhabited

namespace Line

/-- Where a terminal shows the line. -/
def stream : Line → Stream
  | warning _ => .remarks
  | diagnostic _ => .remarks
  | _ => .results

/-- How a terminal shows the line. -/
def terminalText : Line → String
  | heading title => s!"{title}:\n"
  | keyValue key value => s!"{key}: {value}\n"
  | listItem text => s!"  - {text}\n"
  | addedItem text => s!"  + {text}\n"
  | warning message => s!"warning: {message}\n"
  | diagnostic text => s!"{text}\n"
  | divider label => s!"── {label} ──\n"
  | preformatted text => s!"{text}\n"
  | newline => "\n"

end Line

/-- What a terminal shows of lines on a stream. -/
def shownOn (stream : Stream) (lines : List Line) : String :=
  String.join ((lines.filter fun line => line.stream == stream).map Line.terminalText)

end EntityGen.Report
