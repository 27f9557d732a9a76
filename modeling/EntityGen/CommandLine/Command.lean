/-
  CommandLine/Command.lean --- commands and their options.

  Source: the specification, section 6 (`generate`, `check`, `completions`) and section 9.1
  (`-v`).

  What the words of a command line ask for. The options before the name of a command belong
  to the program, those after it to the command; the option for more remarks may stand in
  both places.
-/
import EntityGen.Blueprint.Variant
import EntityGen.CommandLine.Arguments
import EntityGen.Model.Read

set_option autoImplicit false

namespace EntityGen.CommandLine

open EntityGen.Blueprint (Variant)

/-! ## Shells -/

/-- A shell that completes the words of a command line. -/
inductive Shell where
  /-- the Bourne again shell -/
  | bash
  | elvish
  /-- the friendly interactive shell -/
  | fish
  | powerShell
  /-- the Z shell -/
  | zsh
  deriving DecidableEq, Repr, Inhabited

namespace Shell

/-- Every shell. -/
def all : List Shell :=
  [bash, elvish, fish, powerShell, zsh]

/-- The name of the shell. -/
def label : Shell → String
  | bash => "bash"
  | elvish => "elvish"
  | fish => "fish"
  | powerShell => "powershell"
  | zsh => "zsh"

/-- The shell of a name. -/
def ofLabel? (name : String) : Option Shell :=
  all.find? fun shell => shell.label == name

end Shell

/-! ## Names of commands -/

/-- The commands by name. -/
inductive CommandName where
  /-- writes sources -/
  | generate
  /-- checks a model -/
  | check
  /-- writes a script for a shell -/
  | completions
  /-- explains commands -/
  | help
  deriving DecidableEq, Repr, Inhabited

namespace CommandName

/-- Every command. -/
def all : List CommandName :=
  [generate, check, completions, help]

/-- The name of the command. -/
def label : CommandName → String
  | generate => "generate"
  | check => "check"
  | completions => "completions"
  | help => "help"

/-- The command of a name. -/
def ofLabel? (name : String) : Option CommandName :=
  all.find? fun command => command.label == name

end CommandName

/-! ## Options -/

/-- The option for more remarks. -/
def verboseOption : OptionSpec where
  long := "verbose"
  short := some 'v'

/-- The option for the path of the model. -/
def modelOption : OptionSpec where
  long := "model"
  short := some 'm'
  value := some { default := Model.defaultFileName }

/-- The option for the directory that sources are written under. -/
def outputOption : OptionSpec where
  long := "output"
  short := some 'o'
  value := some { default := "." }

/-- The option for the classes of clients. -/
def clientOption : OptionSpec where
  long := "client"

/-- The option for only showing what would be written. -/
def dryRunOption : OptionSpec where
  long := "dry-run"

/-- The name of the format for terminals. -/
def textFormat : String := "text"

/-- The name of the format for programs. -/
def jsonFormat : String := "json"

/-- The option for the format of the report on a check. -/
def formatOption : OptionSpec where
  long := "format"
  value := some { default := textFormat, choices := [textFormat, jsonFormat] }

/-- The options of the program itself. -/
def programOptions : List OptionSpec :=
  [verboseOption, helpOption, versionOption]

/-- The options of a command. -/
def CommandName.options : CommandName → List OptionSpec
  | generate => [modelOption, outputOption, clientOption, dryRunOption, verboseOption, helpOption]
  | check => [modelOption, formatOption, verboseOption, helpOption]
  | completions => [verboseOption, helpOption]
  | help => []

/-! ## Requests -/

/-- What is to be done. -/
inductive Command where
  /-- sources are written or shown -/
  | generate (modelPath outputDirectory : String) (variant : Variant) (dryRun : Bool)
  /-- a model is checked, and the report shown as JSON or as text -/
  | check (modelPath : String) (asJson : Bool)
  /-- the script for a shell is shown -/
  | completions (shell : Shell)
  deriving DecidableEq, Repr, Inhabited

/-- What a command line asks for. -/
inductive Request where
  /-- something is done -/
  | command (command : Command)
  /-- a command is explained, or all of them -/
  | help (topic : Option CommandName)
  /-- the version is shown -/
  | version
  deriving DecidableEq, Repr, Inhabited

/-- The request of words that may ask for help or the version instead of what follows. -/
def unlessStopped {α : Type} (topic : Option CommandName) (read : Except Stop α)
    (next : α → Except UsageFault Request) : Except UsageFault Request :=
  match read with
  | .ok value => next value
  | .error .help => .ok (.help topic)
  | .error .version => .ok .version
  | .error (.fault fault) => .error fault

/-- No words are left. -/
def finish (command : Command) : List String → Except UsageFault Request
  | [] => .ok (.command command)
  | word :: _ => .error (.unexpected word)

/-- The request of the words after the name of a command without places for other words. -/
def readPlain (name : CommandName) (command : Given → Command) (words : List String) :
    Except UsageFault Request :=
  unlessStopped (some name) (readOptions name.options .nothing .none words) fun read =>
    finish (command read.1) read.2.1

/-- The request for the script of a shell, given the words from the name of the shell on and whether
options are over. -/
def readShell (given : Given) (optionsOver : Bool) : List String → Except UsageFault Request
  | [] => .error (.missingValue "shell")
  | word :: rest =>
    match Shell.ofLabel? word with
    | none => .error (.badValue "shell" word)
    | some shell =>
      if optionsOver then finish (.completions shell) rest
      else
        unlessStopped (some .completions)
          (readOptions CommandName.completions.options given .none rest) fun read =>
            finish (.completions shell) read.2.1

/-- The request for help on the commands that words name. Commands have no commands of their own. -/
def readHelp : List String → Except UsageFault Request
  | [] => .ok (.help none)
  | word :: rest =>
    match CommandName.ofLabel? word, rest with
    | some name, [] => .ok (.help (some name))
    | some _, next :: _ => .error (.unknownCommand next)
    | none, _ => .error (.unknownCommand word)

/-- The request of the words after the name of a command. -/
def readCommand (name : CommandName) (words : List String) : Except UsageFault Request :=
  match name with
  | .generate =>
    readPlain .generate
      (fun given =>
        .generate (given.value modelOption) (given.value outputOption)
          (if given.has clientOption then .client else .server) (given.has dryRunOption))
      words
  | .check =>
    readPlain .check
      (fun given => .check (given.value modelOption) (given.value formatOption == jsonFormat)) words
  | .completions =>
    unlessStopped (some .completions)
      (readOptions CommandName.completions.options .nothing .none words) fun read =>
        readShell read.1 read.2.2 read.2.1
  | .help => readHelp words

/-- The request of a command line. -/
def readRequest (words : List String) : Except UsageFault Request :=
  unlessStopped none (readOptions programOptions .nothing .none words) fun read =>
    match read.2 with
    | ([], _) => .error .missingCommand
    | (word :: _, true) => .error (.unexpected word)
    | (word :: rest, false) =>
      match CommandName.ofLabel? word with
      | some name => readCommand name rest
      | none => .error (.unknownCommand word)

end EntityGen.CommandLine
