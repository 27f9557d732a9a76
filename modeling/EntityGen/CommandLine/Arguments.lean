/-
  CommandLine/Arguments.lean --- reading words.

  Source: the usual conventions for options on a command line, as the program's own parser
  of options follows them; section 6 of the specification lists the options.

  How words of a command line are read: long options with their value after an equals sign
  or as the next word, short options that may stand together behind one dash, and other
  words. Words are read from left to right, and the first that does not fit ends the
  reading. After the word `--` no word is an option.

  What is wrong with a word is kept by kind, because it decides the exit code. The sentences
  that are shown for it are not modelled.
-/

set_option autoImplicit false

namespace EntityGen.CommandLine

/-! ## Descriptions -/

/-- The values of an option. -/
structure ValueSpec where
  /-- The value when the option is not given. -/
  default : String
  /-- The values to choose from; none of them means any text but the empty one. -/
  choices : List String := []
  deriving DecidableEq, Repr, Inhabited

/-- The option may have the value. -/
def ValueSpec.accepts (spec : ValueSpec) (value : String) : Bool :=
  if spec.choices.isEmpty then !value.isEmpty else spec.choices.contains value

/-- An option of a command. -/
structure OptionSpec where
  /-- The name behind two dashes. -/
  long : String
  /-- The letter behind one dash. -/
  short : Option Char := none
  /-- Its values, if it takes one. -/
  value : Option ValueSpec := none
  deriving DecidableEq, Repr, Inhabited

namespace OptionSpec

/-- The option takes a value. -/
def takesValue (spec : OptionSpec) : Bool :=
  spec.value.isSome

/-- The option may have the value. -/
def accepts (spec : OptionSpec) (value : String) : Bool :=
  spec.value.all fun values => values.accepts value

end OptionSpec

/-- Why words are no command. -/
inductive UsageFault where
  /-- no command is given -/
  | missingCommand
  | unknownCommand (word : String)
  /-- nothing takes the word -/
  | unexpected (word : String)
  /-- an option is given twice -/
  | repeated (option : String)
  /-- an option or a place is left without a value -/
  | missingValue (name : String)
  /-- an option or a place does not take the value -/
  | badValue (name value : String)
  deriving DecidableEq, Repr, Inhabited

/-- Why the reading of words ends early. -/
inductive Stop where
  /-- help is asked for -/
  | help
  /-- the version is asked for -/
  | version
  /-- the words are no command -/
  | fault (fault : UsageFault)
  deriving DecidableEq, Repr, Inhabited

/-- The options that were given, with the value of each that takes one. -/
structure Given where
  /-- The options, by their long names. -/
  options : List (String × String)
  deriving DecidableEq, Repr, Inhabited

namespace Given

/-- No options were given. -/
def nothing : Given :=
  ⟨[]⟩

/-- The option was given. -/
def has (given : Given) (spec : OptionSpec) : Bool :=
  (given.options.lookup spec.long).isSome

/-- The value of an option. -/
def value (given : Given) (spec : OptionSpec) : String :=
  (given.options.lookup spec.long).getD ((spec.value.map ValueSpec.default).getD "")

/-- One more option with its value. It must not have been given, and must take the value. -/
def withOption (given : Given) (spec : OptionSpec) (value : String) : Except Stop Given :=
  if given.has spec then .error (.fault (.repeated spec.long))
  else if spec.accepts value then
    .ok ⟨given.options ++ [(spec.long, value)]⟩
  else .error (.fault (.badValue spec.long value))

end Given

/-! ## Words -/

/-- The option that asks for help. -/
def helpOption : OptionSpec where
  long := "help"
  short := some 'h'

/-- The option that asks for the version. -/
def versionOption : OptionSpec where
  long := "version"
  short := some 'V'

/-- An option without a value is given. Help and the version end the reading. -/
def giveFlag (given : Given) (spec : OptionSpec) : Except Stop Given :=
  if spec.long == helpOption.long then .error .help
  else if spec.long == versionOption.long then .error .version
  else given.withOption spec ""

/-- The word stands for itself: it is no option. A dash alone is none. -/
def isPlain (word : String) : Bool :=
  match word.toList with
  | '-' :: _ :: _ => false
  | _ => true

/-- What is still to be read after an option: nothing, or a value as the next word. -/
inductive Pending where
  /-- nothing -/
  | none
  | valueOf (spec : OptionSpec)

/-- Reads a word behind two dashes. -/
def readLong (specs : List OptionSpec) (given : Given) (word : List Char) :
    Except Stop (Given × Pending) :=
  let name := String.ofList (word.takeWhile (· != '='))
  let attached := (word.dropWhile (· != '=')).tail?
  match specs.find? fun spec => spec.long == name, attached with
  | none, _ => .error (.fault (.unexpected ("--" ++ name)))
  | some spec, none =>
    if spec.takesValue then .ok (given, .valueOf spec)
    else (giveFlag given spec).map fun given => (given, .none)
  | some spec, some value =>
    if spec.takesValue then
      (given.withOption spec (String.ofList value)).map fun given => (given, .none)
    else .error (.fault (.badValue spec.long (String.ofList value)))

/-- Reads letters behind one dash. The first option among them that takes a value takes the letters
that are left, without an equals sign at their start. -/
def readShort (specs : List OptionSpec) (given : Given) :
    List Char → Except Stop (Given × Pending)
  | [] => .ok (given, .none)
  | letter :: rest =>
    match specs.find? fun spec => spec.short == some letter with
    | none => .error (.fault (.unexpected (String.ofList ['-', letter])))
    | some spec =>
      if spec.takesValue then
        match rest with
        | [] => .ok (given, .valueOf spec)
        | '=' :: value =>
          (given.withOption spec (String.ofList value)).map fun given => (given, .none)
        | value => (given.withOption spec (String.ofList value)).map fun given => (given, .none)
      else
        match giveFlag given spec with
        | .ok given => readShort specs given rest
        | .error stop => .error stop

/-- Reads a word that is an option. -/
def readOption (specs : List OptionSpec) (given : Given) (word : String) :
    Except Stop (Given × Pending) :=
  match word.toList with
  | '-' :: '-' :: name => readLong specs given name
  | letters => readShort specs given letters.tail

/-- Reads words up to one that is neither an option nor the value of one, or up to `--`: what was
read, the words that are left, and whether they follow `--`. -/
def readOptions (specs : List OptionSpec) (given : Given) :
    Pending → List String → Except Stop (Given × List String × Bool)
  | .none, [] => .ok (given, [], false)
  | .none, word :: rest =>
    if word == "--" then .ok (given, rest, true)
    else if isPlain word then .ok (given, word :: rest, false)
    else
      match readOption specs given word with
      | .ok (given, pending) => readOptions specs given pending rest
      | .error stop => .error stop
  | .valueOf spec, [] => .error (.fault (.missingValue spec.long))
  | .valueOf spec, word :: rest =>
    if isPlain word then
      match given.withOption spec word with
      | .ok given => readOptions specs given .none rest
      | .error stop => .error stop
    else .error (.fault (.missingValue spec.long))

end EntityGen.CommandLine
