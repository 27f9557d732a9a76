/-
  Model/Fault.lean --- faults of a model file.

  Source: the specification, section 7 (taxonomy, model validation), and the diagnostics of
  a model file: a message, a code, a help text and labels.

  Everything that keeps a model from being read, with its wording: the message, the code and
  the advice that go with it, and the places in the source that it points at.

  How a terminal draws a label around the source is not modelled; what is labelled, and with
  which words, is.
-/
import EntityGen.Java.Identifier
import EntityGen.Model.Mismatch
import EntityGen.Model.Source
import EntityGen.Toml.Reader

set_option autoImplicit false

namespace EntityGen.Model

open EntityGen.Text (Span)

/-! ## Causes -/

/-- Why a source makes no list of business objects. -/
inductive ReadingFault where
  /-- the source is not TOML -/
  | notToml (fault : Toml.SyntaxFault)
  /-- its values do not make a model -/
  | mismatch (mismatch : Mismatch)
  deriving DecidableEq, Repr, Inhabited

/-- The fault in words. -/
def ReadingFault.message : ReadingFault → String
  | .notToml fault => fault.message
  | .mismatch found => found.cause.message

/-- Why a name is refused, apart from being a reserved word. -/
inductive NameFault where
  /-- a part of it is no identifier -/
  | notIdentifier (fault : Java.IdentifierFault)
  /-- a dotted name has no package -/
  | noPackage
  deriving DecidableEq, Repr, Inhabited

/-- The fault in words. -/
def NameFault.reason : NameFault → String
  | .notIdentifier fault => fault.reason
  | .noPackage => "qualified name must include a package, e.g. 'com.company.model.Invoice'"

/-- Why well-named parts do not make a model. -/
inductive Violation where
  /-- two business objects have one name -/
  | objectRepeated (object : String)
  /-- two fields of an object have one name -/
  | fieldRepeated (field : String)
  /-- two queries of an object have one name -/
  | queryRepeated (query : String)
  /-- a unique constraint lists no fields -/
  | constraintEmpty (constraint : String)
  /-- a unique constraint lists a field that the object does not have -/
  | constraintDangling (constraint field : String)
  /-- any other rule, in the words of whoever checks it -/
  | stated (message : String)
  deriving DecidableEq, Repr, Inhabited

/-- The violation in words. -/
def Violation.message : Violation → String
  | .objectRepeated object => s!"business object '{object}' is defined more than once"
  | .fieldRepeated field => s!"field '{field}' is declared more than once"
  | .queryRepeated query => s!"query '{query}' is declared more than once"
  | .constraintEmpty constraint => s!"unique constraint '{constraint}' has no fields"
  | .constraintDangling constraint field =>
    s!"unique constraint '{constraint}' references unknown field '{field}'"
  | .stated message => message

/-! ## Faults -/

/-- Why there is no model. -/
inductive ModelFault where
  /-- the file cannot be read as text -/
  | unreadable (path : String)
  /-- the source makes no list of business objects -/
  | malformed (source : Source) (fault : ReadingFault)
  /-- the business objects break a rule -/
  | invalid (source : Source) (span : Option Span) (violation : Violation)
  /-- a business object is added under a name that is taken -/
  | duplicateObject (name : String)
  | reservedKeyword (source : Source) (span : Option Span) (name context : String)
  /-- a name is no identifier -/
  | invalidIdentifier (source : Source) (span : Option Span) (name context : String)
      (fault : NameFault)
  deriving DecidableEq, Repr, Inhabited

/-- A stretch of the source with what is to be said about it. -/
structure Label where
  /-- The stretch. -/
  span : Span
  /-- What is to be said. -/
  text : String
  deriving DecidableEq, Repr, Inhabited

namespace ModelFault

/-- The fault in one line. -/
def message : ModelFault → String
  | unreadable path => s!"failed to read '{path}'"
  | malformed _ _ => "failed to parse business object model"
  | invalid _ _ violation => violation.message
  | duplicateObject name => s!"business object '{name}' is already defined"
  | reservedKeyword _ _ name _ => s!"'{name}' is a Java reserved keyword"
  | invalidIdentifier _ _ name context _ => s!"invalid {context} name '{name}'"

/-- The messages of the fault, from what was tried to what went wrong. -/
def chain (fault : ModelFault) : List String :=
  match fault with
  | malformed _ cause => [fault.message, cause.message]
  | _ => [fault.message]

/-- The code of the kind of fault. -/
def code? : ModelFault → Option String
  | unreadable _ => none
  | malformed _ _ => some "bdm::parse_error"
  | invalid _ _ _ => some "bdm::validation_error"
  | duplicateObject _ => some "bdm::duplicate_business_object"
  | reservedKeyword _ _ _ _ => some "bdm::reserved_keyword"
  | invalidIdentifier _ _ _ _ _ => some "bdm::invalid_identifier"

/-- Advice on how to mend the fault. -/
def help? : ModelFault → Option String
  | unreadable _ =>
    some "pass the model file explicitly, e.g. 'bdm generate --model bom.toml'"
  | malformed _ _ => none
  | invalid _ _ _ => none
  | duplicateObject _ => some "qualified names must be unique within a model"
  | reservedKeyword _ _ name context => some s!"rename the {context} '{name}' to something else"
  | invalidIdentifier _ _ _ _ fault =>
    some <| fault.reason ++ ". Use only letters, numbers, underscores, and '$', " ++
      "starting with a letter or underscore."

/-- The source that the fault lies in. -/
def source? : ModelFault → Option Source
  | unreadable _ => none
  | malformed source _ => some source
  | invalid source _ _ => some source
  | duplicateObject _ => none
  | reservedKeyword source _ _ _ => some source
  | invalidIdentifier source _ _ _ _ => some source

/-- The stretch of the source that the fault points at, with its label. -/
def label? : ModelFault → Option Label
  | unreadable _ => none
  | malformed _ (.notToml _) => none
  | malformed _ (.mismatch mismatch) => some ⟨mismatch.span, "parse error here"⟩
  | invalid _ span violation => span.map fun span => ⟨span, violation.message⟩
  | duplicateObject _ => none
  | reservedKeyword _ span _ _ => span.map fun span => ⟨span, "reserved keyword used here"⟩
  | invalidIdentifier _ span _ _ _ => span.map fun span => ⟨span, "invalid identifier"⟩

end ModelFault

end EntityGen.Model
