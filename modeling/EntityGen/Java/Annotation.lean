/-
  Java/Annotation.lean --- tags as annotations.

  Source: the specification, section 4.2 (tags of entities), and the syntax of annotations
  in Java.

  How tags are written in Java. An annotation takes one line, unless an attribute holds
  tags: these stand one below the other, indented, between braces. An attribute that stands
  alone under the name `value` is written without its name.

  Names of elements are the names of attributes in camel case. Numbers are written in
  decimal, whatever their size.
-/
import EntityGen.Blueprint.Tag
import EntityGen.Java.Resolver
import EntityGen.Java.StringLiteral
import EntityGen.Text.Case
import EntityGen.Text.Pieces

set_option autoImplicit false

namespace EntityGen.Java

open EntityGen.Blueprint (Tag TagKind TagValue)

/-! ## Names -/

/-- The annotation type of a kind of tag. -/
def annotationType : TagKind → String
  | .entity => "javax.persistence.Entity"
  | .table => "javax.persistence.Table"
  | .column => "javax.persistence.Column"
  | .id => "javax.persistence.Id"
  | .generatedValue => "javax.persistence.GeneratedValue"
  | .version => "javax.persistence.Version"
  | .temporal => "javax.persistence.Temporal"
  | .lob => "javax.persistence.Lob"
  | .namedQueries => "javax.persistence.NamedQueries"
  | .namedQuery => "javax.persistence.NamedQuery"
  | .uniqueConstraint => "javax.persistence.UniqueConstraint"
  | .override => "java.lang.Override"

/-- The type of the constants in tags of a kind, if there is one. -/
def constantType? : TagKind → Option String
  | .temporal => some "javax.persistence.TemporalType"
  | _ => none

/-- The characters without underscores, each character after some of them in upper case. -/
def camelChars (afterUnderscore : Bool) : List Char → List Char
  | [] => []
  | c :: rest =>
    if c = '_' then camelChars true rest
    else if afterUnderscore then Text.upperChar c ++ camelChars false rest
    else c :: camelChars false rest

/-- The name of an attribute in an annotation. -/
def camelCase (name : String) : String :=
  String.ofList (camelChars false name.toList)

/-! ## Values -/

/-- Texts between braces. -/
def textList (items : List String) : String :=
  if items.isEmpty then "\x7b\x7d"
  else "\x7b " ++ Text.join ", " (items.map stringLiteral) ++ " \x7d"

/-- A constant of the type that goes with a kind of tag. -/
def constantText (kind : TagKind) (constant : String) : StateM Resolver String := do
  match constantType? kind with
  | some type => return (← Resolver.resolve type) ++ "." ++ constant
  | none => return constant

/-- A value that takes no lines of its own; tags are only written here when there are none. -/
def valueText (kind : TagKind) : TagValue → StateM Resolver String
  | .text text => return stringLiteral text
  | .flag value => return if value then "true" else "false"
  | .number value => return toString value
  | .constant name => constantText kind name
  | .texts items => return textList items
  | .tags _ => return "\x7b\x7d"

/-! ## Annotations -/

/-- An annotation that is being written: the finished lines, and the line that goes on. -/
structure Unfinished where
  /-- The finished lines. -/
  lines : List String
  /-- The line that goes on. -/
  current : String
  deriving DecidableEq, Repr, Inhabited

/-- The line goes on with a text. -/
def Unfinished.continue (unfinished : Unfinished) (text : String) : Unfinished :=
  { unfinished with current := unfinished.current ++ text }

/-- The line ends, other lines follow, and the next one begins with a text. -/
def Unfinished.break (unfinished : Unfinished) (lines : List String) (next : String) :
    Unfinished :=
  ⟨unfinished.lines ++ unfinished.current :: lines, next⟩

/-- Lines whose last one has a comma added. -/
def withComma : List String → List String
  | [] => []
  | [last] => [last ++ ","]
  | first :: rest => first :: withComma rest

/-- Indented lines. -/
def indentLines (lines : List String) : List String :=
  lines.map fun line => "    " ++ line

/-- What stands before the value of an attribute. -/
def attributeLead (first positional : Bool) (name : String) : String :=
  (if first then "" else ", ") ++ (if positional then "" else camelCase name ++ " = ")

/-- The attributes are a value that needs no name. -/
def isPositional : List (String × TagValue) → Bool
  | [(name, _)] => name == Blueprint.valueAttribute
  | _ => false

mutual

/-- The lines of an annotation. -/
def annotation : Tag → StateM Resolver (List String)
  | .mk kind attributes => do
    let name ← Resolver.resolve (annotationType kind)
    if attributes.isEmpty then return ["@" ++ name]
    else
      let written ← attributesText kind (isPositional attributes) true
        ⟨[], "@" ++ name ++ "("⟩ attributes
      return written.lines ++ [written.current ++ ")"]

/-- The attributes of an annotation. -/
def attributesText (kind : TagKind) (positional first : Bool) (unfinished : Unfinished) :
    List (String × TagValue) → StateM Resolver Unfinished
  | [] => return unfinished
  | (name, value) :: rest => do
    let written ← attributeText kind (unfinished.continue (attributeLead first positional name)) value
    attributesText kind positional false written rest

/-- The value of an attribute. -/
def attributeText (kind : TagKind) (unfinished : Unfinished) :
    TagValue → StateM Resolver Unfinished
  | .tags nested => do
    if nested.isEmpty then return unfinished.continue (← valueText kind (.tags []))
    else return (unfinished.continue "\x7b").break (← nestedLines nested) "\x7d"
  | value => do return unfinished.continue (← valueText kind value)

/-- The lines of annotations inside another, with commas between them. -/
def nestedLines : List Tag → StateM Resolver (List String)
  | [] => return []
  | [last] => do return indentLines (← annotation last)
  | first :: rest => do
    let lines ← annotation first
    return indentLines (withComma lines) ++ (← nestedLines rest)

end

end EntityGen.Java
