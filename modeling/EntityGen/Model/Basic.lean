/-
  Model/Basic.lean --- the data model.

  Source: the specification, section 3 (Data model).

  A model lists business objects; a business object has fields, queries and unique
  constraints. Objects are known by their dotted names and no two objects of a model share
  one. Query texts and parameter types are carried along as they are.

  What is in a model was either read from a source, which obeys the rules of
  `Model/Rules.lean`, or put together by calls, which only keep names distinct. Theorems say
  which of the two they are about.
-/
import EntityGen.Naming
import EntityGen.Roster
import EntityGen.Text.Blank

set_option autoImplicit false

namespace EntityGen.Model

/-! ## Fields -/

/-- A typed attribute of a business object. -/
structure Field where
  /-- The name, which is also that of the member that stores it. -/
  name : String
  type : FieldType
  /-- The column may hold no value. -/
  nullable : Bool
  /-- The greatest length of a text, if one is declared. -/
  length : Option UInt32
  deriving DecidableEq, Repr, Inhabited

/-- The greatest length of a text when none is declared. -/
def defaultLength : UInt32 := 255

/-- The length of the column of a bounded text; none for the other types. -/
def Field.columnLength (field : Field) : Option UInt32 :=
  match field.type with
  | .string => some (field.length.getD defaultLength)
  | _ => none

/-! ## Queries -/

/-- A typed input of a query. The type is a name in the target language. -/
structure Parameter where
  name : String
  /-- The name of its type. -/
  className : String
  deriving DecidableEq, Repr, Inhabited

/-- A named query on a business object. -/
structure Query where
  name : String
  /-- The text of the query. -/
  content : String
  /-- The declared type of the result: an object, or a sequence type for many of them. -/
  returnType : String
  /-- The inputs. -/
  parameters : List Parameter
  deriving DecidableEq, Repr, Inhabited

/-- The result types that stand for many objects. -/
def sequenceTypes : List String :=
  ["java.util.List", "java.util.Collection", "List", "Collection"]

/-- A type name without its type arguments and without blanks around it. -/
def rawType (type : String) : String :=
  let trimmed := Text.trimChars type.toList
  let raw := trimmed.takeWhile (· != '<')
  String.ofList (if trimmed.contains '<' then Text.trimEndChars raw else raw)

/-- The declared result is a sequence of objects. -/
def Query.returnsSequence (query : Query) : Bool :=
  sequenceTypes.contains (rawType query.returnType)

/-! ## Business objects -/

/-- Fields whose values together occur once. -/
structure UniqueConstraint where
  name : String
  /-- The names of the fields. -/
  fields : List String
  deriving DecidableEq, Repr, Inhabited

/-- An entity of the business. -/
structure BusinessObject where
  /-- The dotted name. -/
  qualifiedName : String
  /-- What the object is, in words. -/
  description : Option String
  /-- The attributes. -/
  fields : List Field
  queries : List Query
  uniqueConstraints : List UniqueConstraint
  deriving DecidableEq, Repr, Inhabited

namespace BusinessObject

/-- The part of the name before its last dot. -/
def packageName (object : BusinessObject) : String :=
  Naming.namespaceOf object.qualifiedName

/-- The part of the name after its last dot. -/
def simpleName (object : BusinessObject) : String :=
  Naming.simpleNameOf object.qualifiedName

/-- The first field of this name. -/
def field? (object : BusinessObject) (name : String) : Option Field :=
  object.fields.find? fun field => field.name == name

/-- The object with one more field. -/
def addField (object : BusinessObject) (field : Field) : BusinessObject :=
  { object with fields := object.fields ++ [field] }

/-- The object with one more query. -/
def addQuery (object : BusinessObject) (query : Query) : BusinessObject :=
  { object with queries := object.queries ++ [query] }

/-- The object with one more unique constraint. -/
def addUniqueConstraint (object : BusinessObject) (constraint : UniqueConstraint) :
    BusinessObject :=
  { object with uniqueConstraints := object.uniqueConstraints ++ [constraint] }

end BusinessObject

/-! ## Models -/

/-- Business objects in order of declaration, with pairwise distinct names. -/
abbrev DataModel : Type := Roster BusinessObject.qualifiedName

/-- The business objects of a model. -/
abbrev DataModel.objects (model : DataModel) : List BusinessObject :=
  model.items

end EntityGen.Model
