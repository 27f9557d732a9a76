/-
  Java/ClassText.lean --- the file of a class.

  Source: the specification, section 4.2 and section 4.4 for the order of members, and
  the syntax of declarations in Java.

  The Java file of a class. Types claim their simple names in the order in which the file
  mentions them: those of the annotations on the class, the interfaces, the fields, and the
  methods.

  The resolver of type names is a state that is carried through the file. The parts of a
  file are therefore written in the order in which they are mentioned, although the imports
  stand before all of them.
-/
import EntityGen.Blueprint.Class
import EntityGen.Java.Annotation
import EntityGen.Java.CompilationUnit
import EntityGen.Java.TypeText

set_option autoImplicit false

namespace EntityGen.Java

open EntityGen.Blueprint (Body ClassSpec Member Method MethodParameter Tag Visibility)
open EntityGen.Layout (Fragment)

/-- The class that compares and hashes values. -/
def objectsClass : String := "java.util.Objects"

/-- The word for who may use a declaration. -/
def visibilityText : Visibility → String
  | .everyone => "public"
  | .classOnly => "private"

/-- The closing brace of a block. -/
def closingBrace : Option String := some "\x7d"

/-- A block under a header. -/
def block (header : String) (body : List Fragment) : Fragment :=
  .block (header ++ " \x7b") body closingBrace

/-- The annotations of a declaration, one after the other. -/
def tagLines (tags : List Tag) : StateM Resolver (List String) :=
  tags.foldlM (fun lines tag => do return lines ++ (← annotation tag)) []

/-- The annotations of a declaration as fragments. -/
def tagFragments (tags : List Tag) : StateM Resolver (List Fragment) := do
  return (← tagLines tags).map Fragment.line

/-! ## Fields -/

/-- A field with its annotations. -/
def memberFragments (member : Member) : StateM Resolver (List Fragment) := do
  let tags ← tagFragments member.tags
  let type ← typeText member.type
  return tags ++ [.line s!"{visibilityText member.visibility} {type} {member.name};"]

/-! ## Method bodies -/

/-- One comparison of two objects by a field. -/
def comparison (objects field : String) : String :=
  s!"{objects}.equals(this.{field}, other.{field})"

/-- Comparisons after the first, each on a line of its own, the last with a semicolon. -/
def continuedComparisons : List String → List Fragment
  | [] => []
  | [last] => [.line ("&& " ++ last ++ ";")]
  | first :: rest => .line ("&& " ++ first) :: continuedComparisons rest

/-- The statement that returns whether all comparisons hold. -/
def returnComparisons : List String → List Fragment
  | [] => []
  | [only] => [.line s!"return {only};"]
  | first :: rest => [.line s!"return {first}", .indented [.indented (continuedComparisons rest)]]

/-- The statements that settle a comparison without looking at fields. -/
def equalsGuards : List Fragment :=
  [block "if (this == obj)" [.line "return true;"],
   block "if (obj == null || getClass() != obj.getClass())" [.line "return false;"]]

/-- The statements that compare an object of a class by fields. -/
def equalsBody (simpleName : String) (fields : List String) :
    StateM Resolver (List Fragment) := do
  if fields.isEmpty then return equalsGuards ++ [.line "return true;"]
  else
    let objects ← Resolver.resolve objectsClass
    return equalsGuards ++ .line s!"{simpleName} other = ({simpleName}) obj;" ::
      returnComparisons (fields.map (comparison objects))

/-- The statement that hashes fields. -/
def hashCodeBody (fields : List String) : StateM Resolver (List Fragment) := do
  let objects ← Resolver.resolve objectsClass
  return [.line (s!"return {objects}.hash(" ++ Text.join ", " fields ++ ");")]

/-- The statements of a method of a class. -/
def bodyFragments (simpleName : String) : Body → StateM Resolver (List Fragment)
  | .abstract => return []
  | .getter field => return [.line s!"return {field};"]
  | .setter field parameter => return [.line s!"this.{field} = {parameter};"]
  | .equals fields => equalsBody simpleName fields
  | .hashCode fields => hashCodeBody fields

/-! ## Methods -/

/-- A parameter of a method. -/
def parameterText (parameter : MethodParameter) : StateM Resolver String := do
  return (← typeText parameter.type) ++ " " ++ parameter.name

/-- A documentation comment, if there is one. -/
def docFragments : Option String → List Fragment
  | some text => [.javadoc text]
  | none => []

/-- A method of a class with its comment and its annotations. -/
def methodFragments (simpleName : String) (method : Method) : StateM Resolver (List Fragment) := do
  let tags ← tagFragments method.tags
  let result ← typeText method.result
  let parameters ← method.parameters.mapM parameterText
  let signature := s!"{visibilityText method.visibility} {result} {method.name}(" ++
    Text.join ", " parameters ++ ")"
  let lead := docFragments method.doc ++ tags
  if method.isAbstract then return lead ++ [.line (signature ++ ";")]
  else return lead ++ [block signature (← bodyFragments simpleName method.body)]

/-! ## Classes -/

/-- The members of a class, each after an empty line. -/
def spaced {α : Type} (render : α → StateM Resolver (List Fragment)) (items : List α) :
    StateM Resolver (List Fragment) :=
  items.foldlM (fun fragments item => do return fragments ++ .blank :: (← render item)) []

/-- The line that declares a class, given how its interfaces are written. -/
def declarationText (spec : ClassSpec) (interfaces : List String) : String :=
  let keyword := if spec.isInterface then "interface" else "class"
  let clause := if spec.isInterface then "extends" else "implements"
  s!"{visibilityText spec.visibility} {keyword} {spec.simpleName}" ++
    (if interfaces.isEmpty then "" else s!" {clause} " ++ Text.join ", " interfaces)

/-- A class with its comment and its annotations. -/
def classFragments (spec : ClassSpec) : StateM Resolver (List Fragment) := do
  let tags ← tagFragments spec.tags
  let interfaces ← spec.interfaces.mapM Resolver.resolve
  let fields ← spaced memberFragments spec.fields
  let methods ← spaced (methodFragments spec.simpleName) spec.methods
  return docFragments spec.doc ++ tags ++
    [block (declarationText spec interfaces) (fields ++ methods)]

/-- The Java file of a class. -/
def classUnit (spec : ClassSpec) : CompilationUnit :=
  let (body, resolver) := (classFragments spec).run (Resolver.declaring spec.qualifiedName)
  ⟨spec.packageName, resolver.importedNames, [body]⟩

/-- The text of the Java file of a class. -/
def classText (spec : ClassSpec) : String :=
  (classUnit spec).text

end EntityGen.Java
