/-
  Blueprint/Dao.lean --- access interfaces.

  Source: the specification, section 4.4 (DAO Builder), with the decision there on the
  standard operations.

  The interface through which the objects of one kind are found: by identity, by page, by
  each unique constraint, and by each query. Its methods have pairwise distinct names, and
  so have the parameters of a method. The names alone can be told without making the
  interface.
-/
import EntityGen.Blueprint.Entity
import EntityGen.Blueprint.Signature

set_option autoImplicit false

namespace EntityGen.Blueprint

open EntityGen.Model (BusinessObject UniqueConstraint)

/-! ## Names -/

/-- What the name of the interface adds to that of the entity. -/
def daoSuffix : String := "DAO"

/-- The dotted name of the interface. -/
def daoName (object : BusinessObject) : String :=
  object.qualifiedName ++ daoSuffix

/-- The method that finds objects by these fields. -/
def finderName (fields : List String) : String :=
  "findBy" ++ Text.join "And" (fields.map Text.capitalize)

/-- The names of the methods, each with those of its parameters. -/
def daoOutline (object : BusinessObject) : List (String × List String) :=
  [("findByPersistenceId", [persistenceId]),
   ("find", pageParameters.map MethodParameter.name)] ++
    object.uniqueConstraints.map (fun constraint =>
      (finderName constraint.fields, constraint.fields)) ++
    object.queries.map fun query =>
      let signature := Signature.ofQuery query object
      (signature.name, signature.parameters.map MethodParameter.name)

/-- The names of the methods. -/
def daoMethodNames (object : BusinessObject) : List String :=
  (daoOutline object).map (·.1)

/-- The first name that was met before. -/
def firstRepeated (before : List String) : List String → Option String
  | [] => none
  | name :: rest =>
    if before.contains name then some name else firstRepeated (name :: before) rest

/-! ## Methods -/

/-- The methods that every interface has. -/
def standardFinders (object : BusinessObject) : List Method :=
  let entity := TypeRef.named object.qualifiedName
  [{ name := "findByPersistenceId"
     parameters := [⟨persistenceId, generatedType⟩]
     result := entity },
   { name := "find"
     parameters := pageParameters
     result := .array entity }]

/-- The parameter for one field of a unique constraint. -/
def finderParameter (object : BusinessObject) (constraint : UniqueConstraint) (name : String) :
    Except ClassFault MethodParameter :=
  match object.field? name with
  | some field => .ok ⟨name, memberType field.type⟩
  | none => .error (.unknownConstraintField object.qualifiedName constraint.name name)

/-- The method that finds an object by a unique constraint. -/
def constraintFinder (object : BusinessObject) (constraint : UniqueConstraint) :
    Except ClassFault Method := do
  let parameters ← constraint.fields.mapM (finderParameter object constraint)
  return {
    name := finderName constraint.fields
    parameters
    result := .named object.qualifiedName }

/-- The methods of the interface. -/
def daoMethods (object : BusinessObject) : Except ClassFault (List Method) := do
  let finders ← object.uniqueConstraints.mapM (constraintFinder object)
  return standardFinders object ++ finders ++
    object.queries.map fun query => (Signature.ofQuery query object).method

/-! ## Interfaces -/

/-- The methods have to have pairwise distinct names. -/
def checkMethodNames (dao : String) (methods : List Method) : Except ClassFault Unit :=
  match firstRepeated [] (methods.map Method.name) with
  | some method => .error (.duplicateDaoMethod dao method)
  | none => .ok ()

/-- The parameters of a method have to have pairwise distinct names. -/
def checkParameterNames (dao : String) (method : Method) : Except ClassFault Unit :=
  match firstRepeated [] method.parameterNames with
  | some parameter => .error (.duplicateParameter dao method.name parameter)
  | none => .ok ()

/-- The interface of an object. -/
def daoInterface (object : BusinessObject) : Except ClassFault ClassSpec := do
  checkTypeName object.qualifiedName
  let methods ← daoMethods object
  checkMethodNames (daoName object) methods
  methods.forM (checkParameterNames (daoName object))
  return {
    qualifiedName := daoName object
    kind := .interface
    methods }

end EntityGen.Blueprint
