/-
  Lint/DaoMethod.lean --- repetitions in access interfaces.

  Source: the specification, section 4.4 (duplicate method names are fatal) and section 7.

  Methods of an access interface with one name, and methods that repeat the name of a
  parameter.

  The lint looks at the outline of the interface, which exists for every object, and spells
  its messages itself. That they are the messages of the faults with which the interface
  would be refused is proved in `Proofs/Lint/Repetitions.lean`.
-/
import EntityGen.Blueprint.Dao
import EntityGen.Lint.Basic

set_option autoImplicit false

namespace EntityGen.Lint

open EntityGen.Model (BusinessObject)

namespace DaoMethod

/-- The name that findings carry. -/
def name : String := "dao-method"

/-- What is said of a name that several methods have. -/
def methodMessage (dao method : String) : String :=
  s!"DAO '{dao}' declares method '{method}' more than once"

/-- What is said of a method that repeats the name of a parameter. -/
def parameterMessage (dao method parameter : String) : String :=
  s!"method '{method}' of DAO '{dao}' declares parameter '{parameter}' more than once"

/-- The finding of a method that repeats the name of a parameter. -/
def checkParameters (dao location method : String) (parameters : List String) : List Diagnostic :=
  match Blueprint.firstRepeated [] parameters with
  | some parameter => [⟨.error, name, parameterMessage dao method parameter, some location⟩]
  | none => []

/-- The findings in a list of methods with the names of their parameters, given the names of the
earlier methods. A name is reported when it is met for the second time, and never again. -/
def checkMethods (object : BusinessObject) (earlier : List String) :
    List (String × List String) → List Diagnostic
  | [] => []
  | (method, parameters) :: rest =>
    let dao := Blueprint.daoName object
    let location := s!"{object.qualifiedName}.queries.{method}"
    let repeated :=
      if earlier.count method == 1 then
        [⟨.error, name, methodMessage dao method, some location⟩]
      else []
    checkParameters dao location method parameters ++ repeated ++
      checkMethods object (method :: earlier) rest

/-- The findings in a business object. -/
def check (object : BusinessObject) : List Diagnostic :=
  checkMethods object [] (Blueprint.daoOutline object)

end DaoMethod

/-- Methods or parameters with one name. -/
def daoMethod : Lint :=
  .perObject DaoMethod.name "Detect DAO methods or method parameters with the same name"
    DaoMethod.check

end EntityGen.Lint
