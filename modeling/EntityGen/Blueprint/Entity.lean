/-
  Blueprint/Entity.lean --- entity classes.

  Source: the specification, section 4.2 (Entity Builder), in the order in which it lists
  tags, fields and accessors.

  The class of a business object: a field with accessors for every field of the object and
  for the two that every entity has, and comparison by all of them but the version.

  The entity for clients is made from the one for servers by leaving out what is about
  storing, so the two cannot drift apart.
-/
import EntityGen.Blueprint.Class
import EntityGen.Blueprint.Fault
import EntityGen.Blueprint.Mapping
import EntityGen.Blueprint.Variant

set_option autoImplicit false

namespace EntityGen.Blueprint

open EntityGen.Model (BusinessObject Field FieldType UniqueConstraint Query)

/-! ## Fixed names -/

/-- The interface of every entity. -/
def entityMarker : String := "com.bonitasoft.engine.bdm.Entity"

/-- The field that identifies an entity. -/
def persistenceId : String := "persistenceId"

/-- The field that counts the changes of an entity. -/
def persistenceVersion : String := "persistenceVersion"

/-! ## Tags -/

/-- The tag of a unique constraint, whose fields all have to be declared. -/
def constraintTag (object : BusinessObject) (constraint : UniqueConstraint) :
    Except ClassFault Tag :=
  match constraint.fields.find? fun field => (object.field? field).isNone with
  | some missing =>
    .error (.unknownConstraintField object.qualifiedName constraint.name missing)
  | none =>
    .ok <| ((Tag.ofKind .uniqueConstraint).set "name" (.text constraint.name)).set "column_names"
      (.texts (constraint.fields.map Naming.columnName))

/-- The tag of the table of an object, with its unique constraints if there are any. -/
def tableTag (object : BusinessObject) : Except ClassFault Tag := do
  let table := (Tag.ofKind .table).set "name" (.text (Naming.columnName object.simpleName))
  if object.uniqueConstraints.isEmpty then return table
  else
    let constraints ← object.uniqueConstraints.mapM (constraintTag object)
    return table.set "unique_constraints" (.tags constraints)

/-- The tag of the column of a field. -/
def columnTag (field : Field) : Tag :=
  let column := ((Tag.ofKind .column).set "name" (.text (Naming.columnName field.name))).set
    "nullable" (.flag field.nullable)
  match field.columnLength with
  | some length => column.set "length" (.number length.toNat)
  | none => column

/-- The tag of a query. -/
def queryTag (query : Query) : Tag :=
  ((Tag.ofKind .namedQuery).set "name" (.text query.name)).set "query" (.text query.content)

/-- The tag of the queries of an object, if there are any. -/
def queryTags (object : BusinessObject) : List Tag :=
  if object.queries.isEmpty then []
  else [(Tag.ofKind .namedQueries).setValue (.tags (object.queries.map queryTag))]

/-! ## Members -/

/-- The methods that write and read a field. -/
def accessors (name : String) (member : TypeRef) (type : FieldType) : List Method :=
  [{ name := Naming.setterName name
     parameters := [⟨name, member⟩]
     body := .setter name name },
   { name := Naming.getterName name type
     result := member
     body := .getter name }]

/-- The member that holds a field of an object. The tag of its column takes the place of that with
default settings. -/
def fieldMember (field : Field) : Member :=
  let mapping := mapFieldType field.type
  { name := field.name
    type := mapping.type
    tags := columnTag field :: mapping.tags.drop 1 }

theorem tags_fieldMember (field : Field) :
    (fieldMember field).tags = columnTag field :: extraTags field.type :=
  rfl

/-- The type of the two fields that every entity has. -/
def generatedType : TypeRef :=
  .optional (.primitive .long)

/-- The member that identifies an entity. -/
def idMember : Member :=
  { name := persistenceId
    type := generatedType
    tags := [.ofKind .id, .ofKind .generatedValue] }

/-- The member that counts the changes of an entity. -/
def versionMember : Member :=
  { name := persistenceVersion
    type := generatedType
    tags := [.ofKind .version] }

/-- The fields by which entities are compared. -/
def comparedFields (object : BusinessObject) : List String :=
  object.fields.map Field.name ++ [persistenceId]

/-- The method that compares an entity with an object. -/
def equalsMethod (object : BusinessObject) : Method :=
  { name := "equals"
    parameters := [⟨"obj", .named "java.lang.Object"⟩]
    result := .primitive .bool
    tags := [.ofKind .override]
    body := .equals (comparedFields object) }

/-- The method that hashes an entity. -/
def hashCodeMethod (object : BusinessObject) : Method :=
  { name := "hashCode"
    result := .primitive .int
    tags := [.ofKind .override]
    body := .hashCode (comparedFields object) }

/-- The methods of an entity. -/
def entityMethods (object : BusinessObject) : List Method :=
  object.fields.flatMap (fun field => accessors field.name (memberType field.type) field.type) ++
    accessors persistenceId generatedType .long ++
    accessors persistenceVersion generatedType .long ++
    [equalsMethod object, hashCodeMethod object]

/-! ## Classes -/

/-- The class of an object that is stored. -/
def serverEntity (object : BusinessObject) : Except ClassFault ClassSpec := do
  checkTypeName object.qualifiedName
  let table ← tableTag object
  return {
    qualifiedName := object.qualifiedName
    doc := object.description
    tags := [(Tag.ofKind .entity).set "name" (.text object.simpleName), table] ++ queryTags object
    interfaces := [entityMarker]
    fields := object.fields.map fieldMember ++ [idMember, versionMember]
    methods := entityMethods object }

/-- The class of an object. -/
def entityClass (variant : Variant) (object : BusinessObject) : Except ClassFault ClassSpec := do
  let spec ← serverEntity object
  match variant with
  | .server => return spec
  | .client => return spec.withoutPersistence

end EntityGen.Blueprint
