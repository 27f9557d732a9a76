/-
  Blueprint/Tag.lean --- tags and their attributes.

  Source: the specification, section 3 (metadata tags) and the glossary.

  Metadata on classes, fields and methods: a kind, and named attributes in the order in
  which they were first set. Setting an attribute again replaces its value where it stands.
-/

set_option autoImplicit false

namespace EntityGen.Blueprint

/-- What a tag says. -/
inductive TagKind where
  /-- the class is stored -/
  | entity
  /-- where it is stored -/
  | table
  /-- where a field is stored -/
  | column
  /-- the field identifies the object -/
  | id
  /-- the value is made by the store -/
  | generatedValue
  /-- the field counts the changes of the object -/
  | version
  /-- the precision of a moment in time -/
  | temporal
  /-- the value is large -/
  | lob
  /-- the queries of a class -/
  | namedQueries
  | namedQuery
  /-- columns whose values together occur once -/
  | uniqueConstraint
  /-- the method replaces an inherited one -/
  | override
  deriving DecidableEq, Repr, Inhabited

namespace TagKind

/-- Every kind of tag. -/
def all : List TagKind :=
  [entity, table, column, id, generatedValue, version, temporal, lob, namedQueries, namedQuery,
    uniqueConstraint, override]

/-- The name of the kind. -/
def label : TagKind → String
  | entity => "entity"
  | table => "table"
  | column => "column"
  | id => "id"
  | generatedValue => "generated_value"
  | version => "version"
  | temporal => "temporal"
  | lob => "lob"
  | namedQueries => "named_queries"
  | namedQuery => "named_query"
  | uniqueConstraint => "unique_constraint"
  | override => "override"

/-- The tag is about how objects are stored. -/
def isPersistence : TagKind → Bool
  | override => false
  | _ => true

end TagKind

mutual

/-- The value of an attribute. -/
inductive TagValue where
  | text (text : String)
  | flag (value : Bool)
  /-- a whole number -/
  | number (value : Int)
  /-- a constant of the type that goes with the kind of the tag -/
  | constant (name : String)
  | texts (items : List String)
  | tags (nested : List Tag)

/-- A kind with named attributes. -/
inductive Tag where
  /-- the tag of this kind with these attributes -/
  | mk (kind : TagKind) (attributes : List (String × TagValue))

end

instance : Inhabited TagValue := ⟨.flag false⟩

instance : Inhabited Tag := ⟨.mk .override []⟩

/-- The name of an attribute that needs no name when it is the only one. -/
def valueAttribute : String := "value"

namespace Tag

/-- What the tag says. -/
def kind : Tag → TagKind
  | mk kind _ => kind

/-- The attributes, in the order in which they were first set. -/
def attributes : Tag → List (String × TagValue)
  | mk _ attributes => attributes

/-- The tag without attributes. -/
def ofKind (kind : TagKind) : Tag :=
  mk kind []

/-- The attributes with one set: its value is replaced where it stands, or added at the end. -/
def setIn (name : String) (value : TagValue) :
    List (String × TagValue) → List (String × TagValue)
  | [] => [(name, value)]
  | (key, old) :: rest =>
    if key = name then (key, value) :: rest else (key, old) :: setIn name value rest

/-- Setting an attribute changes no other one. -/
theorem lookup_setIn (name key : String) (value : TagValue)
    (attributes : List (String × TagValue)) :
    (setIn name value attributes).lookup key =
      if key = name then some value else attributes.lookup key := by
  induction attributes with
  | nil =>
    by_cases h : key = name
    · simp [setIn, h]
    · simp [setIn, List.lookup_cons, h, beq_false_of_ne h]
  | cons first rest ih =>
    obtain ⟨other, old⟩ := first
    by_cases h : key = other
    · by_cases same : other = name <;> simp [setIn, same, h]
    · by_cases same : other = name
      · subst same
        simp [setIn, List.lookup_cons, h, beq_false_of_ne h]
      · simp [setIn, List.lookup_cons, same, beq_false_of_ne h, ih]

/-- A name that is set again keeps its place; a new name comes last. -/
theorem names_setIn (name : String) (value : TagValue) (attributes : List (String × TagValue)) :
    (setIn name value attributes).map Prod.fst =
      if name ∈ attributes.map Prod.fst then attributes.map Prod.fst
      else attributes.map Prod.fst ++ [name] := by
  induction attributes with
  | nil => rfl
  | cons first rest ih =>
    obtain ⟨other, old⟩ := first
    by_cases same : other = name
    · simp [setIn, same]
    · by_cases later : name ∈ rest.map Prod.fst
      · simp [setIn, same, ih, later]
      · simp [setIn, same, ih, later, Ne.symm same]

/-- The tag with one attribute set. -/
def set (tag : Tag) (name : String) (value : TagValue) : Tag :=
  mk tag.kind (setIn name value tag.attributes)

/-- The tag with its unnamed attribute set. -/
def setValue (tag : Tag) (value : TagValue) : Tag :=
  tag.set valueAttribute value

/-- The value of an attribute. -/
def get? (tag : Tag) (name : String) : Option TagValue :=
  tag.attributes.lookup name

/-- The value of an attribute that is a text. -/
def text? (tag : Tag) (name : String) : Option String :=
  match tag.get? name with
  | some (.text text) => some text
  | _ => none

end Tag

/-! ## Tags of a declaration -/

/-- The first tag of a kind. -/
def findTag? (tags : List Tag) (kind : TagKind) : Option Tag :=
  tags.find? fun tag => tag.kind == kind

/-- There is a tag of a kind. -/
def hasTag (tags : List Tag) (kind : TagKind) : Bool :=
  tags.any fun tag => tag.kind == kind

/-- The tags that are not about how objects are stored. -/
def withoutPersistence (tags : List Tag) : List Tag :=
  tags.filter fun tag => !tag.kind.isPersistence

end EntityGen.Blueprint
