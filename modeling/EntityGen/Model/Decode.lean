/-
  Model/Decode.lean --- from values to business objects.

  Source: the specification, section 3 (model file format) and section 9.3: the file is
  mapped to business objects key by key.

  How the values of a document make business objects. The entries of a table are read in the
  order of their keys, and the first value that does not fit ends the reading; keys that are
  missing are noticed after all values were read, in the order in which a part lists them.
  Unknown keys are passed over. A list may stand for a part: its elements are taken in
  order, those with a default may be missing at the end, and further elements are passed
  over. A date or a time counts as a table with an unknown key.

  The order in which values are read matters because the first one that does not fit becomes
  the fault, with its span and its message.
-/
import EntityGen.Decimal.Binary64
import EntityGen.Model.Basic
import EntityGen.Model.Mismatch
import EntityGen.Text.Ascending
import EntityGen.Toml.Node

set_option autoImplicit false

namespace EntityGen.Model

open EntityGen.Toml
open EntityGen.Text (Span)

/-- A value that does not fit ends the reading. -/
abbrev Decoded (α : Type) : Type := Except Mismatch α

/-! ## Plain values -/

/-- What a whole number is found as: one of sixty-four bits, with or without a sign, or a wider one.
-/
def foundInteger (value : Int) : Except MismatchCause Found :=
  if -Int.pow 2 63 ≤ value && value < Int.pow 2 64 then .ok (.integer value)
  else if -Int.pow 2 127 ≤ value && value < Int.pow 2 127 then .ok (.wideInteger value "i128")
  else if 0 ≤ value && value < Int.pow 2 128 then .ok (.wideInteger value "u128")
  else .error .integerOverflow

/-- What a floating-point number is found as. -/
def foundFloat : FloatText → Except MismatchCause Found
  | .nan => .ok (.float "NaN")
  | .infinite negative => .ok (.float (if negative then "-inf" else "inf"))
  | .decimal negative digits exponent =>
    match Decimal.nearest digits exponent with
    | some x => .ok (.float ((if negative then "-" else "") ++ x.text))
    | none => .error .floatOverflow

/-- What a value is found as. -/
def found : Node → Except MismatchCause Found
  | .string _ text => .ok (.string text)
  | .scalar _ (.integer value) => foundInteger value
  | .scalar _ .valueless => .error .integerOverflow
  | .scalar _ (.float value) => foundFloat value
  | .scalar _ (.boolean value) => .ok (.boolean value)
  | .scalar _ .dateTime => .ok .map
  | .array _ _ => .ok .sequence
  | .tables _ _ => .ok .sequence
  | .table _ _ _ => .ok .map

/-- Refuses a value of a wrong kind. -/
def refuse {α : Type} (expected : Expected) (node : Node) : Decoded α :=
  match found node with
  | .ok found => .error ⟨.wrongKind found expected, node.span⟩
  | .error cause => .error ⟨cause, node.span⟩

/-- A string. -/
def decodeString : Node → Decoded String
  | .string _ text => .ok text
  | node => refuse .string node

/-- A boolean. -/
def decodeBoolean : Node → Decoded Bool
  | .scalar _ (.boolean value) => .ok value
  | node => refuse .boolean node

/-- A length. -/
def decodeLength : Node → Decoded UInt32
  | .scalar span (.integer value) =>
    match foundInteger value with
    | .ok (.integer _) =>
      if 0 ≤ value && value < Int.pow 2 32 then .ok (UInt32.ofNat value.toNat)
      else .error ⟨.outOfRange value, span⟩
    | _ => refuse .length (.scalar span (.integer value))
  | node => refuse .length node

/-- A list of values that `element` reads. -/
def decodeList {α : Type} (element : Node → Decoded α) : Node → Decoded (List α)
  | .array _ nodes => nodes.mapM element
  | .tables _ nodes => nodes.mapM element
  | node => refuse .sequence node

/-- A field type. A name that is none is refused at `span`, which is where the enclosing reader says
it stands. -/
def decodeFieldType (span : Span) (node : Node) : Decoded FieldType := do
  let name ← decodeString node
  match FieldType.ofLabel? name with
  | some type => return type
  | none => throw ⟨.unknownType name, span⟩

/-! ## Values that are passed over -/

/-- The entries in the order of their keys. -/
def inKeyOrder (entries : Entries) : Entries :=
  Text.ascendingBy (·.1) entries

mutual

/-- The numbers inside a value that nothing can hold, in the order in which they are read. -/
def unholdable : Node → List Mismatch
  | .string _ _ => []
  | .scalar span value =>
    match found (.scalar span value) with
    | .ok _ => []
    | .error cause => [⟨cause, span⟩]
  | .array _ nodes => unholdableAll nodes
  | .tables _ nodes => unholdableAll nodes
  | .table _ _ entries =>
    (Text.ascendingBy (·.1) (unholdableEntries entries)).flatMap (·.2)

/-- The numbers inside several values. -/
def unholdableAll : List Node → List Mismatch
  | [] => []
  | node :: rest => unholdable node ++ unholdableAll rest

/-- The numbers inside the values of a table, key by key. -/
def unholdableEntries : List (String × Node) → List (String × List Mismatch)
  | [] => []
  | (key, node) :: rest => (key, unholdable node) :: unholdableEntries rest

end

/-- Passes over the value of an unknown key. -/
def passOver (node : Node) : Decoded Unit :=
  match unholdable node with
  | [] => .ok ()
  | mismatch :: _ => .error mismatch

/-! ## Parts in either form -/

/-- The value of a key that has to be there. -/
def required {α : Type} (span : Span) (key : String) (value : Option α) : Decoded α :=
  match value with
  | some value => .ok value
  | none => .error ⟨.missingKey key, span⟩

/-- The element of a list that stands for a part; it has to be there. -/
def elementAt {α : Type} (span : Span) (part : Part) (elements : List Node) (index : Nat)
    (decode : Node → Decoded α) : Decoded α :=
  match elements[index]? with
  | some node => decode node
  | none => .error ⟨.tooShort elements.length part, span⟩

/-- The element of a list that stands for a part, with what it is when it is missing. -/
def elementOr {α : Type} (default : α) (elements : List Node) (index : Nat)
    (decode : Node → Decoded α) : Decoded α :=
  match elements[index]? with
  | some node => decode node
  | none => .ok default

/-- A part of the model: the entries of a table make a draft, which has to be complete; a list gives
the values in order. -/
def decodePart {δ α : Type} (part : Part) (start : δ) (entry : δ → String × Node → Decoded δ)
    (complete : Span → δ → Decoded α) (ofList : Span → List Node → Decoded α) :
    Node → Decoded α
  | .table span _ entries => do complete span (← (inKeyOrder entries).foldlM entry start)
  | .scalar span .dateTime => complete span start
  | .array span elements => ofList span elements
  | .tables span elements => ofList span elements
  | node => refuse (.part part) node

/-! ## Fields -/

/-- The values of a field that were read so far. -/
structure FieldDraft where
  name : Option String
  type : Option FieldType
  nullable : Option Bool
  length : Option UInt32
  deriving Inhabited

/-- A field. It is nullable unless it says otherwise. -/
def decodeField : Node → Decoded Field :=
  decodePart .field (FieldDraft.mk none none none none)
    (fun draft (key, node) => do
      match key with
      | "name" => return { draft with name := some (← decodeString node) }
      | "type" => return { draft with type := some (← decodeFieldType node.span node) }
      | "nullable" => return { draft with nullable := some (← decodeBoolean node) }
      | "length" => return { draft with length := some (← decodeLength node) }
      | _ =>
        passOver node
        return draft)
    (fun span draft => do
      let name ← required span "name" draft.name
      let type ← required span "type" draft.type
      return ⟨name, type, draft.nullable.getD true, draft.length⟩)
    (fun span elements => do
      let name ← elementAt span .field elements 0 decodeString
      let type ← elementAt span .field elements 1 (decodeFieldType span)
      let nullable ← elementOr true elements 2 decodeBoolean
      let length ← elementOr none elements 3 fun node => some <$> decodeLength node
      return ⟨name, type, nullable, length⟩)

/-! ## Queries -/

/-- The values of a parameter that were read so far. -/
structure ParameterDraft where
  name : Option String
  className : Option String
  deriving Inhabited

/-- An input of a query. -/
def decodeParameter : Node → Decoded Parameter :=
  decodePart .parameter (ParameterDraft.mk none none)
    (fun draft (key, node) => do
      match key with
      | "name" => return { draft with name := some (← decodeString node) }
      | "class_name" => return { draft with className := some (← decodeString node) }
      | _ =>
        passOver node
        return draft)
    (fun span draft => do
      let name ← required span "name" draft.name
      let className ← required span "class_name" draft.className
      return ⟨name, className⟩)
    (fun span elements => do
      let name ← elementAt span .parameter elements 0 decodeString
      let className ← elementAt span .parameter elements 1 decodeString
      return ⟨name, className⟩)

/-- The values of a query that were read so far. -/
structure QueryDraft where
  name : Option String
  content : Option String
  returnType : Option String
  parameters : Option (List Parameter)
  deriving Inhabited

/-- A query. It has no inputs unless it lists some. -/
def decodeQuery : Node → Decoded Query :=
  decodePart .query (QueryDraft.mk none none none none)
    (fun draft (key, node) => do
      match key with
      | "name" => return { draft with name := some (← decodeString node) }
      | "content" => return { draft with content := some (← decodeString node) }
      | "return_type" => return { draft with returnType := some (← decodeString node) }
      | "parameters" =>
        return { draft with parameters := some (← decodeList decodeParameter node) }
      | _ =>
        passOver node
        return draft)
    (fun span draft => do
      let name ← required span "name" draft.name
      let content ← required span "content" draft.content
      let returnType ← required span "return_type" draft.returnType
      return ⟨name, content, returnType, draft.parameters.getD []⟩)
    (fun span elements => do
      let name ← elementAt span .query elements 0 decodeString
      let content ← elementAt span .query elements 1 decodeString
      let returnType ← elementAt span .query elements 2 decodeString
      let parameters ← elementOr [] elements 3 (decodeList decodeParameter)
      return ⟨name, content, returnType, parameters⟩)

/-! ## Unique constraints -/

/-- The values of a unique constraint that were read so far. -/
structure ConstraintDraft where
  name : Option String
  fields : Option (List String)
  deriving Inhabited

/-- A unique constraint. -/
def decodeConstraint : Node → Decoded UniqueConstraint :=
  decodePart .uniqueConstraint (ConstraintDraft.mk none none)
    (fun draft (key, node) => do
      match key with
      | "name" => return { draft with name := some (← decodeString node) }
      | "fields" => return { draft with fields := some (← decodeList decodeString node) }
      | _ =>
        passOver node
        return draft)
    (fun span draft => do
      let name ← required span "name" draft.name
      let fields ← required span "fields" draft.fields
      return ⟨name, fields⟩)
    (fun span elements => do
      let name ← elementAt span .uniqueConstraint elements 0 decodeString
      let fields ← elementAt span .uniqueConstraint elements 1 (decodeList decodeString)
      return ⟨name, fields⟩)

/-! ## Business objects -/

/-- The values of a business object that were read so far. -/
structure ObjectDraft where
  qualifiedName : Option String
  description : Option String
  fields : Option (List Field)
  queries : Option (List Query)
  uniqueConstraints : Option (List UniqueConstraint)
  deriving Inhabited

/-- A business object. All but its name may be missing from a table; a list needs the description
too. -/
def decodeObject : Node → Decoded BusinessObject :=
  decodePart .businessObject (ObjectDraft.mk none none none none none)
    (fun draft (key, node) => do
      match key with
      | "qualified_name" => return { draft with qualifiedName := some (← decodeString node) }
      | "description" => return { draft with description := some (← decodeString node) }
      | "fields" => return { draft with fields := some (← decodeList decodeField node) }
      | "queries" => return { draft with queries := some (← decodeList decodeQuery node) }
      | "unique_constraints" =>
        return { draft with uniqueConstraints := some (← decodeList decodeConstraint node) }
      | _ =>
        passOver node
        return draft)
    (fun span draft => do
      let qualifiedName ← required span "qualified_name" draft.qualifiedName
      return ⟨qualifiedName, draft.description, draft.fields.getD [], draft.queries.getD [],
        draft.uniqueConstraints.getD []⟩)
    (fun span elements => do
      let qualifiedName ← elementAt span .businessObject elements 0 decodeString
      let description ← elementAt span .businessObject elements 1 decodeString
      let fields ← elementOr [] elements 2 (decodeList decodeField)
      let queries ← elementOr [] elements 3 (decodeList decodeQuery)
      let constraints ← elementOr [] elements 4 (decodeList decodeConstraint)
      return ⟨qualifiedName, some description, fields, queries, constraints⟩)

/-- The business objects of a document. -/
def decodeDocument (entries : Entries) : Decoded (List BusinessObject) :=
  (inKeyOrder entries).foldlM
    (fun objects (key, node) => do
      match key with
      | "business_objects" => decodeList decodeObject node
      | _ =>
        passOver node
        return objects)
    []

end EntityGen.Model
