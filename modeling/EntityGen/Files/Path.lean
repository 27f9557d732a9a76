/-
  Files/Path.lean --- paths.

  Source: the specification, section 4.5: a file has a path below the output directory, made
  of the namespace and the simple name.

  Paths are texts whose components are separated by slashes. Empty components and components
  `.` mean nothing, except for a slash at the start, which is the root, and a `.` at the
  start. Taking a parent or a relative path keeps the spelling of what is left.

  Paths are compared and joined as texts of components. What a path leads to is a question
  for a volume.
-/
import EntityGen.Text.Pieces

set_option autoImplicit false

namespace EntityGen.Files.Path

/-- What a path is made of. -/
inductive Component where
  | root
  /-- the current directory, at the start of a path -/
  | current
  /-- the parent directory -/
  | parent
  /-- an entry of this name -/
  | named (name : String)
  deriving DecidableEq, Repr, Inhabited

/-- The pieces of a path between slashes. -/
def segments (path : String) : List String :=
  Text.split '/' path

/-- The path starts at the root. -/
def isAbsolute (path : String) : Bool :=
  path.toList.head? == some '/'

/-- What a piece means after the start of a path. -/
def inner? (segment : String) : Option Component :=
  if segment == "" || segment == "." then none
  else if segment == ".." then some .parent
  else some (.named segment)

/-- What the first piece of a path means; an empty one that others follow is the root. -/
def first? (segment : String) (more : Bool) : Option Component :=
  if segment == "" then (if more then some .root else none)
  else if segment == "." then some .current
  else inner? segment

/-- The pieces of a path, each with what it means. -/
def meanings (path : String) : List (String × Option Component) :=
  match segments path with
  | [] => []
  | segment :: rest => (segment, first? segment !rest.isEmpty) :: rest.map fun s => (s, inner? s)

/-- The components of a path. -/
def components (path : String) : List Component :=
  (meanings path).filterMap (·.2)

/-- The spelling of pieces; the root alone is a slash. -/
def spell (pieces : List (String × Option Component)) : String :=
  if pieces.map (·.2) = [some .root] then "/" else Text.join "/" (pieces.map (·.1))

/-- The pieces without those at the end that mean nothing. -/
def dropIdleEnd (pieces : List (String × Option Component)) : List (String × Option Component) :=
  (pieces.reverse.dropWhile fun piece => piece.2.isNone).reverse

/-- One path behind another. An absolute path stays as it is. -/
def join (base path : String) : String :=
  if isAbsolute path then path
  else if base.isEmpty || base.toList.getLast? == some '/' then base ++ path
  else base ++ "/" ++ path

/-- The path without its last component; none for the root and for a path without components. -/
def parent? (path : String) : Option String :=
  let pieces := dropIdleEnd (meanings path)
  match pieces.getLast? with
  | none => none
  | some (_, some .root) => none
  | some _ => some (spell (dropIdleEnd pieces.dropLast))

/-- The pieces that are left after the components of another path; none if the path does not start
with them. -/
def afterComponents : List Component → List (String × Option Component) →
    Option (List (String × Option Component))
  | [], pieces => some pieces
  | _ :: _, [] => none
  | expected, (_, none) :: pieces => afterComponents expected pieces
  | component :: expected, (_, some met) :: pieces =>
    if met = component then afterComponents expected pieces else none

/-- The path relative to another one, if it lies under it. -/
def relativeTo? (base path : String) : Option String :=
  let expected := components base
  (afterComponents expected (meanings path)).map fun pieces =>
    let trimmed :=
      if expected.isEmpty then pieces else pieces.dropWhile fun piece => piece.2.isNone
    spell (dropIdleEnd trimmed)

end EntityGen.Files.Path
