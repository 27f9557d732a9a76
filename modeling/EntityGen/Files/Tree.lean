/-
  Files/Tree.lean --- a volume in memory.

  Source: the specification, section 4.5, for what is asked of a file system; the limits are
  those of the systems the program was run on.

  A volume in memory: directories and files, each at a place below the root, and a working
  directory from which relative paths lead. A directory is there before anything in it.
  Names are at most 255 bytes long, paths at most 4095, and neither holds the null
  character. A temporary file is made under its absolute path, which leaves less room for
  its directory.

  The tree is a model of a file system for one program that runs alone. Links, rights of
  other users and a full disk are not modelled.
-/
import EntityGen.Files.Path
import EntityGen.Files.Volume
import EntityGen.Text.Search

set_option autoImplicit false

namespace EntityGen.Files

/-- The name of an entry of a directory. -/
inductive EntryName where
  /-- a name that was asked for -/
  | given (name : String)
  /-- the name of a temporary file, unlike any other -/
  | temporary (number : Nat)
  deriving DecidableEq, Repr, Inhabited

/-- What is shown of a name; temporary files all show alike. -/
def EntryName.text : EntryName → String
  | .given name => name
  | .temporary _ => ".tmp*"

/-- The names that lead from the root to an entry. -/
abbrev Place : Type := List EntryName

/-- What a directory holds under a name. -/
inductive TreeEntry where
  | directory
  /-- a file with its content and who may use it -/
  | file (content : ByteArray) (mode : Nat)

/-- Directories and files. -/
structure Tree where
  /-- The entries with their places, each place once. -/
  entries : List (Place × TreeEntry)
  /-- The number of the next temporary file. -/
  nextTemporary : Nat

namespace Tree

/-- The place of the working directory. -/
def workingPlace : Place := [.given "tmp", .given "workingdir"]

/-- A working directory without entries. -/
def empty : Tree :=
  ⟨[(workingPlace.dropLast, .directory), (workingPlace, .directory)], 0⟩

instance : Inhabited Tree := ⟨empty⟩

/-- The mode of a file that only its owner may use. -/
def ownerMode : Nat := 0o600

/-- The mode of a file that everyone may read. -/
def publicMode : Nat := 0o644

/-! ## Looking up -/

/-- What is at a place; the root is a directory. -/
def entry? (tree : Tree) (place : Place) : Option TreeEntry :=
  if place.isEmpty then some .directory else tree.entries.lookup place

/-- There is a directory at a place. -/
def isDirectory (tree : Tree) (place : Place) : Bool :=
  match tree.entry? place with
  | some .directory => true
  | _ => false

/-- The name can be that of an entry. -/
def isName (name : String) : Bool :=
  Text.byteLength name.toList ≤ 255

/-- The most bytes of a path. -/
def pathLimit : Nat := 4095

/-- The path can be that of an entry. -/
def isPath (path : String) : Bool :=
  !path.isEmpty && Text.byteLength path.toList ≤ pathLimit && !path.toList.contains '\x00'

/-- The place that one component leads to from a directory. The root is its own parent. -/
def follow (place : Place) : Path.Component → Option Place
  | .root => some []
  | .current => some place
  | .parent => some place.dropLast
  | .named name => if isName name then some (place ++ [.given name]) else none

/-- The directory that components lead to from a directory, all on the way being directories. -/
def walk (tree : Tree) : Place → List Path.Component → Option Place
  | place, [] => some place
  | place, component :: rest =>
    match follow place component with
    | some next => if tree.isDirectory next then tree.walk next rest else none
    | none => none

/-- The directory of a path. -/
def directory? (tree : Tree) (path : String) : Option Place :=
  if isPath path then tree.walk workingPlace (Path.components path) else none

/-- The place of a path whose last piece is the name of an entry of a directory. -/
def place? (tree : Tree) (path : String) : Option Place :=
  if isPath path then
    match (Path.segments path).getLast?.bind Path.inner? with
    | some (.named name) =>
      if isName name then
        (tree.walk workingPlace (Path.components path).dropLast).map (· ++ [.given name])
      else none
    | _ => none
  else none

/-- The text of a file; none if there is no file or its bytes are no text. -/
def text? (tree : Tree) (path : String) : Option String :=
  match (tree.place? path).bind tree.entry? with
  | some (.file content _) => String.fromUTF8? content
  | _ => none

/-- Who may use the file at a path. -/
def mode? (tree : Tree) (path : String) : Option Nat :=
  match (tree.place? path).bind tree.entry? with
  | some (.file _ mode) => some mode
  | _ => none

/-! ## Changing -/

/-- The entries with one put at a place, in place of what is there. -/
def putAt (place : Place) (entry : TreeEntry) :
    List (Place × TreeEntry) → List (Place × TreeEntry)
  | [] => [(place, entry)]
  | (other, old) :: rest =>
    if other = place then (place, entry) :: rest else (other, old) :: putAt place entry rest

/-- The tree with an entry put at a place. -/
def put (tree : Tree) (place : Place) (entry : TreeEntry) : Tree :=
  { tree with entries := putAt place entry tree.entries }

/-- The tree without the entry at a place. -/
def erase (tree : Tree) (place : Place) : Tree :=
  { tree with entries := tree.entries.filter fun entry => entry.1 != place }

/-- Makes the directories that components lead to from a directory. Those on the way stay made even
if a later one cannot be. -/
def makeAlong (tree : Tree) : Place → List Path.Component → Bool × Tree
  | _, [] => (true, tree)
  | place, component :: rest =>
    match follow place component with
    | none => (false, tree)
    | some next =>
      match tree.entry? next with
      | some .directory => tree.makeAlong next rest
      | some (.file _ _) => (false, tree)
      | none => (tree.put next .directory).makeAlong next rest

/-- Makes a directory and the missing directories on the way to it. -/
def makeDirectories (tree : Tree) (path : String) : Bool × Tree :=
  if isPath path then tree.makeAlong workingPlace (Path.components path) else (false, tree)

/-- Puts a file or a directory at a path, making the directories on the way. -/
def install (tree : Tree) (path : String) (entry : TreeEntry) : Tree :=
  let (made, tree) := ((Path.parent? path).filter (!·.isEmpty)).elim (true, tree)
    tree.makeDirectories
  match tree.place? path with
  | some place => if made then tree.put place entry else tree
  | none => tree

/-- Puts a text at a path. -/
def installText (tree : Tree) (path content : String) : Tree :=
  tree.install path (.file content.toUTF8 publicMode)

/-- The path of a place, from the directory at another place. -/
def pathFrom (base place : Place) : String :=
  Text.join "/" ((place.drop base.length).map EntryName.text)

/-- The bytes of the absolute path of a temporary file in a directory: its name has ten of them, and
a slash goes before it. -/
def temporaryPathSize (directory : String) : Nat :=
  let base := "/" ++ pathFrom [] workingPlace
  Text.byteLength (Path.join base directory).toList + 11

/-- Makes an empty temporary file in a directory. -/
def createTemporary (tree : Tree) (path : String) : Option Place × Tree :=
  match tree.directory? path with
  | some directory =>
    if temporaryPathSize path ≤ pathLimit then
      let place := directory ++ [.temporary tree.nextTemporary]
      (some place,
        { tree.put place (.file .empty ownerMode) with nextTemporary := tree.nextTemporary + 1 })
    else (none, tree)
  | none => (none, tree)

/-- Moves a file to a path, in place of the file there. -/
def moveTo (tree : Tree) (source : Place) (path : String) : Bool × Tree :=
  match tree.place? path, tree.entry? source with
  | some target, some (.file content mode) =>
    if tree.isDirectory target then (false, tree)
    else (true, (tree.erase source).put target (.file content mode))
  | _, _ => (false, tree)

/-! ## Showing -/

/-- Every entry below the working directory with its path from there; a directory has no content. -/
def listing (tree : Tree) : List (String × Option ByteArray) :=
  let inside := tree.entries.filter fun (place, _) =>
    workingPlace.isPrefixOf place && place != workingPlace
  inside.map fun (place, entry) =>
    (pathFrom workingPlace place,
      match entry with
      | .directory => none
      | .file content _ => some content)

end Tree

/-- A directory tree as a volume. -/
def treeVolume : Volume (StateM Tree) Place where
  makeDirectories path := fun tree => tree.makeDirectories path
  createTemporary path := fun tree => tree.createTemporary path
  fill place content := fun tree =>
    (true, tree.put place (.file content.toUTF8 Tree.publicMode))
  moveTo place path := fun tree => tree.moveTo place path
  discard place := fun tree => ((), tree.erase place)
  readText path := fun tree => (tree.text? path, tree)

end EntityGen.Files
