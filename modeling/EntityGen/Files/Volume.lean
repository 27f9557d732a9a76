/-
  Files/Volume.lean --- what is asked of a file system.

  Source: the specification, section 4.5 (staging and replacing) and section 5: concurrent
  runs are not coordinated.

  What writing and reading files asks of a file system. Every operation either takes effect
  or says that it failed. A temporary file is known by a handle until it is moved to its
  place or discarded.

  A volume is a parameter of the writing of files. What may be expected of one is stated as
  laws in `Proofs/Files/Lawful.lean`.
-/

set_option autoImplicit false

namespace EntityGen.Files

/-- The operations of a file system, with handles for temporary files. -/
structure Volume (m : Type → Type) (Handle : Type) where
  /-- Makes a directory and the missing directories on the way to it; whether it is there. -/
  makeDirectories : String → m Bool
  /-- Makes an empty temporary file in a directory. -/
  createTemporary : String → m (Option Handle)
  /-- Writes a text into a temporary file that everyone may read; whether it did. -/
  fill : Handle → String → m Bool
  /-- Moves a temporary file to a path, in place of the file there; whether it did. -/
  moveTo : Handle → String → m Bool
  /-- Removes a temporary file. -/
  discard : Handle → m Unit
  /-- The text of a file; none if there is no file or its bytes are no text. -/
  readText : String → m (Option String)

end EntityGen.Files
