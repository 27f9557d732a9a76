/-
  Main.lean --- the program on a machine.

  Source: the specification, section 6. This is the only file with input and output.

  The command line on the file system of the machine. An operation on files that raises an
  error counts as failed.

  Nothing is proved here. Everything that is decided is decided in `CommandLine/Run.lean`,
  over a volume that is a parameter.
-/
import EntityGen.CommandLine.Run

set_option autoImplicit false

namespace EntityGen

open EntityGen.Files (Volume)

/-- A temporary file that is open for writing. -/
structure OpenFile where
  path : String
  /-- The file. -/
  handle : IO.FS.Handle

/-- Whether an action ends without an error. -/
def succeeds (action : IO Unit) : IO Bool :=
  try
    action
    return true
  catch _ => return false

/-- The result of an action that ends without an error. -/
def attempt {α : Type} (action : IO α) : IO (Option α) :=
  try
    return some (← action)
  catch _ => return none

/-- A name for a temporary file. -/
def temporaryName : IO String := do
  let bytes ← IO.getRandomBytes 8
  return ".tmp" ++ String.join (bytes.toList.map toString)

/-- Everyone may read a file, and its owner may write it. -/
def publicRights : IO.FileRight where
  user := { read := true, write := true }
  group := { read := true }
  other := { read := true }

/-- The file system of the machine. -/
def machineVolume : Volume IO OpenFile where
  makeDirectories path := succeeds (IO.FS.createDirAll path)
  createTemporary directory := attempt do
    let path := Files.Path.join directory (← temporaryName)
    return ⟨path, ← IO.FS.Handle.mk path .writeNew⟩
  fill file content := succeeds do
    file.handle.putStr content
    file.handle.flush
    IO.setAccessRights file.path publicRights
  moveTo file path := succeeds (IO.FS.rename file.path path)
  discard file := do
    let _ ← succeeds (IO.FS.removeFile file.path)
  readText path := attempt (IO.FS.readFile path)

end EntityGen

/-- Runs the program with the words of its command line. -/
def main (words : List String) : IO UInt32 := do
  let outcome ← EntityGen.CommandLine.run EntityGen.machineVolume words
  (← IO.getStdout).putStr outcome.results
  (← IO.getStderr).putStr outcome.remarks
  return outcome.exitCode
