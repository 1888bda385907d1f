import RecordSchema.CommandLine.Run
import RecordSchema.Files.System

/-!
# The program

`main` runs the command line on the files of the disk.
-/

namespace RecordSchema

/-- What a failure of the system means for a file. -/
def fileError : IO.Error → FileError
  | .noFileOrDirectory .. => .notFound
  | .inappropriateType .. => .notAFolder
  | error => .other error.toString

/-- Does something with a file, where failures are results. -/
def attempt {α : Type} (action : IO α) : IO (Except FileError α) := do
  try return .ok (← action)
  catch error => return .error (fileError error)

/-- The full path of a file or folder, if there is one. -/
def fullPath? (path : String) : IO (Option String) := do
  try return some (← IO.FS.realPath path).toString
  catch _ => return none

/-- There is a folder at the path. -/
def isFolder (path : String) : IO Bool := do
  try return (← (← IO.FS.realPath path).isDir)
  catch _ => return false

/-- A file or folder with everything in it. -/
partial def treeAt (path : String) : IO FileTree := do
  if ← isFolder path then
    let entries ← (← IO.FS.realPath path).readDir
    let entries ← entries.toList.mapM fun entry ↦ do
      return (entry.fileName, ← treeAt (joinPath path entry.fileName))
    return .folder entries
  else
    try return .file (← IO.FS.readBinFile path)
    catch _ => return .file .empty

/-- The entries of a folder that tell what is ignored below it. -/
def ignoreEntries (path : String) : IO Folder := do
  let places := [[".ignore"], [".gitignore"], [".jj"], [".git"], [".git", "info", "exclude"]]
  places.foldlM (fun folder place ↦ do
    let found := place.foldl joinPath path
    if (← fullPath? found).isNone then return folder
    let tree ← if ← isFolder found then pure (.folder []) else treeAt found
    return Folder.insert tree place folder) []

/-- The folders on the way down these names, the last one first. -/
def foldersAround (found : List (String × Folder)) (path : String) :
    List String → IO (List (String × Folder))
  | [] => return found
  | name :: rest => do
      let entries ← ignoreEntries path
      foldersAround ((name, entries) :: found) (joinPath path name) rest

/-- Reads a file of the disk. -/
def readFile (path : String) : IO (Except FileError ByteArray) := do
  if ← isFolder path then return .error .isAFolder
  else attempt (IO.FS.readBinFile path)

/-- Reads a folder of the disk. -/
def readFolder? (path : String) : IO (Option FolderView) := do
  match ← fullPath? path with
  | none => return none
  | some full =>
      match ← treeAt full with
      | .file _ => return none
      | .folder entries =>
          let names := (full.splitOn "/").filter (!·.isEmpty)
          return some ⟨entries, ← foldersAround [] "/" names⟩

/-- Writes a file of the disk. -/
def writeFile (path text : String) : IO (Except FileError Unit) := do
  if ← isFolder path then return .error .isAFolder
  else attempt (IO.FS.writeFile path text)

/-- The files of the disk. -/
def disk : FileAccess IO where
  has path := return (← fullPath? path).isSome
  read := readFile
  folder? := readFolder?
  write := writeFile

end RecordSchema

open RecordSchema in
/-- Runs the program. -/
def main (arguments : List String) : IO UInt32 := do
  let outcome ← CommandLine.run disk arguments
  outcome.lines.forM IO.println
  outcome.errorLines.forM IO.eprintln
  return outcome.exitCode.toUInt32
