import RecordSchema.Entries
import RecordSchema.Text.Parts

/-!
# Files

A `FileTree` is a file or a folder with everything in it. `FileAccess` is what a program can ask of
the place where its files are kept, whether that is a disk or a tree in memory.
-/

namespace RecordSchema

/-- A file or a folder. -/
inductive FileTree where
  | file (content : ByteArray)
  | folder (entries : List (String × FileTree))

/-- The entries of a folder, by name. -/
abbrev Folder := Entries FileTree

namespace FileTree

/-- The entries, if it is a folder. -/
def folder? : FileTree → Option Folder
  | .file _ => none
  | .folder entries => some entries

/-- The content, if it is a file. -/
def content? : FileTree → Option ByteArray
  | .file content => some content
  | .folder _ => none

end FileTree

/-- A folder as it is found: its entries, and the folders around it, the nearest first. Each of
those stands with the name of the next folder on the way down. -/
structure FolderView where
  entries : Folder
  around : List (String × Folder)

/-- Why a file cannot be read or written. -/
inductive FileError where
  | notFound
  | notAFolder
  | isAFolder
  | notText
  | other (message : String)
deriving DecidableEq

/-- The text of the error. -/
def FileError.message : FileError → String
  | .notFound => "No such file or directory (os error 2)"
  | .notAFolder => "Not a directory (os error 20)"
  | .isAFolder => "Is a directory (os error 21)"
  | .notText => "stream did not contain valid UTF-8"
  | .other message => message

/-- Where files are kept. Every operation takes the path of a file or folder. -/
structure FileAccess (m : Type → Type) where
  /-- There is a file or folder at the path. -/
  has : String → m Bool
  /-- The content of a file. -/
  read : String → m (Except FileError ByteArray)
  /-- The folder at the path, if there is one. -/
  folder? : String → m (Option FolderView)
  /-- Gives the file at the path this text. -/
  write : String → String → m (Except FileError Unit)

/-- The text of a file. -/
def textOf (content : ByteArray) : Except FileError String :=
  match String.fromUTF8? content with
  | some text => .ok text
  | none => .error .notText

/-- The path of an entry of the folder at a path. -/
def joinPath (folder name : String) : String :=
  if folder.isEmpty || folder.endsWith "/" then folder ++ name else folder ++ "/" ++ name

example :
    joinPath "types" "a.json" = "types/a.json" ∧ joinPath "types/" "a.json" = "types/a.json" := by
  decide +kernel

end RecordSchema
