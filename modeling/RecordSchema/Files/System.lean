import RecordSchema.Files.Basic

/-!
# Files in memory

A `FileSystem` is a tree of folders with a working folder, from which paths start that do not begin
with a slash. `FileSystem.access` gives access to it as a state.
-/

namespace RecordSchema

namespace Folder

/-- What is found below a folder under these names, one inside the other. -/
def find? : List String → Folder → Option FileTree
  | [], folder => some (.folder folder)
  | [name], folder => folder.get? name
  | name :: rest, folder => do find? rest (← (← folder.get? name).folder?)

/-- Puts a tree below a folder, with the folders on the way there. -/
def insert (tree : FileTree) : List String → Folder → Folder
  | [], folder => folder
  | [name], folder => folder.put name tree
  | name :: rest, folder =>
      let inner := ((folder.get? name).bind (·.folder?)).getD []
      folder.put name (.folder (insert tree rest inner))

/-- The folders passed on the way down these names, the last one first, each with the name that
leads on. -/
def along (found : List (String × Folder)) : List String → Folder → List (String × Folder)
  | [], _ => found
  | name :: rest, folder =>
      let inner := ((folder.get? name).bind (·.folder?)).getD []
      along ((name, folder) :: found) rest inner

end Folder

/-- Folders and files, and the names that lead to the working folder. -/
structure FileSystem where
  root : Folder
  current : List String

namespace FileSystem

/-- Takes one step of a path. The empty step and `.` stay in a folder and `..` leaves it. -/
def step (fs : FileSystem) (names : List String) (part : String) :
    Except FileError (List String) :=
  match Folder.find? names fs.root with
  | none => .error .notFound
  | some (.file _) => .error .notAFolder
  | some (.folder entries) =>
      if part = "" ∨ part = "." then .ok names
      else if part = ".." then .ok names.dropLast
      else if Entries.has part entries then .ok (names ++ [part])
      else .error .notFound

/-- The names that lead from the root to where a path leads. -/
def resolve (fs : FileSystem) (path : String) : Except FileError (List String) :=
  match Text.splitOn '/' path.toList with
  | [[]] => .error .notFound
  | [] :: parts => (parts.map String.ofList).foldlM fs.step []
  | parts => (parts.map String.ofList).foldlM fs.step fs.current

/-- What a path leads to. -/
def find (fs : FileSystem) (path : String) : Except FileError FileTree := do
  match Folder.find? (← fs.resolve path) fs.root with
  | some tree => return tree
  | none => .error .notFound

/-- Reads the file at a path. -/
def read (fs : FileSystem) (path : String) : Except FileError ByteArray := do
  match ← fs.find path with
  | .file content => return content
  | .folder _ => .error .isAFolder

/-- The folder at a path, with the folders around it. -/
def folder? (fs : FileSystem) (path : String) : Option FolderView :=
  match fs.resolve path with
  | .error _ => none
  | .ok names => do
      let entries ← (← Folder.find? names fs.root).folder?
      return ⟨entries, Folder.along [] names fs.root⟩

/-- Cuts the last name off a path. -/
def splitLast (path : String) : String × String :=
  let reversed := path.toList.reverse
  let name := reversed.takeWhile (· != '/')
  (String.ofList (reversed.drop name.length).reverse, String.ofList name.reverse)

/-- Writes the file at a path. Its folder has to be there. -/
def write (fs : FileSystem) (path text : String) : Except FileError FileSystem := do
  let trimmed := String.ofList (path.toList.reverse.dropWhile (· == '/')).reverse
  let (folder, name) := splitLast trimmed
  if path = "" then .error .notFound
  if name = "" ∨ name = "." ∨ name = ".." then
    let _ ← fs.resolve path
    .error .isAFolder
  let names ← fs.resolve (folder ++ ".")
  match Folder.find? (names ++ [name]) fs.root with
  | some (.folder _) => .error .isAFolder
  | _ =>
      if trimmed != path then .error .isAFolder
      else return { fs with root := Folder.insert (.file text.toUTF8) (names ++ [name]) fs.root }

/-- Access to files in memory. -/
def access : FileAccess (StateM FileSystem) where
  has path := do return (((← get).resolve path)).toBool
  read path := do return (← get).read path
  folder? path := do return (← get).folder? path
  write path text := do
    match (← get).write path text with
    | .ok fs => set fs; return .ok ()
    | .error error => return .error error

end FileSystem

end RecordSchema
