import RecordSchema.Files.Filter
import RecordSchema.Ignore.Levels
import RecordSchema.Settings

/-!
# Scanning for definition files

`scan` finds the definition files below a folder, sorted by the steps of their paths. Files that are
ignored, and the configuration of the program itself, are left out.
-/

namespace RecordSchema

/-- The languages in which definition files are written. -/
inductive FileFormat where
  | json
  | toml
deriving DecidableEq

namespace FileFormat

/-- The extension of the files. -/
def extension : FileFormat → String
  | json => "json"
  | toml => "toml"

/-- The format that the name of a file shows by its extension. -/
def ofName? (name : String) : Option FileFormat :=
  [json, toml].find? fun format ↦
    let ending := "." ++ format.extension
    name.endsWith ending && name != ending

end FileFormat

/-- A definition file: the place below the folder that was scanned, the path, and the text. -/
structure DefinitionFile where
  place : String
  path : String
  format : FileFormat
  text : String
deriving DecidableEq

/-- Why scanning fails. -/
inductive ScanError where
  | notAFolder (root : String)
  | noDefinitions (root : String)
  | filter (text : String) (error : FilterError)
  | unreadable (path : String) (error : FileError)
deriving DecidableEq

/-- The text of the error. -/
def ScanError.message : ScanError → String
  | .notAFolder root => "Directory not found: " ++ root
  | .noDefinitions root => "No definition files (*.json, *.toml) found in: " ++ root
  | .filter text error => "Invalid filter pattern '" ++ text ++ "': " ++ error.message
  | .unreadable path error => "IO error scanning " ++ path ++ ": " ++ error.message

/-- What is scanned: a folder, with or without the ignore files of repositories, and a filter of the
places in it. -/
structure ScanOptions where
  root : String
  usesRepository : Bool
  filter : Option String
deriving DecidableEq

namespace ScanOptions

/-- The filter of places; no filter lets every place through. -/
def placeFilter (options : ScanOptions) : Except ScanError (String → Bool) :=
  match options.filter with
  | none => .ok fun _ ↦ true
  | some text =>
      match PathFilter.parse text with
      | .ok filter => .ok filter.accepts
      | .error error => .error (.filter text error)

end ScanOptions

/-- The definition file that was found at a place, if it is one. -/
def DefinitionFile.ofFound? (root : String) (accepts : String → Bool)
    (found : Ignore.FoundFile) : Except ScanError (Option DefinitionFile) :=
  let name := found.place.getLastD ""
  let place := "/".intercalate found.place
  if name = Settings.fileName then .ok none
  else
    match FileFormat.ofName? name with
    | none => .ok none
    | some format =>
        if accepts place then
          let path := found.place.foldl joinPath root
          match textOf found.content with
          | .ok text => .ok (some ⟨place, path, format, text⟩)
          | .error error => .error (.unreadable path error)
        else .ok none

/-- The order of places: step by step, and a place before those that go on from it. -/
def inOrder : List String → List String → Bool
  | [], _ => true
  | _ :: _, [] => false
  | a :: as, b :: bs => a < b || (a == b && inOrder as bs)

/-- Finds the definition files of a folder, if there is such a folder. -/
def scan (options : ScanOptions) (view : Option FolderView) :
    Except ScanError (List DefinitionFile) := do
  let accepts ← options.placeFilter
  match view with
  | none => .error (.notAFolder options.root)
  | some view =>
      let found := (Ignore.filesBelow options.usesRepository view).mergeSort
        fun a b ↦ inOrder a.place b.place
      let files ← found.filterMapM (DefinitionFile.ofFound? options.root accepts)
      if files.isEmpty then .error (.noDefinitions options.root) else return files

end RecordSchema
