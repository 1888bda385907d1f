import RecordSchema.Definition.Scan
import RecordSchema.Json.Reader
import RecordSchema.Registry.Build

/-!
# Loading definition files

`load` makes one registry from definition files. Each file is read for itself, so that a broken one
does not hide what is wrong with the others; only when all can be read are the types of all files
resolved against each other.
-/

namespace RecordSchema

/-- What is wrong with definition files: one of them cannot be parsed or declares something that
cannot be, or the declarations do not fit together. Several errors are told as one. -/
inductive LoadError where
  | syntaxError (place : String)
  | definition (place : String) (error : TypeError)
  | build (error : TypeError)
  | multiple (errors : List LoadError)

namespace LoadError

mutual

/-- The text of the error. -/
def message : LoadError → String
  | syntaxError place => "Syntax error in " ++ place
  | definition place error => place ++ ": " ++ error.message
  | build error => error.message
  | multiple errors => "Multiple load errors:\n" ++ "\n".intercalate (numbered 1 errors)

/-- The texts of errors with their numbers, which go on from `first`. -/
def numbered (first : Nat) : List LoadError → List String
  | [] => []
  | error :: rest => ("  " ++ toString first ++ ". " ++ error.message) :: numbered (first + 1) rest

end

/-- Tells errors as one; a single one stands for itself. -/
def collect : List LoadError → Option LoadError
  | [] => none
  | [error] => some error
  | errors => some (multiple errors)

mutual

/-- The errors that are told as one, in the order in which they were found. -/
def intoErrors : LoadError → List LoadError
  | multiple errors => flattened errors
  | error => [error]

/-- The errors that are told by each of the errors. -/
def flattened : List LoadError → List LoadError
  | [] => []
  | error :: rest => intoErrors error ++ flattened rest

end

end LoadError

/-- A registry, and the place of the file that declares each of its types. -/
structure LoadedDefinitions where
  registry : Registry
  origins : Entries String

mutual

/-- All integers in a value are such as fit 64 bits with or without a sign. -/
def integersFit : Json → Bool
  | .number (.integer n) => -0x8000000000000000 ≤ n && n < 0x10000000000000000
  | .array items => itemsFit items
  | .object members => membersFit members
  | _ => true

/-- All integers in the items fit. -/
def itemsFit : List Json → Bool
  | [] => true
  | item :: rest => integersFit item && itemsFit rest

/-- All integers in the members fit. -/
def membersFit : List (String × Json) → Bool
  | [] => true
  | (_, value) :: rest => integersFit value && membersFit rest

end

namespace DefinitionFile

/-- The document that the text of a file spells. -/
def document? (file : DefinitionFile) : Option Json :=
  match file.format with
  | .json => Json.parse? file.text
  | .toml => (Toml.parse? file.text).filter integersFit

/-- Reads a file; `known` are the patterns of the files before. -/
def read (known : PatternLibrary) (file : DefinitionFile) : Except LoadError Document :=
  match file.document? with
  | none => .error (.syntaxError file.place)
  | some document => (Document.ofJson known document).mapError (.definition file.place)

end DefinitionFile

/-- The files read so far: their patterns, their definitions with the places where they stand, and
what is wrong with those that could not be read. -/
structure FilesRead where
  patterns : PatternLibrary
  definitions : List (String × TypeDefinition)
  errors : List LoadError

namespace FilesRead

/-- Nothing read yet. -/
def empty : FilesRead :=
  ⟨[], [], []⟩

/-- Reads one more file. A broken one adds nothing but what is wrong with it. -/
def add (read : FilesRead) (file : DefinitionFile) : FilesRead :=
  match file.read read.patterns with
  | .error error => { read with errors := read.errors ++ [error] }
  | .ok document =>
      { read with
        patterns := read.patterns.putAll document.patterns
        definitions := read.definitions ++ document.definitions.map fun d ↦ (file.place, d) }

/-- Reads files in their order. -/
def ofFiles (files : List DefinitionFile) : FilesRead :=
  files.foldl add empty

/-- Everything that the files declare. -/
def declarations (read : FilesRead) (config : EngineConfig) : Declarations :=
  ⟨read.patterns, read.definitions.map (·.2), [], config⟩

/-- The types with the places where they are declared. -/
def origins (read : FilesRead) : Entries String :=
  read.definitions.map fun (place, d) ↦ (d.name, place)

end FilesRead

/-- Makes a registry from definition files. -/
def load (config : EngineConfig) (files : List DefinitionFile) :
    Except LoadError LoadedDefinitions :=
  let read := FilesRead.ofFiles files
  match LoadError.collect read.errors with
  | some error => .error error
  | none =>
      match (read.declarations config).build 0 with
      | .ok registry => .ok ⟨registry, read.origins⟩
      | .error error => .error (.build error)

end RecordSchema
