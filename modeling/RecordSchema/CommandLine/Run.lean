import RecordSchema.CommandLine.Arguments
import RecordSchema.Handle.Basic
import RecordSchema.Registry.Loading
import RecordSchema.Registry.Order

/-!
# Running commands

`run` does what the arguments ask for, with access to files, and gives the lines to print. A command
prints lines until it is done or an error ends it.
-/

namespace RecordSchema.CommandLine

/-- What ends a command before it is done. -/
inductive CommandError where
  | scan (error : ScanError)
  | load (error : LoadError)
  | settings (error : SettingsError)
  | type (error : TypeError)
  | rejected (error : TypeError)
  | alreadyExists (path : String)
  | file (error : FileError)
  | usage (error : UsageError)

namespace CommandError

/-- The text of the error. -/
def message : CommandError → String
  | scan error => "Failed to scan directory: " ++ error.message
  | load error => "Failed to load definitions: " ++ error.message
  | settings error => "Failed to load configuration: " ++ error.message
  | type error => error.message
  | rejected error => "Validation failed: " ++ error.message
  | alreadyExists path => "File already exists: " ++ path ++ " (use --force to overwrite)"
  | file error => "IO error: " ++ error.message
  | usage error => error.message

/-- The code with which the program exits. -/
def exitCode : CommandError → Nat
  | rejected _ | usage _ => 2
  | _ => 1

end CommandError

/-- What is left of a command: the code, the lines printed, and the error that ended it. -/
structure Outcome where
  exitCode : Nat
  lines : List String
  error : Option CommandError

/-- The lines of the error. -/
def Outcome.errorLines (outcome : Outcome) : List String :=
  outcome.error.toList.map fun error ↦ "Error: " ++ error.message

/-- A command at work: it prints lines and may end with an error. -/
abbrev Session (m : Type → Type) := ExceptT CommandError (StateT (List String) m)

namespace Session

variable {m : Type → Type} [Monad m]

/-- Prints a line. -/
def say (line : String) : Session m Unit :=
  modifyGet fun lines ↦ ((), lines ++ [line])

/-- Goes on with a result, or ends with the error. -/
def orEnd {α ε : Type} (error : ε → CommandError) : Except ε α → Session m α
  | .ok a => pure a
  | .error e => throw (error e)

/-- Asks for something outside. -/
def ask {α : Type} (action : m α) : Session m α :=
  (action : StateT (List String) m α)

/-- The outcome of a command. -/
def outcome (session : Session m Unit) : m Outcome := do
  let (result, lines) ← session.run.run []
  match result with
  | .ok () => return ⟨0, lines, none⟩
  | .error error => return ⟨error.exitCode, lines, some error⟩

end Session

variable {m : Type → Type} [Monad m]

open CommandLine.Session

/-- Loads the settings. -/
def settings (files : FileAccess m) (path : String) (given : SettingsOverride) :
    Session m Settings := do
  orEnd .settings (← ask (Settings.load files path given))

/-- Scans for definition files and loads them. -/
def definitions (files : FileAccess m) (settings : Settings) : Session m LoadedDefinitions := do
  say "Scanning for definition files..."
  let view ← ask (files.folder? settings.folder)
  let found ← orEnd .scan (scan ⟨settings.folder, settings.usesRepository, settings.filter⟩ view)
  say ("  Found " ++ toString found.length ++ " definition file(s)")
  orEnd .load (load settings.engine found)

/-- The line on a type: its signature, its kind, and the file that declares it. -/
def typeLine (loaded : LoadedDefinitions) (d : TypeDefinition) : String :=
  "  ✓ " ++ d.signature ++ " (" ++ d.kindText ++ ", "
    ++ (loaded.origins.get? d.name).getD "" ++ ")"

/-- The lines on the types of a registry, each type behind those that it refers to. -/
def typeLines (loaded : LoadedDefinitions) : List String :=
  let registry := loaded.registry
  (registry.dependencyOrder.filterMap registry.definition?).map (typeLine loaded)

/-- Loads all definitions and lists them. -/
def check (files : FileAccess m) (path : String) (given : SettingsOverride) :
    Session m Unit := do
  let loaded ← definitions files (← settings files path given)
  let registry := loaded.registry
  say ("  Declared " ++ toString registry.types.length ++ " type(s), "
    ++ toString registry.patterns.length ++ " pattern(s)")
  (typeLines loaded).forM say
  if let some cycle := registry.requiredCycle? then
    say ("Warning: these types require each other and can never be constructed: "
      ++ " -> ".intercalate cycle)
  say "✓ Definitions are valid"

/-- Reads the document at a path. -/
def readDocument (files : FileAccess m) (path : String) : Session m Json := do
  let content ← orEnd .file (← ask (files.read path))
  let text ← orEnd .file (textOf content)
  match Json.parse? text with
  | some document => return document
  | none => throw (.load (.syntaxError path))

/-- Decodes a document as an instance of a type. Only a type that is not declared is no fault of the
document. -/
def validate (files : FileAccess m) (typeName document path : String)
    (given : SettingsOverride) : Session m Unit := do
  let loaded ← definitions files (← settings files path given)
  say ("Validating " ++ document ++ " against " ++ typeName)
  let shape ← readDocument files document
  match loaded.registry.decode typeName shape with
  | .ok i =>
      say ("✓ " ++ document ++ " is a valid " ++ typeName)
      say (loaded.registry.render i)
  | .error error =>
      if error.code = .unknownType then throw (.type error)
      say ("✗ " ++ document ++ " is not a valid " ++ typeName)
      throw (.rejected error)

/-- Writes a file of settings. A file that is there stays, unless `force` is set. -/
def init (files : FileAccess m) (output : String) (force : Bool) : Session m Unit := do
  if (← ask (files.has output)) && !force then throw (.alreadyExists output)
  orEnd .file (← ask (files.write output Settings.template))
  say ("✓ Created configuration file: " ++ output)

/-- Does what a command asks for. -/
def perform (files : FileAccess m) : Command → Session m Unit
  | .check path given => check files path given
  | .validate typeName document path given => validate files typeName document path given
  | .init output force => init files output force

/-- Does what the arguments ask for. -/
def run (files : FileAccess m) (arguments : List String) : m Outcome :=
  Session.outcome do perform files (← orEnd .usage (Command.parse arguments))

end RecordSchema.CommandLine
