import RecordSchema.Config
import RecordSchema.Files.Basic
import RecordSchema.Toml.Reader

/-!
# Settings

The settings of the program say where definitions are found and how the registry is configured. They
are read from a TOML file, in which everything can be left out, and some can be given anew for one
run.
-/

namespace RecordSchema

/-- The settings of the program. -/
structure Settings where
  /-- The folder of definition files. -/
  folder : String
  /-- The filter of definition files. -/
  filter : Option String
  /-- The ignore files of repositories count. -/
  usesRepository : Bool
  engine : EngineConfig
deriving DecidableEq

/-- What is wrong with a value of the settings. -/
inductive SettingsFault where
  | zeroWidth
  | emptyVariantKey
deriving DecidableEq

namespace SettingsFault

/-- The name of the value. -/
def key : SettingsFault → String
  | zeroWidth => "format.max_width"
  | emptyVariantKey => "codec.variant_key"

/-- What the value has to be. -/
def requirement : SettingsFault → String
  | zeroWidth => "must be greater than zero"
  | emptyVariantKey => "must not be empty"

end SettingsFault

/-- Why there are no settings. -/
inductive SettingsError where
  | invalidToml (path : String)
  | invalidValue (fault : SettingsFault)
  | unreadable (path : String) (error : FileError)
deriving DecidableEq

/-- The text of the error. -/
def SettingsError.message : SettingsError → String
  | .invalidToml path => "Invalid TOML in " ++ path
  | .invalidValue fault =>
      "Invalid configuration value for '" ++ fault.key ++ "': " ++ fault.requirement
  | .unreadable path error => "Failed to read config " ++ path ++ ": " ++ error.message

/-- What is given anew for one run. -/
structure SettingsOverride where
  folder : Option String
  filter : Option String
  maxWidth : Option Nat
deriving DecidableEq

namespace Settings

/-- The name of the file in which settings are looked for. -/
def fileName : String := "tagged.toml"

/-- The settings where nothing is said. -/
def standard : Settings :=
  ⟨"./types", none, true, .standard⟩

/-- The largest size that settings can hold. -/
def maxSize : Nat := 0xffffffffffffffff

open EngineConfig (members? orDefault bool? layout? codec?)

/-- Reads the settings of the definition files. -/
def definitions? (engine : EngineConfig) (value : Json) : Option Settings :=
  match members? true ["dir", "filter", "respect_gitignore"] value with
  | some [folder, filter, usesRepository] => do
      let folder ← orDefault standard.folder Json.string? folder
      let filter ← orDefault standard.filter (fun value ↦ value.string?.map some) filter
      let usesRepository ← orDefault standard.usesRepository bool? usesRepository
      return ⟨folder, filter, usesRepository, engine⟩
  | _ => none

/-- The sizes are none that settings cannot hold. -/
def sizesFit (layout : LayoutConfig) : Bool :=
  layout.maxWidth ≤ maxSize && layout.indent ≤ maxSize

/-- Reads settings. -/
def ofJson? (value : Json) : Option Settings :=
  match members? true ["definitions", "format", "codec"] value with
  | some [definitions, layout, codec] => do
      let layout ← orDefault .standard (layout? true) layout
      let codec ← orDefault .standard (codec? true) codec
      let settings ← orDefault { standard with engine := ⟨layout, codec⟩ }
        (definitions? ⟨layout, codec⟩) definitions
      if sizesFit layout then some settings else none
  | _ => none

/-- The settings can be used. -/
def check (settings : Settings) : Except SettingsError Unit :=
  if settings.engine.layout.maxWidth = 0 then .error (.invalidValue .zeroWidth)
  else if settings.engine.codec.variantKey = "" then .error (.invalidValue .emptyVariantKey)
  else .ok ()

/-- The settings with what is given anew. -/
def override (settings : Settings) (given : SettingsOverride) : Settings :=
  { settings with
    folder := given.folder.getD settings.folder
    filter := given.filter <|> settings.filter
    engine := { settings.engine with
      layout := { settings.engine.layout with
        maxWidth := given.maxWidth.getD settings.engine.layout.maxWidth } } }

/-- The settings that the file at a path holds. -/
def ofContent (path : String) (content : ByteArray) : Except SettingsError Settings := do
  let text ← (textOf content).mapError fun error ↦ .unreadable path error
  match (Toml.parse? text).bind ofJson? with
  | none => .error (.invalidToml path)
  | some settings =>
      settings.check
      return settings

/-- The settings of a file, or the standard ones if there is no such file, with what is given anew.
They are checked as they are read and as they are used. -/
def load {m : Type → Type} [Monad m] (files : FileAccess m) (path : String)
    (given : SettingsOverride) : m (Except SettingsError Settings) := do
  let found ←
    if ← files.has path then
      match ← files.read path with
      | .ok content => pure (ofContent path content)
      | .error error => pure (.error (.unreadable path error))
    else pure (.ok standard)
  return do
    let settings := (← found).override given
    settings.check
    return settings

/-- The content of a new file of settings: all values as they are anyway, explained. -/
def template : String :=
  "# tagged configuration file\n\n"
    ++ "[definitions]\n"
    ++ "# Directory scanned (recursively) for *.json and *.toml definition files\n"
    ++ "dir = \"./types\"\n\n"
    ++ "# Only load files whose path relative to `dir` matches this glob\n"
    ++ "# filter = \"billing/**\"\n\n"
    ++ "# Skip files ignored by .gitignore\n"
    ++ "respect_gitignore = true\n\n"
    ++ "[format]\n"
    ++ "# Rendered instances longer than this break into one field per line\n"
    ++ "max_width = 80\n\n"
    ++ "# Spaces per nesting level when a rendering breaks\n"
    ++ "indent = 4\n\n"
    ++ "[codec]\n"
    ++ "# Key carrying the variant name of encoded union instances\n"
    ++ "variant_key = \"@tag\"\n\n"
    ++ "# Decode JSON null in a field as an absent value\n"
    ++ "null_as_absent = true\n"

end Settings

end RecordSchema
