import RecordSchema.Settings

/-!
# Arguments

`Command.parse` reads the arguments of the program: the name of a command, then its options and
operands in any order. The value of an option stands behind it, or in the same word.
-/

namespace RecordSchema.CommandLine

/-- What the program is asked to do. -/
inductive Command where
  /-- Load all definitions and list them. -/
  | check (settings : String) (given : SettingsOverride)
  /-- Decode a document as an instance of a type. -/
  | validate (typeName document settings : String) (given : SettingsOverride)
  /-- Write a file of settings. -/
  | init (output : String) (force : Bool)
deriving DecidableEq

/-- What is wrong with the arguments. -/
inductive UsageError where
  | noCommand
  | unknownCommand (name : String)
  | unknownOption (name : String)
  | missingValue (name : String)
  | unexpectedValue (name : String)
  | repeatedOption (name : String)
  | missing (name : String)
  | unexpected (word : String)
  | notASize (value : String)
deriving DecidableEq

/-- The text of the error. -/
def UsageError.message : UsageError → String
  | .noCommand => "a command is required: check, validate or init"
  | .unknownCommand name => "unknown command '" ++ name ++ "'"
  | .unknownOption name => "unknown option '" ++ name ++ "'"
  | .missingValue name => "option '" ++ name ++ "' needs a value"
  | .unexpectedValue name => "option '" ++ name ++ "' takes no value"
  | .repeatedOption name => "option '" ++ name ++ "' is given more than once"
  | .missing name => "missing argument '" ++ name ++ "'"
  | .unexpected word => "unexpected argument '" ++ word ++ "'"
  | .notASize value => "'" ++ value ++ "' is not a size"

/-- An option of a command: its name, the letter that stands for it, whether it takes a value. -/
structure OptionForm where
  name : String
  letter : Option Char
  takesValue : Bool

/-- The options and operands that are given. An option without a value has the empty one. -/
structure Given where
  values : Entries String
  operands : List String

namespace Given

/-- Nothing given. -/
def none : Given :=
  ⟨[], []⟩

/-- Gives an option its value. -/
def addValue (given : Given) (name value : String) : Except UsageError Given :=
  if given.values.has name then .error (.repeatedOption name)
  else .ok { given with values := given.values.put name value }

/-- Adds an operand. -/
def addOperand (given : Given) (word : String) : Given :=
  { given with operands := given.operands ++ [word] }

end Given

/-- The word can be the value of an option that stands before it. -/
def isValue (word : String) : Bool :=
  word = "-" || !word.startsWith "-"

/-- Takes the value of an option from its own word or from the next one. -/
def takeValue (name : String) (attached : Option String) (rest : List String) :
    Except UsageError (String × List String) :=
  match attached, rest with
  | some value, rest => .ok (value, rest)
  | none, word :: rest => if isValue word then .ok (word, rest) else .error (.missingValue name)
  | none, [] => .error (.missingValue name)

/-- Reads a word that starts with two hyphens, behind them. -/
def readLong (options : List OptionForm) (given : Given) (word : List Char) (rest : List String) :
    Except UsageError (Given × List String) :=
  let name := String.ofList (word.takeWhile (· != '='))
  let attached := match word.dropWhile (· != '=') with
    | [] => none
    | _ :: value => some (String.ofList value)
  match options.find? (·.name == name), attached with
  | none, _ => .error (.unknownOption ("--" ++ name))
  | some option, attached =>
      if option.takesValue then do
        let (value, rest) ← takeValue name attached rest
        return (← given.addValue name value, rest)
      else if attached.isSome then .error (.unexpectedValue name)
      else do return (← given.addValue name "", rest)

/-- Reads a word of letters that starts with one hyphen, behind it. -/
def readLetters (options : List OptionForm) (rest : List String) :
    Given → List Char → Except UsageError (Given × List String)
  | given, [] => .ok (given, rest)
  | given, letter :: letters =>
      match options.find? (·.letter == some letter) with
      | none => .error (.unknownOption ("-" ++ letter.toString))
      | some option =>
          if option.takesValue then do
            let attached := match letters with
              | [] => none
              -- An equals sign between the letter and its value is no part of the value.
              | '=' :: value => some (String.ofList value)
              | value => some (String.ofList value)
            let (value, rest) ← takeValue option.name attached rest
            return (← given.addValue option.name value, rest)
          else do readLetters options rest (← given.addValue option.name "") letters

/-- Reads words to their end. Behind `--` all words are operands. -/
def readWords (options : List OptionForm) : Nat → Given → List String → Except UsageError Given
  | 0, given, _ => .ok given
  | _ + 1, given, [] => .ok given
  | fuel + 1, given, word :: rest =>
      match word.toList with
      | ['-', '-'] => .ok (rest.foldl Given.addOperand given)
      | '-' :: '-' :: name => do
          let (given, rest) ← readLong options given name rest
          readWords options fuel given rest
      | '-' :: letter :: letters => do
          let (given, rest) ← readLetters options rest given (letter :: letters)
          readWords options fuel given rest
      | _ => readWords options fuel (given.addOperand word) rest

/-- Reads all words. -/
def readAll (options : List OptionForm) (words : List String) : Except UsageError Given :=
  readWords options (words.length + 1) .none words

/-- Reads a size. -/
def size (value : String) : Except UsageError Nat :=
  let digits := match value.toList with
    | '+' :: digits => digits
    | digits => digits
  let n := digits.foldl (fun n c ↦ 10 * n + (c.toNat - '0'.toNat)) 0
  if digits.isEmpty || !digits.all Char.isDigit || Settings.maxSize < n then
    .error (.notASize value)
  else .ok n

/-- There are no operands behind those that a command takes. -/
def noMore : List String → Except UsageError Unit
  | [] => .ok ()
  | word :: _ => .error (.unexpected word)

namespace Command

/-- The option that names the file of settings. -/
def settingsOption : OptionForm := ⟨"config", some 'c', true⟩

/-- The option that names the folder of definitions. -/
def inputOption : OptionForm := ⟨"input", some 'i', true⟩

/-- The file of settings that is named, or the usual one. -/
def settingsFile (given : Given) : String :=
  (given.values.get? "config").getD Settings.fileName

/-- Reads the arguments of `check`. -/
def parseCheck (words : List String) : Except UsageError Command := do
  let given ← readAll [inputOption, ⟨"filter", none, true⟩, settingsOption] words
  noMore given.operands
  return .check (settingsFile given) ⟨given.values.get? "input", given.values.get? "filter", none⟩

/-- Reads the arguments of `validate`. -/
def parseValidate (words : List String) : Except UsageError Command := do
  let given ← readAll
    [⟨"type", some 't', true⟩, inputOption, settingsOption, ⟨"width", none, true⟩] words
  let width ← (given.values.get? "width").mapM size
  match given.values.get? "type", given.operands with
  | none, _ => .error (.missing "--type")
  | some _, [] => .error (.missing "document")
  | some typeName, document :: more =>
      noMore more
      return .validate typeName document (settingsFile given)
        ⟨given.values.get? "input", none, width⟩

/-- Reads the arguments of `init`. -/
def parseInit (words : List String) : Except UsageError Command := do
  let given ← readAll [⟨"output", some 'o', true⟩, ⟨"force", none, false⟩] words
  noMore given.operands
  return .init ((given.values.get? "output").getD Settings.fileName) (given.values.has "force")

/-- Reads the arguments of the program. -/
def parse : List String → Except UsageError Command
  | [] => .error .noCommand
  | "check" :: words => parseCheck words
  | "validate" :: words => parseValidate words
  | "init" :: words => parseInit words
  | name :: _ => .error (.unknownCommand name)

end Command

end RecordSchema.CommandLine
