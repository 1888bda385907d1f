import RecordSchema.Definition.Declaration
import RecordSchema.Definition.Document
import RecordSchema.Registry.Basic

/-!
# Building registries

`Declarations` collects patterns, types and codecs. `Declarations.build` resolves every reference
against all of them, so the order of the types has no effect on what their fields mean.
-/

namespace RecordSchema

/-- What has been declared so far. -/
structure Declarations where
  patterns : PatternLibrary
  definitions : List TypeDefinition
  codecs : List (String × Codec)
  config : EngineConfig

namespace Declarations

/-- Nothing declared yet. -/
def empty (config : EngineConfig) : Declarations :=
  ⟨[], [], [], config⟩

/-- Declares a pattern. One of the same name is replaced. -/
def addPattern (d : Declarations) (name : String) (pattern : Pattern) : Declarations :=
  { d with patterns := d.patterns.put name pattern }

/-- Declares a type. -/
def addDefinition (d : Declarations) (definition : TypeDefinition) : Declarations :=
  { d with definitions := d.definitions ++ [definition] }

/-- Declares the patterns and types of a document. -/
def addDocument (d : Declarations) (document : Json) : Except TypeError Declarations := do
  let read ← Document.ofJson d.patterns document
  return { d with
    patterns := d.patterns.putAll read.patterns
    definitions := d.definitions ++ read.definitions }

/-- Gives a type a codec. -/
def addCodec (d : Declarations) (typeName : String) (codec : Codec) : Declarations :=
  { d with codecs := d.codecs ++ [(typeName, codec)] }

/-- The definitions by name. No name is declared twice, or is that of a pattern. -/
def declared (patterns : PatternLibrary) (found : Entries TypeDefinition) :
    List TypeDefinition → Except TypeError (Entries TypeDefinition)
  | [] => .ok found
  | d :: rest =>
      if patterns.has d.name || found.has d.name then .error (.duplicateType d.name)
      else declared patterns (found ++ [(d.name, d)]) rest

/-- Resolves a rule. The name of a pattern can stand where the name of a type can, and the key of a
keyed collection is a field of every instance of its type. -/
def resolveRule (types : Entries TypeDefinition) (patterns : PatternLibrary)
    (owner field : String) : Rule → Except TypeError Rule
  | .tagged typeName =>
      if types.has typeName then .ok (.tagged typeName)
      else
        match patterns.get? typeName with
        | some pattern => .ok (.pattern typeName pattern)
        | none => .error (.unresolvedReference owner field typeName)
  | .keyed typeName idField =>
      match types.get? typeName with
      | none => .error (.unresolvedReference owner field typeName)
      | some target =>
          let key := (idField <|> target.idField).getD defaultIdField
          if target.hasFieldEverywhere key then .ok (.keyed typeName (some key))
          else .error (.missingIdField typeName key (owner ++ "." ++ field))
  | rule => .ok rule

/-- Resolves the fields of a definition. -/
def resolve (types : Entries TypeDefinition) (patterns : PatternLibrary) (d : TypeDefinition) :
    Except TypeError TypeDefinition := do
  let shape ← d.shape.mapTypes fun field type ↦ do
    let rule ← resolveRule types patterns d.name field type.rule
    return { type with rule }
  return { d with shape }

/-- Gives one type after the other its codec; the last one given counts. -/
def withCodecs (types : Entries RegisteredType) :
    List (String × Codec) → Except TypeError (Entries RegisteredType)
  | [] => .ok types
  | (typeName, codec) :: rest =>
      match types.get? typeName with
      | some entry => withCodecs (types.put typeName { entry with codec }) rest
      | none => .error (.unknownType typeName)

/-- Builds the registry with this number. -/
def build (d : Declarations) (number : Nat) : Except TypeError Registry := do
  let types ← declared d.patterns [] d.definitions
  let resolved ← types.mapM fun (name, definition) ↦ do
    let definition ← resolve types d.patterns definition
    return (name, RegisteredType.mk definition .standard)
  return ⟨number, ← withCodecs resolved d.codecs, d.patterns, d.config⟩

end Declarations

end RecordSchema
