import RecordSchema.Definition.Basic

/-!
# Definition documents

A document declares patterns and types in one JSON object with the members `patterns` and `types`.
A structured field type can name a pattern of the document or one that is known before.
-/

namespace RecordSchema

/-- What a document declares, in its order. -/
structure Document where
  patterns : PatternLibrary
  definitions : List TypeDefinition

namespace Document

/-- The members of an object at a place of a document. -/
def object (location : String) (value : Json) : Except TypeError (Entries Json) :=
  match value.members? with
  | some members => .ok members
  | none => .error (.invalidDocument location .notAnObject)

/-- All members have allowed names. -/
def checkKeys (location : String) (allowed : List String) (members : Entries Json) :
    Except TypeError Unit :=
  match members.names.find? (!allowed.contains ·) with
  | some key => .error (.invalidDocument location (.unexpectedKey key))
  | none => .ok ()

/-- Reads the source and flags of a pattern. -/
def patternSource (location : String) : Json → Except TypeError (String × String)
  | .string source => .ok (source, "")
  | .object members => do
      checkKeys location ["regex", "flags"] members
      match (Entries.get? "regex" members).bind (·.string?), Entries.get? "flags" members with
      | none, _ => .error (.invalidDocument location .regexNotString)
      | some source, none => return (source, "")
      | some source, some (.string flags) => return (source, flags)
      | some _, some _ => .error (.invalidDocument location .flagsNotString)
  | _ => .error (.invalidDocument location .notAPattern)

/-- Reads a pattern. -/
def pattern (name : String) (value : Json) : Except TypeError Pattern := do
  let location := "patterns." ++ name
  let (source, flags) ← patternSource location value
  (Pattern.compile source flags).mapError fun error ↦ .invalidDocument location (.pattern error)

/-- Reads the fields of a record or of a variant. -/
def fields (patterns : PatternLibrary) (location : String) (value : Json) :
    Except TypeError Fields := do
  let members ← object location value
  let read ← members.mapM fun (field, expression) ↦ do
    let type ← (FieldType.ofJson patterns expression).mapError .malformedFieldType
    return (field, type)
  return .ofList read

/-- Reads the variants of a union. -/
def variants (patterns : PatternLibrary) (location : String) (value : Json) :
    Except TypeError (Entries Fields) := do
  let members ← object location value
  let read ← members.mapM fun (variant, value) ↦ do
    return (variant, ← fields patterns (location ++ "." ++ variant) value)
  return .ofList read

/-- Reads a type. -/
def definition (patterns : PatternLibrary) (name : String) (value : Json) :
    Except TypeError TypeDefinition := do
  let location := "types." ++ name
  let members ← object location value
  checkKeys location ["fields", "variants", "id_field"] members
  let read ← match members.get? "fields", members.get? "variants" with
    | some value, none => do
        TypeDefinition.record name (← fields patterns (location ++ ".fields") value)
    | none, some value => do
        TypeDefinition.union name (← variants patterns (location ++ ".variants") value)
    | _, _ => .error (.invalidDocument location .fieldsOrVariants)
  match members.get? "id_field" with
  | none => return read
  | some (.string field) => return read.withIdField field
  | some _ => .error (.invalidDocument (location ++ ".id_field") .notAString)

/-- The members of an optional part of a document. -/
def part (name : String) (members : Entries Json) : Except TypeError (Entries Json) :=
  match members.get? name with
  | some value => object name value
  | none => .ok []

/-- Reads a document; `known` are the patterns that are known before. -/
def ofJson (known : PatternLibrary) (value : Json) : Except TypeError Document := do
  let members ← object "document" value
  checkKeys "document" ["patterns", "types"] members
  let patterns ← (← part "patterns" members).mapM fun (name, value) ↦
    return (name, ← pattern name value)
  -- Fields may name the patterns of the document, wherever these stand in it.
  let library := known.putAll patterns
  let definitions ← (← part "types" members).mapM fun (name, value) ↦
    definition library name value
  return ⟨patterns, definitions⟩

/-- The document declares nothing. -/
def isEmpty (document : Document) : Bool :=
  document.patterns.isEmpty && document.definitions.isEmpty

end Document

end RecordSchema
