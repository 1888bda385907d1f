import RecordSchema.FieldType.Parser
import RecordSchema.Json.Basic

/-!
# Structured field types

Where a field type stands in a JSON document it is a string in the notation of field types, or an
object that spells out a pattern or names a shared one.
-/

namespace RecordSchema

namespace FieldType

/-- A required string that matches the pattern. -/
def ofPattern (pattern : Pattern) : FieldType :=
  ofRule (.regex pattern)

/-- A string that matches a shared pattern. -/
def ofNamedPattern (name : String) (pattern : Pattern) (isOptional : Bool) : FieldType :=
  { ofRule (.pattern name pattern) with isOptional }

/-- Compiles a pattern of a structured field type. -/
def compilePattern (source flags : String) : Except FieldTypeFault Pattern :=
  (Pattern.compile source flags).mapError .pattern

/-- Reads the pattern that an object spells out. -/
def ofRegexMember (members : Entries Json) (regex : Json) : Except FieldTypeFault FieldType := do
  let source ← (regex.string?).elim (.error .regexNotString) .ok
  let flags ← match members.get? "flags" with
    | none => .ok ""
    | some (.string flags) => .ok flags
    | some _ => .error .flagsNotString
  return ofPattern (← compilePattern source flags)

/-- Reads the shared pattern that an object names, or the named pattern that it holds. -/
def namedPattern (patterns : PatternLibrary) :
    Option Json → Except FieldTypeFault (String × Pattern)
  | some (.string name) =>
      match patterns.get? name with
      | some pattern => .ok (name, pattern)
      | none => .error (.unknownPattern name)
  | some (.object inner) =>
      match (Entries.get? "name" inner).bind (·.string?),
          (Entries.get? "regex" inner).bind (·.string?) with
      | some name, some source => return (name, ← compilePattern source "")
      | _, _ => .error .incompletePattern
  | _ => .error .unknownShape

/-- Reads the members of a structured field type. -/
def ofMembers (patterns : PatternLibrary) (members : Entries Json) :
    Except FieldTypeFault FieldType := do
  let optional ← match members.get? "optional" with
    | none => .ok none
    | some (.bool flag) => .ok (some flag)
    | some _ => .error .optionalNotBoolean
  match members.get? "regex" with
  | some regex =>
      if members.has "pattern" || optional.isSome then .error .unknownShape
      else ofRegexMember members regex
  | none =>
      let (name, pattern) ← namedPattern patterns (members.get? "pattern")
      return ofNamedPattern name pattern (optional.getD false)

/-- Reads a structured field type; a failure tells the JSON text of the value. -/
def ofReference (patterns : PatternLibrary) (value : Json) :
    Except MalformedFieldType FieldType :=
  let read := match value.members? with
    | some members => ofMembers patterns members
    | none => .error .notAReference
  read.mapError fun fault ↦ ⟨value.compact, fault⟩

/-- Reads a field type in a document: a string in the notation, or a structured field type. -/
def ofJson (patterns : PatternLibrary) : Json → Except MalformedFieldType FieldType
  | .string expression => parse expression
  | value => ofReference patterns value

end FieldType

end RecordSchema
