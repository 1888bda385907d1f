import RecordSchema.FieldType.Basic
import RecordSchema.Text.Blank
import RecordSchema.Text.Identifier

/-!
# Reading field types

`FieldType.parse` reads the notation of field types. A mark of optionality is taken off first, then
either the braces of a keyed collection or any number of array brackets; what is left is a pattern
between slashes, a keyword or the name of a type. Blanks may stand at the ends of each part.
-/

namespace RecordSchema

open Text

/-- What is wrong with an expression that is no field type. -/
inductive FieldTypeFault where
  | empty
  | optionalWithoutType
  | keyedWithoutType (found : String)
  | keyedWithoutKey (found : String)
  | emptyElement
  | unbalancedBrackets
  | keyedInArray
  | misplacedOptional
  | unterminatedPattern
  | emptyPattern
  | pattern (error : PatternError)
  | unrecognized (found : String)
  | notAReference
  | optionalNotBoolean
  | unknownShape
  | regexNotString
  | flagsNotString
  | unknownPattern (name : String)
  | incompletePattern
deriving DecidableEq

/-- The text of the fault. -/
def FieldTypeFault.message : FieldTypeFault → String
  | .empty => "empty expression"
  | .optionalWithoutType => "optional marker without a type"
  | .keyedWithoutType found => "keyed collection needs a type name, got '" ++ found ++ "'"
  | .keyedWithoutKey found => "keyed collection needs a key field name, got '" ++ found ++ "'"
  | .emptyElement => "empty array element type"
  | .unbalancedBrackets => "unbalanced array brackets"
  | .keyedInArray => "keyed collections cannot be nested in arrays"
  | .misplacedOptional => "optional marker must be the last character of the expression"
  | .unterminatedPattern => "unterminated regex literal"
  | .emptyPattern => "empty regex literal"
  | .pattern error => error.message
  | .unrecognized found =>
      "'" ++ found ++ "' is neither a primitive, a regex literal nor a type name"
  | .notAReference => "expected a string or a reference object"
  | .optionalNotBoolean => "'optional' must be a boolean"
  | .unknownShape => "unrecognized reference shape"
  | .regexNotString => "'regex' must be a string"
  | .flagsNotString => "'flags' must be a string"
  | .unknownPattern name => "unknown named pattern '" ++ name ++ "'"
  | .incompletePattern => "inline pattern needs 'name' and 'regex'"

/-- An expression that is no field type, with what is wrong with it. -/
structure MalformedFieldType where
  expression : String
  fault : FieldTypeFault
deriving DecidableEq

/-- The text of the error. -/
def MalformedFieldType.message (error : MalformedFieldType) : String :=
  "malformed field type `" ++ error.expression ++ "`: " ++ error.fault.message

namespace FieldType

/-- The text without its last character, if that is `last`. -/
def dropLast? (last : Char) (text : List Char) : Option (List Char) :=
  if text.getLast? = some last then some text.dropLast else none

/-- The text between `first` and `last`, if it starts and ends with them. -/
def between? (first last : Char) : List Char → Option (List Char)
  | [] => none
  | c :: rest => if c = first then dropLast? last rest else none

theorem length_lt_of_between? {first last : Char} {text inner : List Char}
    (h : between? first last text = some inner) : inner.length < text.length := by
  cases text with
  | nil => simp [between?] at h
  | cons c rest =>
      simp only [between?, dropLast?] at h
      split at h <;> try contradiction
      split at h <;> try contradiction
      simp only [Option.some.injEq] at h
      rw [← h, List.length_dropLast, List.length_cons]
      omega

theorem length_trim_le (text : List Char) : (trim text).length ≤ text.length := by
  have h (l : List Char) : (l.dropWhile isBlank).length ≤ l.length :=
    (List.dropWhile_sublist _).length_le
  simp only [trim, trimEnd, trimStart, List.length_reverse]
  exact Nat.le_trans (h _) (by simpa using h text)

/-- Takes pairs of array brackets off a text and counts them. -/
def stripBrackets (depth : Nat) (text : List Char) : Nat × List Char :=
  match h : between? '[' ']' text with
  | some inner => stripBrackets (depth + 1) (trim inner)
  | none => (depth, text)
termination_by text.length
decreasing_by exact Nat.lt_of_le_of_lt (length_trim_le inner) (length_lt_of_between? h)

/-- Reads a pattern, behind its first slash. The last slash ends its source. -/
def pattern? (text : List Char) : Except FieldTypeFault Pattern :=
  let flags := (text.reverse.takeWhile (· != '/')).reverse
  match dropLast? '/' (text.take (text.length - flags.length)) with
  | none => .error .unterminatedPattern
  | some [] => .error .emptyPattern
  | some source =>
      match Pattern.compile (String.ofList source) (String.ofList flags) with
      | .ok pattern => .ok pattern
      | .error error => .error (.pattern error)

/-- Reads what stands inside all brackets: a pattern, a keyword or the name of a type. -/
def core? (text : List Char) : Except FieldTypeFault Rule :=
  match text with
  | '/' :: rest => (pattern? rest).map .regex
  | _ =>
      match (BaseType.ofKeyword? (String.ofList text)).bind (·.rule?) with
      | some rule => .ok rule
      | none =>
          if isIdentifierChars text then .ok (.tagged (String.ofList text))
          else .error (.unrecognized (String.ofList text))

/-- Reads a rule inside any number of array brackets. -/
def nested? (text : List Char) : Except FieldTypeFault (Rule × Nat) :=
  let (depth, rest) := stripBrackets 0 text
  if rest.isEmpty then .error .emptyElement
  else if rest.head? = some '[' || rest.getLast? = some ']' then .error .unbalancedBrackets
  else if rest.head? = some '{' || rest.getLast? = some '}' then .error .keyedInArray
  else if rest.getLast? = some '?' then .error .misplacedOptional
  else (core? rest).map fun rule ↦ (rule, depth)

/-- Reads a keyed collection, between its braces. The first colon stands before the key. -/
def keyed? (inner : List Char) : Except FieldTypeFault Rule :=
  let typeName := trim (inner.takeWhile (· != ':'))
  if !isIdentifierChars typeName then .error (.keyedWithoutType (String.ofList typeName))
  else
    match inner.dropWhile (· != ':') with
    | [] => .ok (.keyed (String.ofList typeName) none)
    | _ :: key =>
        let key := trim key
        if isIdentifierChars key then
          .ok (.keyed (String.ofList typeName) (some (String.ofList key)))
        else .error (.keyedWithoutKey (String.ofList key))

/-- Reads a field type. -/
def parseChars (text : List Char) : Except FieldTypeFault FieldType :=
  let trimmed := trim text
  if trimmed.isEmpty then .error .empty
  else
    let (body, isOptional) := match dropLast? '?' trimmed with
      | some rest => (trimEnd rest, true)
      | none => (trimmed, false)
    if body.isEmpty then .error .optionalWithoutType
    else do
      let (rule, depth) ← match between? '{' '}' body with
        | some inner => (keyed? inner).map fun rule ↦ (rule, 0)
        | none => nested? body
      return ⟨rule, isOptional, depth, some (String.ofList trimmed)⟩

/-- Reads a field type, and says of which expression it was if there is none. -/
def parse (expression : String) : Except MalformedFieldType FieldType :=
  (parseChars expression.toList).mapError fun fault ↦ ⟨expression, fault⟩

example : (parse " [[ Number ]] ? ").toOption.map (·.text) = some "[[Number]]?" := by
  decide +kernel

example : (parse "[{Account}]").toOption.isNone := by decide +kernel

end FieldType

end RecordSchema
