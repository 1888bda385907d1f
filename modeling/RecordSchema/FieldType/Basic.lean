import RecordSchema.Pattern

/-!
# Field types

A `FieldType` says which values a field takes: a rule for single values, how deep these are nested
in arrays, and whether the field may be absent. Its canonical text is the notation in which field
types are written, without blanks.
-/

namespace RecordSchema

/-- The rule that a single value has to meet. -/
inductive Rule where
  | string
  | number
  | boolean
  | object
  | date
  | any
  | regex (pattern : Pattern)
  | pattern (name : String) (pattern : Pattern)
  | tagged (typeName : String)
  | keyed (typeName : String) (idField : Option String)
deriving DecidableEq

/-- The families of rules. -/
inductive BaseType where
  | string
  | number
  | boolean
  | object
  | date
  | any
  | taggedReference
  | keyedCollection
deriving DecidableEq

namespace BaseType

/-- The keyword of a family that is a rule by itself. -/
def keyword? : BaseType → Option String
  | .string => some "String"
  | .number => some "Number"
  | .boolean => some "Boolean"
  | .object => some "Object"
  | .date => some "Date"
  | .any => some "Any"
  | .taggedReference | .keyedCollection => none

/-- The name of the family. -/
def text : BaseType → String
  | .string => "String"
  | .number => "Number"
  | .boolean => "Boolean"
  | .object => "Object"
  | .date => "Date"
  | .any => "Any"
  | .taggedReference => "TaggedReference"
  | .keyedCollection => "KeyedCollection"

/-- The family that a keyword stands for. -/
def ofKeyword? (keyword : String) : Option BaseType :=
  [string, number, boolean, object, date, any].find? (·.keyword? == some keyword)

/-- The rule that is the family itself. -/
def rule? : BaseType → Option Rule
  | .string => some .string
  | .number => some .number
  | .boolean => some .boolean
  | .object => some .object
  | .date => some .date
  | .any => some .any
  | .taggedReference | .keyedCollection => none

end BaseType

namespace Rule

/-- The family of the rule. Patterns constrain strings. -/
def base : Rule → BaseType
  | .string | .regex _ | .pattern _ _ => .string
  | .number => .number
  | .boolean => .boolean
  | .object => .object
  | .date => .date
  | .any => .any
  | .tagged _ => .taggedReference
  | .keyed _ _ => .keyedCollection

/-- The rule is written as a keyword. -/
def isPrimitive : Rule → Bool
  | .string | .number | .boolean | .object | .date | .any => true
  | _ => false

/-- The rule points at a declared type. -/
def isReference : Rule → Bool
  | .tagged _ | .keyed _ _ => true
  | _ => false

/-- The pattern that a string has to match. -/
def pattern? : Rule → Option Pattern
  | .regex p | .pattern _ p => some p
  | _ => none

/-- The name of the shared pattern that the rule takes its pattern from. -/
def patternName? : Rule → Option String
  | .pattern name _ => some name
  | _ => none

/-- The declared type that the rule points at. -/
def typeName? : Rule → Option String
  | .tagged typeName | .keyed typeName _ => some typeName
  | _ => none

/-- The field by which a keyed collection is keyed, where the rule says it. -/
def idField? : Rule → Option String
  | .keyed _ idField => idField
  | _ => none

/-- The canonical text of the rule, as characters. A shared pattern has no notation of its own and
is written out. -/
def chars : Rule → List Char
  | .regex p | .pattern _ p => p.chars
  | .tagged typeName => typeName.toList
  | .keyed typeName (some idField) =>
      '{' :: typeName.toList ++ ':' :: idField.toList ++ ['}']
  | .keyed typeName none => '{' :: typeName.toList ++ ['}']
  | rule => rule.base.text.toList

/-- The text of the rule inside `depth` arrays, as characters. -/
def charsAtDepth (rule : Rule) (depth : Nat) : List Char :=
  List.replicate depth '[' ++ rule.chars ++ List.replicate depth ']'

/-- The text of the rule inside `depth` arrays. -/
def textAtDepth (rule : Rule) (depth : Nat) : String :=
  String.ofList (rule.charsAtDepth depth)

/-- The text of the rule. -/
def text (rule : Rule) : String :=
  String.ofList rule.chars

end Rule

/-- Which values a field takes. `source` is the expression that the field type was read from, if it
was read. -/
structure FieldType where
  rule : Rule
  isOptional : Bool
  depth : Nat
  source : Option String

namespace FieldType

/-- A required single value that meets the rule. -/
def ofRule (rule : Rule) : FieldType :=
  ⟨rule, false, 0, none⟩

/-- The two field types take the same values, whatever they were read from. -/
def agrees (left right : FieldType) : Bool :=
  left.rule = right.rule && left.isOptional == right.isOptional && left.depth == right.depth

/-- The canonical text, as characters. -/
def chars (type : FieldType) : List Char :=
  type.rule.charsAtDepth type.depth ++ (if type.isOptional then ['?'] else [])

/-- The canonical text. -/
def text (type : FieldType) : String :=
  String.ofList type.chars

end FieldType

end RecordSchema
