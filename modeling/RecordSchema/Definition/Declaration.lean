import RecordSchema.Definition.Basic

/-!
# Declarations

A type is declared by names and field expressions. An expression is a text in the notation of field
types or a pattern that is there already.
-/

namespace RecordSchema

/-- What a field is declared by. -/
inductive FieldExpression where
  | text (expression : String)
  | pattern (pattern : Pattern)
  | named (name : String) (pattern : Pattern) (isOptional : Bool)

/-- The field type that an expression stands for. -/
def FieldExpression.parse : FieldExpression → Except MalformedFieldType FieldType
  | .text expression => FieldType.parse expression
  | .pattern p => .ok (.ofPattern p)
  | .named name p isOptional => .ok (.ofNamedPattern name p isOptional)

namespace TypeDefinition

/-- Reads the fields of `owner` in order; each is declared once. -/
def parseFields (owner : String) (parsed : Fields) :
    List (String × FieldExpression) → Except TypeError Fields
  | [] => .ok parsed
  | (field, expression) :: rest => do
      let type ← expression.parse.mapError .malformedFieldType
      if parsed.has field then .error (.invalidDefinition owner (.duplicateField field))
      parseFields owner (parsed ++ [(field, type)]) rest

/-- Reads the variants of `owner` in order; each is declared once. -/
def parseVariants (owner : String) (parsed : Entries Fields) :
    List (String × List (String × FieldExpression)) → Except TypeError (Entries Fields)
  | [] => .ok parsed
  | (variant, expressions) :: rest => do
      let fields ← parseFields (owner ++ "." ++ variant) [] expressions
      if parsed.has variant then .error (.invalidDefinition owner (.duplicateVariant variant))
      parseVariants owner (parsed ++ [(variant, fields)]) rest

/-- Declares a record. -/
def declareRecord (name : String) (fields : List (String × FieldExpression)) :
    Except TypeError TypeDefinition := do
  record name (← parseFields name [] fields)

/-- Declares a union. -/
def declareUnion (name : String) (variants : List (String × List (String × FieldExpression))) :
    Except TypeError TypeDefinition := do
  union name (← parseVariants name [] variants)

end TypeDefinition

end RecordSchema
