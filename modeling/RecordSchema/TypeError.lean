import RecordSchema.FieldType.Parser
import RecordSchema.Rejection

/-!
# Errors

`TypeError` lists what can go wrong when types are declared and when they are used. Each error has a
stable code and a text.
-/

namespace RecordSchema

/-- What is wrong with the definition of a type. -/
inductive DefinitionFault where
  | duplicateField (field : String)
  | duplicateVariant (variant : String)
  | typeName (name : String)
  | variantName (name : String)
  | noVariants
  | blankField
deriving DecidableEq

/-- The text of the fault. -/
def DefinitionFault.message : DefinitionFault → String
  | .duplicateField field => "field '" ++ field ++ "' is declared more than once"
  | .duplicateVariant variant => "variant '" ++ variant ++ "' is declared more than once"
  | .typeName name => "'" ++ name ++ "' is not a valid type name"
  | .variantName name => "'" ++ name ++ "' is not a valid variant name"
  | .noVariants => "a union needs at least one variant"
  | .blankField => "field names cannot be empty"

/-- What is wrong with a definition document at one of its places. -/
inductive DocumentFault where
  | notAnObject
  | unexpectedKey (key : String)
  | regexNotString
  | flagsNotString
  | notAPattern
  | pattern (error : PatternError)
  | fieldsOrVariants
  | notAString
deriving DecidableEq

/-- The text of the fault. -/
def DocumentFault.message : DocumentFault → String
  | .notAnObject => "expected an object"
  | .unexpectedKey key => "unexpected key '" ++ key ++ "'"
  | .regexNotString => "'regex' must be a string"
  | .flagsNotString => "'flags' must be a string"
  | .notAPattern => r#"expected a regex string or {"regex", "flags"}"#
  | .pattern error => error.message
  | .fieldsOrVariants => "exactly one of 'fields' or 'variants' is required"
  | .notAString => "expected a string"

/-- Why an instance cannot be encoded or a shape cannot be decoded. -/
inductive CodecFault where
  | notAnObject (shape : String)
  | missingVariantKey (key : String)
  | instanceWithoutVariant
  | recordWithVariant (variant : String)
  | untypedContent (field kind : String)
  | nonFinite (number : String)
  | unusableKey (idField : String)
  | nestedTooDeep
  | custom (message : String)
deriving DecidableEq

/-- The text of the fault. -/
def CodecFault.message : CodecFault → String
  | .notAnObject shape => "expected a JSON object, got " ++ shape
  | .missingVariantKey key => "missing variant key '" ++ key ++ "'"
  | .instanceWithoutVariant => "union instance without a variant"
  | .recordWithVariant variant => "record instance carries variant '" ++ variant ++ "'"
  | .untypedContent field kind =>
      "field '" ++ field ++ "' holds a " ++ kind
        ++ " inside an untyped value, which cannot be decoded back"
  | .nonFinite number => "cannot encode non-finite number " ++ number
  | .unusableKey idField => "member has no usable '" ++ idField ++ "' to key it by"
  | .nestedTooDeep => "codecs are nested too deep"
  | .custom message => message

/-- The stable codes of errors. -/
inductive ErrorCode where
  | malformedFieldType
  | unresolvedReference
  | duplicateType
  | invalidDefinition
  | missingIdField
  | invalidDocument
  | validationRejected
  | exhaustivenessViolation
  | unknownType
  | unknownVariant
  | unknownField
  | arityMismatch
  | typeMismatch
  | codec
deriving DecidableEq

namespace ErrorCode

/-- All codes. -/
def all : List ErrorCode :=
  [malformedFieldType, unresolvedReference, duplicateType, invalidDefinition, missingIdField,
    invalidDocument, validationRejected, exhaustivenessViolation, unknownType, unknownVariant,
    unknownField, arityMismatch, typeMismatch, codec]

/-- The text of the code. -/
def text : ErrorCode → String
  | malformedFieldType => "MALFORMED_FIELD_TYPE"
  | unresolvedReference => "UNRESOLVED_REFERENCE"
  | duplicateType => "DUPLICATE_TYPE"
  | invalidDefinition => "INVALID_DEFINITION"
  | missingIdField => "MISSING_ID_FIELD"
  | invalidDocument => "INVALID_DOCUMENT"
  | validationRejected => "VALIDATION_REJECTED"
  | exhaustivenessViolation => "EXHAUSTIVENESS_VIOLATION"
  | unknownType => "UNKNOWN_TYPE"
  | unknownVariant => "UNKNOWN_VARIANT"
  | unknownField => "UNKNOWN_FIELD"
  | arityMismatch => "ARITY_MISMATCH"
  | typeMismatch => "TYPE_MISMATCH"
  | codec => "CODEC"

/-- The error arises while types are declared. -/
def isDeclaration : ErrorCode → Bool
  | malformedFieldType | unresolvedReference | duplicateType | invalidDefinition | missingIdField
  | invalidDocument => true
  | _ => false

end ErrorCode

/-- What can go wrong when types are declared and used. -/
inductive TypeError where
  | malformedFieldType (error : MalformedFieldType)
  | validationRejected (typeName signature : String) (rejection : Rejection)
  | exhaustivenessViolation (typeName variant : String)
  | unresolvedReference (typeName field reference : String)
  | duplicateType (name : String)
  | invalidDefinition (owner : String) (fault : DefinitionFault)
  | missingIdField (typeName idField requiredBy : String)
  | invalidDocument (location : String) (fault : DocumentFault)
  | unknownType (name : String)
  | unknownVariant (typeName variant : String)
  | unknownField (typeName field : String)
  | arityMismatch (typeName : String) (expected got : Nat)
  | typeMismatch (expected actual : String)
  | codec (typeName : String) (fault : CodecFault)
deriving DecidableEq

namespace TypeError

/-- The code of the error. -/
def code : TypeError → ErrorCode
  | malformedFieldType _ => .malformedFieldType
  | validationRejected .. => .validationRejected
  | exhaustivenessViolation .. => .exhaustivenessViolation
  | unresolvedReference .. => .unresolvedReference
  | duplicateType _ => .duplicateType
  | invalidDefinition .. => .invalidDefinition
  | missingIdField .. => .missingIdField
  | invalidDocument .. => .invalidDocument
  | unknownType _ => .unknownType
  | unknownVariant .. => .unknownVariant
  | unknownField .. => .unknownField
  | arityMismatch .. => .arityMismatch
  | typeMismatch .. => .typeMismatch
  | codec .. => .codec

/-- The text of the error. -/
def message : TypeError → String
  | malformedFieldType error => error.message
  | validationRejected typeName signature rejection =>
      typeName ++ " rejected " ++ rejection.text ++ " (signature: " ++ signature ++ ")"
  | exhaustivenessViolation typeName variant =>
      "non-exhaustive match on " ++ typeName ++ ": no handler for variant '" ++ variant ++ "'"
  | unresolvedReference typeName field reference =>
      "field '" ++ field ++ "' of " ++ typeName ++ " references undeclared type '" ++ reference
        ++ "'"
  | duplicateType name => "type '" ++ name ++ "' is declared more than once"
  | invalidDefinition owner fault => "invalid definition of '" ++ owner ++ "': " ++ fault.message
  | missingIdField typeName idField requiredBy =>
      "no identity field '" ++ idField ++ "' on '" ++ typeName ++ "' (required by " ++ requiredBy
        ++ ")"
  | invalidDocument location fault =>
      "invalid definition document: " ++ location ++ ": " ++ fault.message
  | unknownType name => "unknown type '" ++ name ++ "'"
  | unknownVariant typeName variant => "'" ++ variant ++ "' is not a variant of " ++ typeName
  | unknownField typeName field => "'" ++ field ++ "' is not a field of " ++ typeName
  | arityMismatch typeName expected got =>
      typeName ++ " takes " ++ toString expected ++ " argument(s), got " ++ toString got
  | typeMismatch expected actual => "expected an instance of " ++ expected ++ ", got " ++ actual
  | codec typeName fault => "codec error for " ++ typeName ++ ": " ++ fault.message

/-- The rejection that the error reports. -/
def rejection? : TypeError → Option Rejection
  | validationRejected _ _ rejection => some rejection
  | _ => none

end TypeError

end RecordSchema
