import RecordSchema.Path

/-!
# Rejections

A rejection names the first place of a candidate that its field type does not take, with what was
expected there and what was found.
-/

namespace RecordSchema

/-- Why a value was rejected. -/
inductive RejectionKind where
  | missing
  | wrongKind
  | patternMismatch
  | wrongType
  | keyMismatch
  | unknownVariant
  | unresolved
deriving DecidableEq

namespace RejectionKind

/-- All kinds. -/
def all : List RejectionKind :=
  [missing, wrongKind, patternMismatch, wrongType, keyMismatch, unknownVariant, unresolved]

/-- The name of the kind. -/
def text : RejectionKind → String
  | missing => "missing"
  | wrongKind => "wrong_kind"
  | patternMismatch => "pattern_mismatch"
  | wrongType => "wrong_type"
  | keyMismatch => "key_mismatch"
  | unknownVariant => "unknown_variant"
  | unresolved => "unresolved"

end RejectionKind

/-- The first place of a candidate that is not accepted. -/
structure Rejection where
  path : Path
  kind : RejectionKind
  expected : String
  actual : String
deriving DecidableEq

namespace Rejection

/-- What a rejection says it found where there is nothing. -/
def absent : String := "absent"

/-- A required value is absent. -/
def missing (path : Path) (expected : String) : Rejection :=
  ⟨path, .missing, expected, absent⟩

/-- The text of the rejection. -/
def text (r : Rejection) : String :=
  if r.kind = .missing then
    "at " ++ r.path.text ++ ": missing required value (expected " ++ r.expected ++ ")"
  else "at " ++ r.path.text ++ ": expected " ++ r.expected ++ ", got " ++ r.actual

end Rejection

end RecordSchema
