import RecordSchema.FieldType.Reference
import RecordSchema.TypeError

/-!
# Definitions of types

A type is a record or a closed union of variants. Both are built from fields, which are named field
types in order of declaration. `TypeDefinition.record` and `TypeDefinition.union` check the names.
-/

namespace RecordSchema

/-- The fields of a record or of a variant. -/
abbrev Fields := Entries FieldType

/-- The shape of a type: one list of fields, or one for each variant. -/
inductive Shape where
  | record (fields : Fields)
  | union (variants : Entries Fields)

/-- A declared type. `idField` is the field by which its instances are keyed in collections, if the
declaration says so. -/
structure TypeDefinition where
  name : String
  shape : Shape
  idField : Option String

/-- The texts with a separator between them. -/
def joinTexts (separator : String) (texts : List String) : String :=
  separator.intercalate texts

namespace Fields

/-- The text of a list of fields under a name. -/
def signature (name : String) (fields : Fields) : String :=
  name ++ "(" ++ joinTexts ", " (fields.map fun (field, type) ↦ field ++ ": " ++ type.text) ++ ")"

/-- The fields under their labels, which start with that of the list. -/
def labelled (label : String) (fields : Fields) : Fields :=
  fields.map fun (field, type) ↦ (label ++ field, type)

/-- Applies `resolve` to each field type, with its label, in order. -/
def mapTypes (resolve : String → FieldType → Except TypeError FieldType) (label : String)
    (fields : Fields) : Except TypeError Fields :=
  fields.mapM fun (field, type) ↦ do
    let type ← resolve (label ++ field) type
    return (field, type)

end Fields

namespace Shape

/-- The fields of a record. -/
def fields? : Shape → Option Fields
  | .record fields => some fields
  | .union _ => none

/-- The variants of a union. -/
def variants? : Shape → Option (Entries Fields)
  | .record _ => none
  | .union variants => some variants

/-- The lists of fields that an instance can have. -/
def alternatives : Shape → List Fields
  | .record fields => [fields]
  | .union variants => variants.values

/-- The fields with their labels; the label of a variant's field starts with the variant. -/
def labelledFields : Shape → Fields
  | .record fields => fields
  | .union variants =>
      variants.flatMap fun (variant, fields) ↦ fields.labelled (variant ++ ".")

/-- Applies `resolve` to each field type, with its label, in order. -/
def mapTypes (resolve : String → FieldType → Except TypeError FieldType) :
    Shape → Except TypeError Shape
  | .record fields => (fields.mapTypes resolve "").map .record
  | .union variants => do
      let variants ← variants.mapM fun (variant, fields) ↦ do
        let fields ← fields.mapTypes resolve (variant ++ ".")
        return (variant, fields)
      return .union variants

end Shape

namespace TypeDefinition

/-- The fields of a record. -/
def fields? (d : TypeDefinition) : Option Fields :=
  d.shape.fields?

/-- The variants of a union. -/
def variants? (d : TypeDefinition) : Option (Entries Fields) :=
  d.shape.variants?

/-- The type is a union. -/
def isUnion (d : TypeDefinition) : Bool :=
  d.variants?.isSome

/-- The word for the kind of the type. -/
def kindText (d : TypeDefinition) : String :=
  if d.isUnion then "union" else "record"

/-- The fields of a variant of a union. -/
def variant? (d : TypeDefinition) (name : String) : Option Fields :=
  d.variants?.bind (·.get? name)

/-- Every instance of the type has a field of this name. -/
def hasFieldEverywhere (d : TypeDefinition) (field : String) : Bool :=
  d.shape.alternatives.all (·.has field)

/-- The declared types that the fields refer to, each once, in order of first use. -/
def references (d : TypeDefinition) : List String :=
  (d.shape.labelledFields.filterMap fun (_, type) ↦ type.rule.typeName?).foldl
    (fun names name ↦ if names.contains name then names else names ++ [name]) []

/-- The name of the type, or of one of its variants with that of the type. -/
def qualifiedName (d : TypeDefinition) : Option String → String
  | some variant => d.name ++ "." ++ variant
  | none => d.name

/-- The text of the definition. -/
def signature (d : TypeDefinition) : String :=
  match d.shape with
  | .record fields => fields.signature d.name
  | .union variants =>
      d.name ++ " = "
        ++ joinTexts " | " (variants.map fun (variant, fields) ↦ fields.signature variant)

/-- The text of one variant of the definition. -/
def variantSignature? (d : TypeDefinition) (variant : String) : Option String :=
  (d.variant? variant).map fun fields ↦ fields.signature (d.qualifiedName (some variant))

/-- The text of the whole definition or of one variant. -/
def signatureOf (d : TypeDefinition) : Option String → String
  | some variant => (d.variantSignature? variant).getD ""
  | none => d.signature

end TypeDefinition

/-! ## Checked definitions -/

namespace TypeDefinition

/-- The names of fields are not blank. -/
def checkFields (owner : String) (fields : Fields) : Except TypeError Unit :=
  if fields.names.any fun field ↦ Text.isBlankText field.toList then
    .error (.invalidDefinition owner .blankField)
  else .ok ()

/-- The name of a type is an identifier. -/
def checkName (name : String) : Except TypeError Unit :=
  if Text.isIdentifier name then .ok () else .error (.invalidDefinition name (.typeName name))

/-- The name of a variant is an identifier. -/
def checkVariant (owner variant : String) : Except TypeError Unit :=
  if Text.isIdentifier variant then .ok ()
  else .error (.invalidDefinition owner (.variantName variant))

/-- Defines a record. -/
def record (name : String) (fields : Fields) : Except TypeError TypeDefinition := do
  checkName name
  checkFields name fields
  return ⟨name, .record fields, none⟩

/-- Defines a union, which has at least one variant. -/
def union (name : String) (variants : Entries Fields) : Except TypeError TypeDefinition := do
  checkName name
  if variants.isEmpty then .error (.invalidDefinition name .noVariants)
  variants.forM fun (variant, fields) ↦ do
    checkVariant name variant
    checkFields name fields
  return ⟨name, .union variants, none⟩

/-- Names the field by which instances are keyed. -/
def withIdField (d : TypeDefinition) (field : String) : TypeDefinition :=
  { d with idField := some field }

end TypeDefinition

end RecordSchema
