import RecordSchema.Codec.Hooks
import RecordSchema.Config
import RecordSchema.Definition.Basic

/-!
# Registries

A registry holds declared types whose fields have been resolved against each other. Its number tells
it from other registries, so that types of the same name in two registries stay apart.
-/

namespace RecordSchema

/-- A resolved definition with the codec of its type. -/
structure RegisteredType where
  definition : TypeDefinition
  codec : Codec

/-- Declared types with everything they refer to. -/
structure Registry where
  number : Nat
  types : Entries RegisteredType
  patterns : PatternLibrary
  config : EngineConfig

/-- The field that keys a collection where nothing else is declared. -/
def defaultIdField : String := "id"

namespace Registry

/-- The type of this name, as it is registered. -/
def lookup (r : Registry) (name : String) : Except TypeError RegisteredType :=
  match r.types.get? name with
  | some entry => .ok entry
  | none => .error (.unknownType name)

/-- The definition of the type of this name. -/
def definition? (r : Registry) (name : String) : Option TypeDefinition :=
  (r.types.get? name).map (·.definition)

/-- The definition of the type of this name, which has to be there. -/
def definition (r : Registry) (name : String) : Except TypeError TypeDefinition :=
  (r.lookup name).map (·.definition)

/-- The definitions, in order of declaration. -/
def definitions (r : Registry) : List TypeDefinition :=
  r.types.values.map (·.definition)

/-- The tag of the instances of a type. -/
def tag (r : Registry) (typeName : String) : TypeTag :=
  ⟨r.number, typeName⟩

/-- The instance belongs to the type of this name in this registry. -/
def owns (r : Registry) (typeName : String) (i : Instance) : Bool :=
  i.tag = r.tag typeName

/-- The fields declared for a record, or for a variant of a union. -/
def declaredFields (r : Registry) (typeName : String) (variant : Option String) :
    Except TypeError Fields := do
  let d ← r.definition typeName
  match variant, d.shape with
  | none, .record fields => return fields
  | some variant, .union variants =>
      match variants.get? variant with
      | some fields => return fields
      | none => .error (.unknownVariant typeName variant)
  | none, .union _ => .error (.codec typeName .instanceWithoutVariant)
  | some variant, .record _ => .error (.codec typeName (.recordWithVariant variant))

end Registry

end RecordSchema
