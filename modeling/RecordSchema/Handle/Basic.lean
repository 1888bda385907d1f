import RecordSchema.Codec.Decoding
import RecordSchema.Codec.Encoding

/-!
# Handles

A handle gives access to one type of a registry: a record, a union, or a variant of a union. It is
evidence that the type is declared.
-/

namespace RecordSchema

/-- Access to a record. -/
structure RecordHandle where
  registry : Registry
  name : String
  definition : TypeDefinition
  fields : Fields
  is_declared : registry.definition? name = some definition
  is_record : definition.shape = .record fields

/-- Access to a union. -/
structure UnionHandle where
  registry : Registry
  name : String
  definition : TypeDefinition
  variants : Entries Fields
  is_declared : registry.definition? name = some definition
  is_union : definition.shape = .union variants

/-- Access to a variant of a union. -/
structure VariantHandle where
  union : UnionHandle
  name : String
  fields : Fields
  is_variant : union.variants.get? name = some fields

namespace Registry

/-- The handle of a record. -/
def record (r : Registry) (name : String) : Except TypeError RecordHandle :=
  match h : r.definition? name with
  | none => .error (.unknownType name)
  | some d =>
      match hs : d.shape with
      | .record fields => .ok ⟨r, name, d, fields, h, hs⟩
      | .union _ => .error (.typeMismatch ("record " ++ name) ("union " ++ name))

/-- The handle of a union. -/
def union (r : Registry) (name : String) : Except TypeError UnionHandle :=
  match h : r.definition? name with
  | none => .error (.unknownType name)
  | some d =>
      match hs : d.shape with
      | .union variants => .ok ⟨r, name, d, variants, h, hs⟩
      | .record _ => .error (.typeMismatch ("union " ++ name) ("record " ++ name))

/-- The text of an instance in the layout of the registry. -/
def render (r : Registry) (i : Instance) : String :=
  i.layout.text r.config.layout

end Registry

/-- The handle of a variant. -/
def UnionHandle.variant (u : UnionHandle) (name : String) : Except TypeError VariantHandle :=
  match h : u.variants.get? name with
  | some fields => .ok ⟨u, name, fields, h⟩
  | none => .error (.unknownVariant u.name name)

/-- An instance was handed to a handle that it does not belong to. -/
def Instance.mismatch (i : Instance) (expected : String) : TypeError :=
  .typeMismatch expected i.qualifiedName

end RecordSchema
