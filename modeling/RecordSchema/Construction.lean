import RecordSchema.Coercion

/-!
# Constructing instances

Every instance comes from `Registry.construct`, which is given the candidates for the fields by
name, or from `Registry.adapt`, which reads them from a shape.
-/

namespace RecordSchema

/-- The type, with its signature, that a rejection is reported against. -/
def TypeDefinition.rejected (d : TypeDefinition) (variant : Option String)
    (rejection : Rejection) : TypeError :=
  .validationRejected (d.qualifiedName variant) (d.signatureOf variant) rejection

namespace Registry

/-- The fields of a record, or of the named variant of a union. -/
def fieldsToConstruct (d : TypeDefinition) (variant : Option String) : Except TypeError Fields :=
  match variant with
  | none =>
      match d.fields? with
      | some fields => .ok fields
      | none => .error (.typeMismatch ("a variant of " ++ d.name) "no variant")
  | some variant =>
      match d.variant? variant with
      | some fields => .ok fields
      | none => .error (.unknownVariant d.name variant)

/-- Makes an instance of a record or of a variant from candidates for its fields. -/
def construct (r : Registry) (typeName : String) (variant : Option String)
    (candidate : String → Option Value) : Except TypeError Instance := do
  let d ← r.definition typeName
  let declared ← fieldsToConstruct d variant
  let coerced := Coercion.fields (fun name ↦ (candidate name).map r.coerceValue) [] declared
  let present ← coerced.mapError (d.rejected variant)
  return ⟨r.tag typeName, variant, present⟩

/-- Makes an instance of a type from a shape. An instance of the type stays as it is, and any other
instance is read like an object of its fields. -/
def adapt (r : Registry) (d : TypeDefinition) (shape : Value) : Except TypeError Instance :=
  let read := fun (members : Entries Value) ↦
    (r.coerceShape d members []).mapError (d.rejected none)
  match shape with
  | .object members => read members
  | .tagged tag variant fields =>
      if r.owns d.name ⟨tag, variant, fields⟩ then .ok ⟨tag, variant, fields⟩ else read fields
  | other => .error (d.rejected none (.wrongKind [] "Object" other))

end Registry

/-- Candidates by name from candidates in order of declaration; there cannot be more of them than
fields. -/
def positional (typeName : String) (declared : Fields) (arguments : List (Option Value)) :
    Except TypeError (String → Option Value) :=
  if declared.length < arguments.length then
    .error (.arityMismatch typeName declared.length arguments.length)
  else
    let named := declared.names.zip arguments
    .ok fun name ↦ (Entries.get? name named).join

/-- The fields of an instance with changes applied one after the other. A change to `none` makes a
field absent. -/
def mergeChanges (typeName : String) (declared : Fields) :
    Entries Value → List (String × Option Value) → Except TypeError (Entries Value)
  | present, [] => .ok present
  | present, (field, change) :: changes =>
      if declared.has field then
        match change with
        | some value => mergeChanges typeName declared (present.put field value) changes
        | none => mergeChanges typeName declared (present.erase field) changes
      else .error (.unknownField typeName field)

end RecordSchema
