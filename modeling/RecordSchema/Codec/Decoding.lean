import RecordSchema.Construction
import RecordSchema.Instant.Rfc3339

/-!
# Decoding

`Registry.decode` reads an instance of a type from JSON, by the hook of the type or else field by
field, and validates it like any other candidate. A `ShapeReader` is a JSON value together with what
it decodes to, so that the members of a shape can be looked up in the order of the fields.
-/

namespace RecordSchema

/-- A JSON value, what it is as the value of a field inside a number of arrays, and what it is as an
instance of a type. -/
structure ShapeReader where
  json : Json
  value : Rule → Nat → Path → Except TypeError Value
  decoded : String → Except TypeError Instance

/-- Runs the hook of a type on a shape. -/
abbrev HookRunner := String → DecodeHook → Json → Except TypeError Instance

namespace Decoding

/-- A rejection inside a nested instance, moved below the path of the instance. -/
def moveBelow (path : Path) : TypeError → TypeError
  | .validationRejected typeName signature rejection =>
      .validationRejected typeName signature { rejection with path := path ++ rejection.path }
  | error => error

/-- A rejection inside a field, reported against the type that has the field. -/
def reportAgainst (d : TypeDefinition) (variant : Option String) : TypeError → TypeError
  | .validationRejected _ _ rejection => d.rejected variant rejection
  | error => error

/-- Decodes a nested instance. -/
def nested (reader : ShapeReader) (typeName : String) (path : Path) : Except TypeError Instance :=
  (reader.decoded typeName).mapError (moveBelow path)

/-- The variant that a shape names, or none for the shape of a record. -/
def variant (r : Registry) (d : TypeDefinition) (members : Entries ShapeReader) :
    Except TypeError (Option String) :=
  if d.isUnion then
    match (members.get? r.config.codec.variantKey).bind (·.json.string?) with
    | some variant => .ok (some variant)
    | none => .error (.codec d.name (.missingVariantKey r.config.codec.variantKey))
  else .ok none

/-- Decodes the members for the fields in order of declaration. A null for an optional field is
absence where the configuration says so. -/
def members (r : Registry) (d : TypeDefinition) (variant : Option String)
    (readers : Entries ShapeReader) : Fields → Except TypeError (Entries Value)
  | [] => .ok []
  | (name, type) :: rest =>
      match readers.get? name with
      | none => members r d variant readers rest
      | some reader =>
          let isAbsent := match reader.json with
            | .null => r.config.codec.nullAsAbsent && type.isOptional
            | _ => false
          if isAbsent then members r d variant readers rest
          else do
            let value ← (reader.value type.rule type.depth [.field name]).mapError
              (reportAgainst d variant)
            let others ← members r d variant readers rest
            return (name, value) :: others

/-- Decodes the declared fields of a shape and validates them. -/
def fields (r : Registry) (typeName : String) (shape : Json)
    (readers : Option (Entries ShapeReader)) : Except TypeError Instance :=
  match readers with
  | none => .error (.codec typeName (.notAnObject shape.compact))
  | some readers => do
      let d ← r.definition typeName
      let variant ← variant r d readers
      let declared ← r.declaredFields typeName variant
      let decoded ← members r d variant readers declared
      r.construct typeName variant decoded.get?

/-- Decodes a shape by the codec of a type. -/
def byCodec (r : Registry) (run : HookRunner) (typeName : String) (shape : Json)
    (readers : Option (Entries ShapeReader)) : Except TypeError Instance := do
  let entry ← r.lookup typeName
  match entry.codec.decode? with
  | some hook => run typeName hook shape
  | none => fields r typeName shape readers

/-- Two members of a keyed collection have the same key. -/
def duplicateKey (r : Registry) (typeName : String) (path : Path) (key : String) : TypeError :=
  let signature := ((r.definition? typeName).map (·.signature)).getD ""
  .validationRejected typeName signature ⟨path, .keyMismatch, "a unique key", Text.quote key⟩

/-- Decodes a list of members as a keyed collection; each is filed under its own key. -/
def keyedItems (r : Registry) (typeName idField : String) (path : Path) :
    Nat → Entries Value → List ShapeReader → Except TypeError (Entries Value)
  | _, found, [] => .ok found
  | index, found, reader :: readers => do
      let i ← nested reader typeName (path.index index)
      match i.keyText? idField with
      | none => .error (.codec typeName (.unusableKey idField))
      | some key =>
          if found.has key then
            .error (duplicateKey r typeName ((path.index index).field idField) key)
          else
            keyedItems r typeName idField path (index + 1) (found ++ [(key, .ofInstance i)]) readers

/-- Decodes the members of an object as a keyed collection under their own names. -/
def keyedMembers (typeName : String) (path : Path) :
    Entries ShapeReader → Except TypeError (Entries Value)
  | [] => .ok []
  | (key, reader) :: readers => do
      let i ← nested reader typeName (path.key key)
      let others ← keyedMembers typeName path readers
      return (key, .ofInstance i) :: others

/-- Decodes the elements of an array, from the position `index` on. -/
def items (rule : Rule) (depth : Nat) (path : Path) :
    Nat → List ShapeReader → Except TypeError (List Value)
  | _, [] => .ok []
  | index, reader :: readers => do
      let value ← reader.value rule depth (path.index index)
      let others ← items rule depth path (index + 1) readers
      return value :: others

/-- The reader of a JSON value with nothing in it. A text is a date where a date is expected. -/
def leaf (r : Registry) (run : HookRunner) (json : Json) : ShapeReader where
  json
  value := fun rule depth _ ↦
    match json, rule, depth with
    | .string text, .date, 0 => .ok (((Instant.parse? text).map .date).getD (.string text))
    | _, _, _ => .ok (.ofJson json)
  decoded := fun typeName ↦ byCodec r run typeName json none

/-- The reader of an array. -/
def array (r : Registry) (run : HookRunner) (json : Json) (readers : List ShapeReader) :
    ShapeReader where
  json
  value := fun rule depth path ↦
    match depth, rule with
    | depth + 1, rule => (items rule depth path 0 readers).map .array
    | 0, .keyed typeName idField =>
        (keyedItems r typeName (idField.getD defaultIdField) path 0 [] readers).map .object
    | 0, _ => .ok (.ofJson json)
  decoded := fun typeName ↦ byCodec r run typeName json none

/-- The reader of an object. -/
def object (r : Registry) (run : HookRunner) (json : Json) (readers : Entries ShapeReader) :
    ShapeReader :=
  let decoded := fun typeName ↦ byCodec r run typeName json (some readers)
  { json
    decoded
    value := fun rule depth path ↦
      match rule, depth with
      | .tagged typeName, 0 => ((decoded typeName).mapError (moveBelow path)).map .ofInstance
      | .keyed typeName _, 0 => (keyedMembers typeName path readers).map .object
      | _, _ => .ok (.ofJson json) }

end Decoding

namespace Registry

mutual

/-- The reader of a JSON value. -/
def reader (r : Registry) (run : HookRunner) : Json → ShapeReader
  | .array items => Decoding.array r run (.array items) (itemReaders r run items)
  | .object members => Decoding.object r run (.object members) (memberReaders r run members)
  | json => Decoding.leaf r run json

/-- The readers of the items of an array. -/
def itemReaders (r : Registry) (run : HookRunner) : List Json → List ShapeReader
  | [] => []
  | item :: items => reader r run item :: itemReaders r run items

/-- The readers of the members of an object. -/
def memberReaders (r : Registry) (run : HookRunner) : List (String × Json) → Entries ShapeReader
  | [] => []
  | (key, value) :: members => (key, reader r run value) :: memberReaders r run members

end

/-- Decodes the declared fields of a shape, whatever codec the type has. -/
def decodeFieldsBy (r : Registry) (run : HookRunner) (typeName : String) (shape : Json) :
    Except TypeError Instance :=
  Decoding.fields r typeName shape (shape.members?.map (r.memberReaders run))

/-- Runs hooks that may call others up to a depth. -/
def runHook (r : Registry) : Nat → HookRunner
  | 0 => fun typeName _ _ ↦ .error (.codec typeName .nestedTooDeep)
  | depth + 1 => fun typeName hook shape ↦
      hook
        { fields := r.decodeFieldsBy (runHook r depth)
          shape := fun other shape ↦ (r.reader (runHook r depth) shape).decoded other }
        typeName shape

/-- Runs hooks that may call others as deep as there is room for. -/
def hookRunner (r : Registry) : HookRunner :=
  r.runHook r.config.codec.hookNesting

/-- Decodes the declared fields of a shape. -/
def decodeFields (r : Registry) (typeName : String) (shape : Json) : Except TypeError Instance :=
  r.decodeFieldsBy r.hookRunner typeName shape

/-- Decodes an instance of a type. -/
def decode (r : Registry) (typeName : String) (shape : Json) : Except TypeError Instance :=
  (r.reader r.hookRunner shape).decoded typeName

end Registry

end RecordSchema
