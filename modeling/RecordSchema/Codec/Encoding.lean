import RecordSchema.Coercion

/-!
# Encoding

`Registry.encode` writes an instance of the registry as JSON, by the hook of its type or else field
by field. Untyped content is written as it is, so it must not hold a date or an instance, which
would be read back as something else.
-/

namespace RecordSchema

/-- What guides the encoding of a value: nothing, the field whose untyped content it is part of, or
the rule of its field inside a number of arrays. -/
inductive EncodingMode where
  | plain
  | untyped (field : String)
  | typed (field : String) (rule : Rule) (depth : Nat)

namespace EncodingMode

/-- The field whose untyped content a value is. -/
def untypedField? : EncodingMode → Option String
  | .untyped field | .typed field .any _ | .typed field .object _ => some field
  | _ => none

/-- The mode for the members of an object: no rule guides them further. -/
def ofMembers (mode : EncodingMode) : EncodingMode :=
  match mode.untypedField? with
  | some field => .untyped field
  | none => .plain

/-- The mode for the items of an array, which have the rule of their field inside one array less. -/
def ofItems : EncodingMode → EncodingMode
  | .typed field rule (depth + 1) => .typed field rule depth
  | mode => mode.ofMembers

/-- The value is a keyed collection, which is written as a list of its members. -/
def isKeyed : EncodingMode → Bool
  | .typed _ (.keyed _ _) 0 => true
  | _ => false

end EncodingMode

/-- Encodes a value that is to be encoded in a mode. -/
abbrev Encoder := EncodingMode → Except TypeError Json

namespace Encoding

/-- Whole numbers up to this size are encoded as integers. -/
def maxExactInteger : Nat := 0x20000000000000

/-- The text of a number that is not finite, in errors. -/
def nonFiniteText : Binary64 → String
  | .infinity true => "-inf"
  | .infinity false => "inf"
  | _ => "NaN"

/-- Encodes a number, which has to be finite. -/
def number (owner : String) (x : Binary64) : Except TypeError Json :=
  if x.isFinite then
    match x.toInt? with
    | some n =>
        if n.natAbs ≤ maxExactInteger then .ok (.number (.integer n)) else .ok (.number (.real x))
    | none => .ok (.number (.real x))
  else .error (.codec owner (.nonFinite (nonFiniteText x)))

/-- Content that can be read back only where its type is known. -/
def typedOnly (owner kind : String) (mode : EncodingMode) (encoded : Except TypeError Json) :
    Except TypeError Json :=
  match mode.untypedField? with
  | some field => .error (.codec owner (.untypedContent field kind))
  | none => encoded

/-- Encodes the present fields in order of declaration, behind the variant if there is one. -/
def fields (r : Registry) (typeName : String) (variant : Option String)
    (encoders : Entries Encoder) : Except TypeError Json := do
  let declared ← r.declaredFields typeName variant
  let start : Entries Json := match variant with
    | some variant => [(r.config.codec.variantKey, .string variant)]
    | none => []
  let members ← declared.foldlM (fun (members : Entries Json) (name, type) ↦
    match encoders.get? name with
    | none => return members
    | some encode => do
        let value ← encode (.typed name type.rule type.depth)
        -- A field of the name of the variant key takes the place of the variant.
        return members.put name value) start
  return .object members

/-- Encodes an instance of the registry by the codec of its type. -/
def typedInstance (r : Registry) (i : Instance) (encoders : Entries Encoder) :
    Except TypeError Json := do
  let entry ← r.lookup i.typeName
  if !r.owns i.typeName i then
    .error (.typeMismatch entry.definition.name (i.qualifiedName ++ " from another registry"))
  let standard := fields r i.typeName i.variant encoders
  match entry.codec.encode? with
  | some hook => hook i standard
  | none => standard

end Encoding

namespace Registry

mutual

/-- Encodes a value of an instance of `owner`. -/
def encodeValue (r : Registry) (owner : String) : Value → Encoder
  | .null, _ => .ok .null
  | .bool b, _ => .ok (.bool b)
  | .number x, _ => Encoding.number owner x
  | .string s, _ => .ok (.string s)
  | .date i, mode => Encoding.typedOnly owner "Date" mode (.ok (.string i.text))
  | .array items, mode => (encodeItems r owner items mode.ofItems).map .array
  | .object members, mode =>
      let encoded := encodeMembers r owner members mode.ofMembers
      if mode.isKeyed then encoded.map fun members ↦ .array (Entries.values members)
      else encoded.map .object
  | .tagged tag variant fields, mode =>
      Encoding.typedOnly owner "Instance" mode
        (Encoding.typedInstance r ⟨tag, variant, fields⟩ (encoders r tag.typeName fields))

/-- Encodes the items of an array. -/
def encodeItems (r : Registry) (owner : String) :
    List Value → EncodingMode → Except TypeError (List Json)
  | [], _ => .ok []
  | item :: items, mode => do
      let first ← encodeValue r owner item mode
      let others ← encodeItems r owner items mode
      return first :: others

/-- Encodes the members of an object. -/
def encodeMembers (r : Registry) (owner : String) :
    List (String × Value) → EncodingMode → Except TypeError (List (String × Json))
  | [], _ => .ok []
  | (key, value) :: members, mode => do
      let first ← encodeValue r owner value mode
      let others ← encodeMembers r owner members mode
      return (key, first) :: others

/-- The fields of an instance of `owner`, ready to be encoded. -/
def encoders (r : Registry) (owner : String) : List (String × Value) → Entries Encoder
  | [] => []
  | (name, value) :: fields => (name, encodeValue r owner value) :: encoders r owner fields

end

/-- Encodes the declared fields of an instance, whatever codec its type has. -/
def encodeFields (r : Registry) (i : Instance) : Except TypeError Json :=
  Encoding.fields r i.typeName i.variant (r.encoders i.typeName i.fields)

/-- Encodes an instance of the registry. -/
def encode (r : Registry) (i : Instance) : Except TypeError Json :=
  Encoding.typedInstance r i (r.encoders i.typeName i.fields)

end Registry

end RecordSchema
