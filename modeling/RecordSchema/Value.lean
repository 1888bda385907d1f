import RecordSchema.Entries
import RecordSchema.Instant.Basic
import RecordSchema.Json.Basic

/-!
# Values

Candidates for fields and the fields of instances are values. An instance carries the tag of the
type that it belongs to; absence is no value. Equality of values, `Value.eq`, leaves the order of
members aside and compares types by name.
-/

namespace RecordSchema

/-- What makes a declared type itself: the registry that it was built in and its name there. -/
structure TypeTag where
  registry : Nat
  typeName : String
deriving DecidableEq

/-- A value of any kind. -/
inductive Value where
  | null
  | bool (b : Bool)
  | number (x : Binary64)
  | string (s : String)
  | date (i : Instant)
  | array (items : List Value)
  | object (members : List (String × Value))
  | tagged (tag : TypeTag) (variant : Option String) (fields : List (String × Value))

/-- A validated value of a declared type, with its present fields in order of declaration. -/
structure Instance where
  tag : TypeTag
  variant : Option String
  fields : Entries Value

namespace Instance

/-- The name of the type. -/
def typeName (i : Instance) : String :=
  i.tag.typeName

/-- The name of the type with that of the variant, if there is one. -/
def qualifiedName (i : Instance) : String :=
  match i.variant with
  | some variant => i.typeName ++ "." ++ variant
  | none => i.typeName

/-- The value of a field, if it is present. -/
def get? (i : Instance) (field : String) : Option Value :=
  i.fields.get? field

end Instance

namespace Value

instance : Inhabited Value := ⟨.null⟩

/-- The instance as a value. -/
def ofInstance (i : Instance) : Value :=
  .tagged i.tag i.variant i.fields

/-- The instance that the value is. -/
def instance? : Value → Option Instance
  | .tagged tag variant fields => some ⟨tag, variant, fields⟩
  | _ => none

/-- The name of the kind of the value. -/
def kindName : Value → String
  | .null => "Null"
  | .bool _ => "Boolean"
  | .number _ => "Number"
  | .string _ => "String"
  | .date _ => "Date"
  | .array _ => "Array"
  | .object _ => "Object"
  | .tagged .. => "Instance"

mutual

/-- The plain value of a JSON value. Strings stay strings, also where they look like dates. -/
def ofJson : Json → Value
  | .null => .null
  | .bool b => .bool b
  | .number n => .number n.toBinary64
  | .string s => .string s
  | .array items => .array (ofJsonItems items)
  | .object members => .object (ofJsonMembers members)

/-- The plain values of the items. -/
def ofJsonItems : List Json → List Value
  | [] => []
  | item :: items => ofJson item :: ofJsonItems items

/-- The plain values of the members. -/
def ofJsonMembers : List (String × Json) → List (String × Value)
  | [] => []
  | (key, value) :: members => (key, ofJson value) :: ofJsonMembers members

end

mutual

/-- The values are equal. Numbers compare as numbers, so NaN differs from itself; objects and the
fields of instances compare without regard to their order. -/
def eq : Value → Value → Bool
  | .null, .null => true
  | .bool b, .bool c => b == c
  | .number x, .number y => x.eq y
  | .string s, .string t => s == t
  | .date i, .date j => i = j
  | .array items, .array others => eqItems items others
  | .object members, .object others => members.length == others.length && eqMembers members others
  | .tagged tag variant fields, .tagged tag' variant' fields' =>
      tag.typeName == tag'.typeName && variant == variant' && fields.length == fields'.length
        && eqMembers fields fields'
  | _, _ => false

/-- The items are equal one by one. -/
def eqItems : List Value → List Value → Bool
  | [], [] => true
  | item :: items, other :: others => eq item other && eqItems items others
  | _, _ => false

/-- Every member has an equal one of the same name among the others. -/
def eqMembers : List (String × Value) → List (String × Value) → Bool
  | [], _ => true
  | (key, value) :: members, others =>
      (match Entries.get? key others with
        | some other => eq value other
        | none => false)
        && eqMembers members others

end

end Value

end RecordSchema
