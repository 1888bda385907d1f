import RecordSchema.Layout
import RecordSchema.Registry.Basic

/-!
# Coercion

`Registry.coerceValue` checks a value against a rule and gives it in its normal form: plain objects
that stand for instances become instances. The first place that does not fit, in order of
declaration and of position, is the rejection. A `Candidate` is a value together with its coercion,
so that the fields of a type can be looked up in a shape in whatever order it has them.
-/

namespace RecordSchema

/-- Checks something against a rule inside a number of arrays, at a path. -/
abbrev Coercer := Rule → Nat → Path → Except Rejection Value

/-- A value, and how it is coerced. -/
structure Candidate where
  value : Value
  coerce : Coercer

namespace Rejection

/-- A value is not of the expected kind. -/
def wrongKind (path : Path) (expected : String) (found : Value) : Rejection :=
  ⟨path, .wrongKind, expected, found.text⟩

/-- A string does not match the expected pattern. -/
def patternMismatch (path : Path) (expected : String) (found : Value) : Rejection :=
  ⟨path, .patternMismatch, expected, found.text⟩

/-- The type that is expected is not declared. -/
def undeclaredType (path : Path) (typeName : String) : Rejection :=
  ⟨path, .unresolved, typeName, "undeclared type"⟩

end Rejection

/-- The key under which a keyed collection has a member with this identity. Only strings and numbers
can be keys. -/
def Value.keyText? : Value → Option String
  | .string s => some s
  | .number x => some x.valueText
  | _ => none

/-- The key of an instance in a collection keyed by a field. -/
def Instance.keyText? (i : Instance) (idField : String) : Option String :=
  (i.get? idField).bind (·.keyText?)

namespace Coercion

/-- Checks a candidate for a field, which may be absent if the field is optional. -/
def field (type : FieldType) (candidate : Option Coercer) (path : Path) :
    Except Rejection (Option Value) :=
  match candidate with
  | some coerce => (coerce type.rule type.depth path).map some
  | none =>
      if type.isOptional then .ok none
      else .error (.missing path (type.rule.textAtDepth type.depth))

/-- Checks the fields in order of declaration and gives those that are present. -/
def fields (candidate : String → Option Coercer) (path : Path) :
    Fields → Except Rejection (Entries Value)
  | [] => .ok []
  | (name, type) :: rest => do
      let value ← field type (candidate name) (path.field name)
      let others ← fields candidate path rest
      return match value with
        | some value => (name, value) :: others
        | none => others

/-- Makes an instance of a shape. The shape of a union's instance names its variant under the
variant key, which is none of its fields. -/
def shape (r : Registry) (d : TypeDefinition) (candidates : Entries Candidate) (path : Path) :
    Except Rejection Instance :=
  match d.shape with
  | .record declared => do
      let present ← fields (fun name ↦ (candidates.get? name).map (·.coerce)) path declared
      return ⟨r.tag d.name, none, present⟩
  | .union variants =>
      let key := r.config.codec.variantKey
      let expected := joinTexts " | " variants.names
      match (candidates.get? key).map Candidate.value with
      | none => .error (.missing (path.field key) expected)
      | some (.string variant) =>
          match variants.get? variant with
          | none => .error ⟨path.field key, .unknownVariant, expected, Text.quote variant⟩
          | some declared => do
              -- A declared field of the name of the key finds nothing.
              let members := candidates.erase key
              let present ← fields (fun name ↦ (members.get? name).map (·.coerce)) path declared
              return ⟨r.tag d.name, some variant, present⟩
      | some other => .error ⟨path.field key, .unknownVariant, expected, other.text⟩

/-- The value meets a rule that does not look into it. -/
def isAccepted : Rule → Value → Bool
  | .any, _ | .string, .string _ | .number, .number _ | .boolean, .bool _ | .date, .date _
  | .object, .object _ | .object, .tagged .. => true
  | _, _ => false

/-- Checks a value that has no parts the rule looks into. -/
def atom (r : Registry) (value : Value) (rule : Rule) (depth : Nat) (path : Path) :
    Except Rejection Value :=
  if depth ≠ 0 then .error (.wrongKind path (rule.textAtDepth depth) value)
  else
    match rule with
    | .tagged typeName =>
        match r.definition? typeName, value.instance? with
        | none, _ => .error (.undeclaredType path typeName)
        | some _, some i =>
            if r.owns typeName i then .ok value
            else .error ⟨path, .wrongType, typeName, i.text⟩
        | some _, none => .error (.wrongKind path typeName value)
    | .keyed _ none => .error ⟨path, .unresolved, rule.text, "no identity field"⟩
    | _ =>
        match rule.pattern?, value with
        | some pattern, .string s =>
            if pattern.isFullMatch s then .ok value
            else .error (.patternMismatch path rule.text value)
        | _, _ =>
            if isAccepted rule value then .ok value
            else .error (.wrongKind path rule.text value)

/-- Checks that a member of a keyed collection is filed under its own key. -/
def checkKey (idField key : String) (member : Value) (path : Path) : Except Rejection Unit :=
  let found := member.instance?.bind (·.keyText? idField)
  if found = some key then .ok ()
  else .error ⟨path.field idField, .keyMismatch, Text.quote key,
    (found.map Text.quote).getD Rejection.absent⟩

end Coercion

namespace Registry

mutual

/-- Checks a value against a rule inside `depth` arrays and gives its normal form. -/
def coerceValue (r : Registry) : Value → Coercer
  | .array items, rule, depth + 1, path => (coerceItems r items rule depth path 0).map .array
  | .object members, .tagged typeName, 0, path =>
      match r.definition? typeName with
      | none => .error (.undeclaredType path typeName)
      | some d => (Coercion.shape r d (candidates r members) path).map .ofInstance
  | .object members, .keyed typeName (some idField), 0, path =>
      (coerceMembers r members typeName idField path).map .object
  | value, rule, depth, path => Coercion.atom r value rule depth path

/-- Checks the elements of an array, from the position `index` on. -/
def coerceItems (r : Registry) :
    List Value → Rule → Nat → Path → Nat → Except Rejection (List Value)
  | [], _, _, _, _ => .ok []
  | item :: items, rule, depth, path, index => do
      let first ← coerceValue r item rule depth (path.index index)
      let others ← coerceItems r items rule depth path (index + 1)
      return first :: others

/-- Checks the members of a collection of instances keyed by `idField`. -/
def coerceMembers (r : Registry) :
    List (String × Value) → String → String → Path → Except Rejection (List (String × Value))
  | [], _, _, _ => .ok []
  | (key, member) :: members, typeName, idField, path => do
      let first ← coerceValue r member (.tagged typeName) 0 (path.key key)
      Coercion.checkKey idField key first (path.key key)
      let others ← coerceMembers r members typeName idField path
      return (key, first) :: others

/-- The members of a shape as candidates for fields. -/
def candidates (r : Registry) : List (String × Value) → Entries Candidate
  | [] => []
  | (key, value) :: members => (key, ⟨value, coerceValue r value⟩) :: candidates r members

end

/-- Checks a candidate for a field; `none` is an absent one. -/
def coerce (r : Registry) (type : FieldType) (value : Option Value) (path : Path) :
    Except Rejection (Option Value) :=
  Coercion.field type (value.map r.coerceValue) path

/-- Makes an instance of a type from a plain shape. -/
def coerceShape (r : Registry) (d : TypeDefinition) (shape : Entries Value) (path : Path) :
    Except Rejection Instance :=
  Coercion.shape r d (r.candidates shape) path

end Registry

end RecordSchema
