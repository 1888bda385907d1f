import RecordSchema.Proofs.Entries
import RecordSchema.Value

/-!
# Parts of values

A value is made of parts: the items of an array, the members of an object and the fields of an
instance. `Value.induction` and `Json.induction` prove a property of every value from the same
property of its parts, and `Value.Inside` says that a value occurs in another one at any depth.
-/

namespace RecordSchema

/-- What holds of a value whenever it holds of its parts holds of every value. -/
@[elab_as_elim]
theorem Value.induction {motive : Value → Prop} (null : motive .null)
    (bool : ∀ b, motive (.bool b)) (number : ∀ x, motive (.number x))
    (string : ∀ s, motive (.string s)) (date : ∀ i, motive (.date i))
    (array : ∀ items, (∀ item ∈ items, motive item) → motive (.array items))
    (object : ∀ members, (∀ member ∈ members, motive member.2) → motive (.object members))
    (tagged : ∀ tag variant fields, (∀ field ∈ fields, motive field.2) →
      motive (.tagged tag variant fields))
    (value : Value) : motive value :=
  @Value.rec motive (fun items => ∀ item ∈ items, motive item)
    (fun entries => ∀ entry ∈ entries, motive entry.2) (fun entry => motive entry.2)
    null bool number string date array object tagged
    (fun _ h => absurd h List.not_mem_nil)
    (fun _ _ hhead htail => List.forall_mem_cons.mpr ⟨hhead, htail⟩)
    (fun _ h => absurd h List.not_mem_nil)
    (fun _ _ hhead htail => List.forall_mem_cons.mpr ⟨hhead, htail⟩)
    (fun _ _ h => h) value

/-- What holds of a JSON value whenever it holds of its parts holds of every JSON value. -/
@[elab_as_elim]
theorem Json.induction {motive : Json → Prop} (null : motive .null)
    (bool : ∀ b, motive (.bool b)) (number : ∀ n, motive (.number n))
    (string : ∀ s, motive (.string s))
    (array : ∀ items, (∀ item ∈ items, motive item) → motive (.array items))
    (object : ∀ members, (∀ member ∈ members, motive member.2) → motive (.object members))
    (json : Json) : motive json :=
  @Json.rec motive (fun items => ∀ item ∈ items, motive item)
    (fun entries => ∀ entry ∈ entries, motive entry.2) (fun entry => motive entry.2)
    null bool number string array object
    (fun _ h => absurd h List.not_mem_nil)
    (fun _ _ hhead htail => List.forall_mem_cons.mpr ⟨hhead, htail⟩)
    (fun _ h => absurd h List.not_mem_nil)
    (fun _ _ hhead htail => List.forall_mem_cons.mpr ⟨hhead, htail⟩)
    (fun _ _ h => h) json

/-- A JSON value as it can be written: the members of an object have distinct keys, and a number is
an integer of 64 bits, with or without sign, or a finite double. -/
inductive Json.WellFormed : Json → Prop where
  | null : WellFormed .null
  | bool (b) : WellFormed (.bool b)
  | string (s) : WellFormed (.string s)
  | integer {n : Int} : -0x8000000000000000 ≤ n → n < 0x10000000000000000 →
      WellFormed (.number (.integer n))
  | real {x : Binary64} : x.isFinite → WellFormed (.number (.real x))
  | array {items} : (∀ item ∈ items, WellFormed item) → WellFormed (.array items)
  | object {members} : (Entries.names members).Nodup →
      (∀ member ∈ members, WellFormed member.2) → WellFormed (.object members)

attribute [simp] Json.WellFormed.null Json.WellFormed.bool Json.WellFormed.string

/-- An integer is well formed if it has 64 bits. -/
@[simp] theorem Json.wellFormed_integer {n : Int} : WellFormed (.number (.integer n)) ↔
    -0x8000000000000000 ≤ n ∧ n < 0x10000000000000000 := by
  refine ⟨fun h => ?_, fun h => .integer h.1 h.2⟩
  cases h with
  | integer hlow hhigh => exact ⟨hlow, hhigh⟩

/-- An array is well formed if its items are. -/
@[simp] theorem Json.wellFormed_array {items : List Json} :
    WellFormed (.array items) ↔ ∀ item ∈ items, item.WellFormed := by
  refine ⟨fun h => ?_, .array⟩
  cases h with
  | array hitems => exact hitems

/-- An object is well formed if its keys are distinct and its members are well formed. -/
@[simp] theorem Json.wellFormed_object {members : Entries Json} :
    WellFormed (.object members) ↔
      members.names.Nodup ∧ ∀ member ∈ members, member.2.WellFormed := by
  refine ⟨fun h => ?_, fun h => .object h.1 h.2⟩
  cases h with
  | object hdistinct hmembers => exact ⟨hdistinct, hmembers⟩

/-- The members of a well-formed JSON value are well formed. -/
theorem Json.WellFormed.of_member? {json part : Json} {name : String} (h : json.WellFormed)
    (hpart : json.member? name = some part) : part.WellFormed := by
  cases h with
  | object _ hmembers => exact hmembers _ (Entries.mem_of_get? hpart)
  | _ => cases hpart

namespace Value

/-- `part.Inside whole` says that the value `part` is `whole` or occurs in it, at any depth. -/
inductive Inside (part : Value) : Value → Prop where
  | refl : Inside part part
  | item {items item} : item ∈ items → Inside part item → Inside part (.array items)
  | member {members key value} : (key, value) ∈ members → Inside part value →
      Inside part (.object members)
  | field {tag variant fields name value} : (name, value) ∈ fields → Inside part value →
      Inside part (.tagged tag variant fields)

/-- What is inside a part is inside the whole. -/
theorem Inside.trans {inner part whole : Value} (hinner : inner.Inside part)
    (hpart : part.Inside whole) : inner.Inside whole := by
  induction hpart with
  | refl => exact hinner
  | item hmem _ ih => exact .item hmem ih
  | member hmem _ ih => exact .member hmem ih
  | field hmem _ ih => exact .field hmem ih

/-- The property holds of the value and of everything inside it. -/
def Everywhere (P : Value → Prop) (value : Value) : Prop :=
  ∀ part : Value, part.Inside value → P part

section Everywhere

variable {P : Value → Prop} {value : Value}

/-- What holds everywhere in a value holds of the value. -/
theorem Everywhere.here (h : Everywhere P value) : P value :=
  h value .refl

/-- What holds everywhere in a value holds everywhere in a part of it. -/
theorem Everywhere.inside (h : Everywhere P value) {part : Value} (hpart : part.Inside value) :
    Everywhere P part :=
  fun _ hinner => h _ (hinner.trans hpart)

/-- What follows from a property that holds everywhere holds everywhere. -/
theorem Everywhere.imp {Q : Value → Prop} (h : Everywhere P value) (hPQ : ∀ part, P part → Q part) :
    Everywhere Q value :=
  fun part hpart => hPQ part (h part hpart)

/-- A property holds everywhere in an array if it holds of it and everywhere in its items. -/
theorem everywhere_array {items : List Value} :
    Everywhere P (.array items) ↔ P (.array items) ∧ ∀ item ∈ items, Everywhere P item := by
  refine ⟨fun h => ⟨h.here, fun item hmem => h.inside (.item hmem .refl)⟩, fun h part hpart => ?_⟩
  cases hpart with
  | refl => exact h.1
  | item hmem hinner => exact h.2 _ hmem _ hinner

/-- A property holds everywhere in an object if it holds of it and everywhere in its members. -/
theorem everywhere_object {members : Entries Value} :
    Everywhere P (.object members) ↔
      P (.object members) ∧ ∀ member ∈ members, Everywhere P member.2 := by
  refine ⟨fun h => ⟨h.here, fun member hmem => h.inside (.member hmem .refl)⟩, ?_⟩
  intro h part hpart
  cases hpart with
  | refl => exact h.1
  | member hmem hinner => exact h.2 _ hmem _ hinner

/-- A property holds everywhere in an instance if it holds of it and everywhere in its fields. -/
theorem everywhere_tagged {tag : TypeTag} {variant : Option String} {fields : Entries Value} :
    Everywhere P (.tagged tag variant fields) ↔
      P (.tagged tag variant fields) ∧ ∀ field ∈ fields, Everywhere P field.2 := by
  refine ⟨fun h => ⟨h.here, fun field hmem => h.inside (.field hmem .refl)⟩, fun h part hpart => ?_⟩
  cases hpart with
  | refl => exact h.1
  | field hmem hinner => exact h.2 _ hmem _ hinner

end Everywhere

/-- The value has no parts. -/
def IsLeaf : Value → Prop
  | .array _ | .object _ | .tagged .. => False
  | _ => True

/-- A property holds everywhere in a value without parts if it holds of it. -/
theorem Everywhere.of_leaf {P : Value → Prop} {value : Value} (hleaf : value.IsLeaf)
    (h : P value) : Everywhere P value := by
  intro part hpart
  cases hpart with
  | refl => exact h
  | item => cases hleaf
  | member => cases hleaf
  | field => cases hleaf

/-- The value that an instance is tells which instance it is. -/
theorem ofInstance_inj {i j : Instance} : ofInstance i = ofInstance j ↔ i = j := by
  refine ⟨fun h => ?_, congrArg ofInstance⟩
  obtain ⟨tag, variant, fields⟩ := i
  cases h
  rfl

theorem ofJsonItems_eq_map (items : List Json) : ofJsonItems items = items.map ofJson := by
  induction items with
  | nil => rfl
  | cons item items ih => rw [ofJsonItems, ih, List.map_cons]

theorem ofJsonMembers_eq_mapValues (members : Entries Json) :
    ofJsonMembers members = members.mapValues ofJson := by
  induction members with
  | nil => rfl
  | cons member members ih =>
      rw [ofJsonMembers, ih]
      rfl

end Value

end RecordSchema
