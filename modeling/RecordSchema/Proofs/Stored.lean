import RecordSchema.Coercion
import RecordSchema.Proofs.Integers
import RecordSchema.Proofs.InstantText
import RecordSchema.Proofs.Parts

/-!
# What storage keeps

A number that is written as JSON loses the sign of zero, and an instant what is finer than a
millisecond. `Value.stored` is what is left of a value. It is laid out like the value
(`layout_stored`) and has the same key in a keyed collection (`keyText?_mapAtoms`).
-/

namespace RecordSchema

namespace Value

mutual

/-- The value with its numbers and instants, at any depth, replaced. -/
def mapAtoms (number : Binary64 → Binary64) (instant : Instant → Instant) : Value → Value
  | .null => .null
  | .bool b => .bool b
  | .number x => .number (number x)
  | .string s => .string s
  | .date i => .date (instant i)
  | .array items => .array (mapItems number instant items)
  | .object members => .object (mapMembers number instant members)
  | .tagged tag variant fields => .tagged tag variant (mapMembers number instant fields)

/-- The items with their numbers and instants replaced. -/
def mapItems (number : Binary64 → Binary64) (instant : Instant → Instant) :
    List Value → List Value
  | [] => []
  | item :: items => mapAtoms number instant item :: mapItems number instant items

/-- The members with their numbers and instants replaced. -/
def mapMembers (number : Binary64 → Binary64) (instant : Instant → Instant) :
    List (String × Value) → List (String × Value)
  | [] => []
  | (key, value) :: members =>
      (key, mapAtoms number instant value) :: mapMembers number instant members

end

/-- The value with the positive zero in place of the negative one, everywhere. -/
def unsigned : Value → Value :=
  mapAtoms Binary64.unsigned id

/-- What is left of the value when it is stored: zeros are positive, and instants are cut to the
millisecond. -/
def stored : Value → Value :=
  mapAtoms Binary64.unsigned Instant.toMillis

section MapAtoms

variable {number : Binary64 → Binary64} {instant : Instant → Instant}

theorem mapItems_eq_map (items : List Value) :
    mapItems number instant items = items.map (mapAtoms number instant) := by
  induction items with
  | nil => rfl
  | cons item items ih => rw [mapItems, ih, List.map_cons]

theorem mapMembers_eq_mapValues (members : Entries Value) :
    mapMembers number instant members = members.mapValues (mapAtoms number instant) := by
  induction members with
  | nil => rfl
  | cons member members ih =>
      rw [mapMembers, ih]
      rfl

/-- Atoms of an array are replaced in its items. -/
theorem mapAtoms_array (items : List Value) :
    mapAtoms number instant (.array items) = .array (items.map (mapAtoms number instant)) := by
  rw [mapAtoms, mapItems_eq_map]

/-- Atoms of an object are replaced in its members. -/
theorem mapAtoms_object (members : Entries Value) :
    mapAtoms number instant (.object members) =
      .object (members.mapValues (mapAtoms number instant)) := by
  rw [mapAtoms, mapMembers_eq_mapValues]

/-- Atoms of an instance are replaced in its fields. -/
theorem mapAtoms_tagged (tag : TypeTag) (variant : Option String) (fields : Entries Value) :
    mapAtoms number instant (.tagged tag variant fields) =
      .tagged tag variant (fields.mapValues (mapAtoms number instant)) := by
  rw [mapAtoms, mapMembers_eq_mapValues]

end MapAtoms

/-- The value has the property if it is an instant. -/
def DateHas (P : Instant → Prop) : Value → Prop
  | .date i => P i
  | _ => True

/-- The property holds of every instant inside a value if it holds everywhere. -/
theorem everywhere_dateHas_iff {P : Instant → Prop} {value : Value} :
    value.Everywhere (DateHas P) ↔ ∀ i, (Value.date i).Inside value → P i := by
  refine ⟨fun h i => h (.date i), fun h part hpart => ?_⟩
  cases part with
  | date i => exact h i hpart
  | _ => trivial

/-- Every instant inside the value has a year that is written in four digits. -/
def HasPlainDates (value : Value) : Prop :=
  value.Everywhere (DateHas Instant.HasPlainYear)

/-- Storage keeps instants of whole milliseconds. -/
theorem stored_eq_unsigned {value : Value}
    (h : value.Everywhere (DateHas fun i => i.time.nano % 1000000 = 0)) :
    value.stored = value.unsigned := by
  rw [stored, unsigned]
  induction value using Value.induction with
  | date i => exact congrArg Value.date (Instant.toMillis_eq_self h.here)
  | array items ih =>
      rw [mapAtoms_array, mapAtoms_array]
      exact congrArg _ (List.map_congr_left fun item hitem =>
        ih item hitem ((everywhere_array.mp h).2 item hitem))
  | object members ih =>
      rw [mapAtoms_object, mapAtoms_object]
      refine congrArg _ (List.map_congr_left fun member hmember => congrArg (Prod.mk _) ?_)
      exact ih member hmember ((everywhere_object.mp h).2 member hmember)
  | tagged tag variant fields ih =>
      rw [mapAtoms_tagged, mapAtoms_tagged]
      refine congrArg _ (List.map_congr_left fun field hfield => congrArg (Prod.mk _) ?_)
      exact ih field hfield ((everywhere_tagged.mp h).2 field hfield)
  | _ => rfl

/-! ## Texts -/

/-- The zeros have one text in rendered values. -/
theorem valueText_unsigned (x : Binary64) : x.unsigned.valueText = x.valueText := by
  rw [Binary64.unsigned]
  split
  next hzero =>
      cases x with
      | finite negative mantissa exponent hcanonical =>
          obtain rfl : mantissa = 0 := beq_iff_eq.mp hzero
          simp [Binary64.valueText, Binary64.zero, Binary64.text, NumberLayout.value]
      | _ => cases hzero
  next => rfl

/-- A value whose zeros are positive has the key that the value has, whatever its instants are. -/
theorem keyText?_mapAtoms (instant : Instant → Instant) (value : Value) :
    (mapAtoms Binary64.unsigned instant value).keyText? = value.keyText? := by
  cases value with
  | number x => exact congrArg some (valueText_unsigned x)
  | _ => rfl

/-- Named values are laid out one by one. -/
theorem layoutEntries_eq_map (label : String → List Char) (entries : Entries Value) :
    layoutEntries label entries = entries.map fun entry ↦ (label entry.1, entry.2.layout) := by
  induction entries with
  | nil => rfl
  | cons entry entries ih =>
      rw [layoutEntries, ih]
      rfl

/-- A stored value is laid out like the value. -/
theorem layout_stored (value : Value) : value.stored.layout = value.layout := by
  -- The same holds of members and of fields, which differ in their labels only.
  have hentries : ∀ {label : String → List Char} {entries : Entries Value},
      (∀ entry ∈ entries, entry.2.stored.layout = entry.2.layout) →
      layoutEntries label (entries.mapValues stored) = layoutEntries label entries := by
    intro label entries h
    rw [layoutEntries_eq_map, layoutEntries_eq_map, Entries.mapValues, List.map_map]
    exact List.map_congr_left fun entry hentry => congrArg (Prod.mk _) (h entry hentry)
  induction value using Value.induction with
  | number x => exact congrArg (fun text => Layout.atom text.toList) (valueText_unsigned x)
  | date i => exact congrArg Layout.atom (Instant.textChars_toMillis i)
  | array items ih =>
      rw [stored, mapAtoms_array, layout, layout]
      refine congrArg _ ?_
      induction items with
      | nil => rfl
      | cons item items ih' =>
          obtain ⟨hitem, hitems⟩ := List.forall_mem_cons.mp ih
          rw [List.map_cons, layoutItems, layoutItems, ih' hitems, ← stored, hitem]
  | object members ih =>
      rw [stored, mapAtoms_object, layout, layout]
      exact congrArg _ (hentries ih)
  | tagged tag variant fields ih =>
      rw [stored, mapAtoms_tagged, layout, layout]
      exact congrArg _ (hentries ih)
  | _ => rfl

end Value

namespace Instance

/-- The instance with the positive zero in place of the negative one, everywhere. -/
def unsigned (i : Instance) : Instance :=
  { i with fields := i.fields.mapValues Value.unsigned }

/-- What is left of the instance when it is stored. -/
def stored (i : Instance) : Instance :=
  { i with fields := i.fields.mapValues Value.stored }

theorem ofInstance_stored (i : Instance) :
    Value.ofInstance i.stored = (Value.ofInstance i).stored :=
  (Value.mapAtoms_tagged ..).symm

theorem ofInstance_unsigned (i : Instance) :
    Value.ofInstance i.unsigned = (Value.ofInstance i).unsigned :=
  (Value.mapAtoms_tagged ..).symm

/-- Storage keeps an instance whose instants are of whole milliseconds. -/
theorem stored_eq_unsigned {i : Instance}
    (h : (Value.ofInstance i).Everywhere (Value.DateHas fun date => date.time.nano % 1000000 = 0)) :
    i.stored = i.unsigned := by
  rw [← Value.ofInstance_inj, ofInstance_stored, ofInstance_unsigned, Value.stored_eq_unsigned h]

/-- A stored instance is rendered like the instance. -/
theorem layout_stored (i : Instance) : i.stored.layout = i.layout := by
  have hlayout : ∀ i : Instance, (Value.ofInstance i).layout = i.layout := fun i => by
    rw [Value.ofInstance, Value.layout, layout, layoutFields]
    rfl
  rw [← hlayout, ← hlayout, ofInstance_stored, Value.layout_stored]

/-- An instance whose zeros are positive has the key that the instance has, whatever its instants
are. -/
theorem keyText?_mapAtoms (instant : Instant → Instant) (i : Instance) (idField : String) :
    { i with fields := i.fields.mapValues (Value.mapAtoms Binary64.unsigned instant) }.keyText?
      idField = i.keyText? idField := by
  rw [keyText?, keyText?, get?, get?, Entries.get?_mapValues]
  cases i.fields.get? idField with
  | none => rfl
  | some value => exact value.keyText?_mapAtoms instant

/-- Instances that are the same but for the sign of zero have the same key. -/
theorem keyText?_eq_of_unsigned_eq {i j : Instance} (h : i.unsigned = j.unsigned)
    (idField : String) : i.keyText? idField = j.keyText? idField :=
  calc i.keyText? idField
    _ = i.unsigned.keyText? idField := (keyText?_mapAtoms id i idField).symm
    _ = j.unsigned.keyText? idField := by rw [h]
    _ = j.keyText? idField := keyText?_mapAtoms id j idField

end Instance

/-- A stored member of a keyed collection has the key that the member has. -/
theorem Value.instanceKey?_stored (value : Value) (idField : String) :
    value.stored.instance?.bind (·.keyText? idField) =
      value.instance?.bind (·.keyText? idField) := by
  cases value with
  | tagged tag variant fields =>
      rw [stored, mapAtoms_tagged]
      exact Instance.keyText?_mapAtoms Instant.toMillis ⟨tag, variant, fields⟩ idField
  | _ => rfl

end RecordSchema
