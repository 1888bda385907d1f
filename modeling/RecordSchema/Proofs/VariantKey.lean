import RecordSchema.Proofs.Encoded
import RecordSchema.Proofs.Readers

/-!
# The variant in the shape of a union

An instance of a union is encoded as an object that names its variant under the variant key, and
decoding the object goes on with the variant that it names. The members of the fields stand in the
same object: a field of the name of the key takes the place of the variant (`encode_union`).
-/

namespace RecordSchema

open Outcome

namespace Registry

variable {r : Registry} {typeName : String} {d : TypeDefinition} {json : Json}

/-- The member is what the field of an instance is encoded as, where these fields are declared. -/
def EncodesField (r : Registry) (typeName : String) (declared : Fields) (field : String × Value)
    (member : String × Json) : Prop :=
  field.1 = member.1 ∧ ∃ type, declared.get? field.1 = some type ∧
    r.encodeValue typeName field.2 (.typed field.1 type.rule type.depth) = .ok member.2

/-- Decoding the shape as this union goes on with the fields of this variant. -/
def SelectsVariant (r : Registry) (d : TypeDefinition) (shape : Json) (variant : String) : Prop :=
  ∃ members, shape = .object members ∧
    Decoding.variant r d (r.memberReaders r.hookRunner members) = .ok (some variant)

/-- The variant that is selected is the one that stands under the variant key. -/
theorem selectsVariant_object_iff (hunion : d.isUnion) {members : Entries Json} {variant : String} :
    r.SelectsVariant d (.object members) variant ↔
      members.get? r.config.codec.variantKey = some (.string variant) := by
  have hvariant : r.SelectsVariant d (.object members) variant ↔
      r.shapeVariant? d (Value.ofJsonMembers members) = some (some variant) := by
    rw [← Decoding.variant_eq_ok (get?_memberReaders r.hookRunner members)]
    constructor
    · intro h
      obtain ⟨_, heq, h⟩ := h
      cases heq
      exact h
    · exact fun h => ⟨members, rfl, h⟩
  rw [hvariant]
  refine ⟨get?_of_shapeVariant?, fun h => ?_⟩
  obtain ⟨name, _ | variants, idField⟩ := d
  · cases hunion
  · simp [shapeVariant?, Value.ofJsonMembers_eq_mapValues, Entries.get?_mapValues, h, Value.ofJson]

/-- Decoding a shape as a union with the standard codec gives an instance of the variant that is
selected. -/
theorem variant_of_decode (hr : r.Checked) (hcodec : r.HasStandardCodec typeName)
    (hd : r.definition? typeName = some d) (hunion : d.isUnion) {result : Instance}
    (h : r.decode typeName json = .ok result) :
    result.tag = r.tag typeName ∧
      ∃ variant, result.variant = some variant ∧ r.SelectsVariant d json variant := by
  cases json with
  | object members =>
      obtain ⟨_, declared, hd', hvariant, hdeclared, htag, -⟩ :=
        (decode_object_eq_ok hr hcodec).mp h
      cases hd.symm.trans hd'
      refine ⟨htag, ?_⟩
      cases hname : result.variant with
      | none =>
          rw [hname] at hdeclared
          obtain ⟨name, _ | variants, idField⟩ := d
          · cases hunion
          · cases hdeclared
      | some name => exact ⟨name, rfl, members, rfl, hname ▸ hvariant⟩
  | _ => exact nomatch ((Decoding.byCodec_eq_ok hcodec).mp h).2

/-- The present fields and what they are encoded as correspond one by one. -/
theorem forall₂_encodesField {declared : Fields} {fields : Entries Value} {present : Entries Json}
    (hdistinct : declared.names.Nodup) (hfields : fields.names.Sublist declared.names)
    (hpresent : present.names.Sublist declared.names)
    (h : ∀ field ∈ declared, Option.Rel (fun value json =>
      r.encodeValue typeName value (.typed field.1 field.2.rule field.2.depth) = .ok json)
      (fields.get? field.1) (present.get? field.1)) :
    List.Forall₂ (r.EncodesField typeName declared) fields present := by
  have hall := Entries.forall₂_of_get? (R := fun name value json => ∃ type,
    declared.get? name = some type ∧
      r.encodeValue typeName value (.typed name type.rule type.depth) = .ok json)
    hdistinct hfields hpresent fun name hname => ?_
  · exact hall
  obtain ⟨type, htype⟩ := Entries.exists_mem_of_mem_names hname
  have hfield := h _ htype
  revert hfield
  cases Entries.get? name fields <;> cases Entries.get? name present
  · exact fun _ => .none
  · exact fun hfield => nomatch hfield
  · exact fun hfield => nomatch hfield
  · intro hfield
    cases hfield with
    | some hvalue => exact .some ⟨type, Entries.get?_of_mem hdistinct htype, hvalue⟩

/-- The members of fields stand behind the variant exactly if none of them takes its place. -/
theorem putAll_variantMembers_eq_cons_iff {variant : String} {present : Entries Json}
    (hdistinct : present.names.Nodup) :
    (Encoding.variantMembers r (some variant)).putAll present =
        (r.config.codec.variantKey, .string variant) :: present ↔
      r.config.codec.variantKey ∉ present.names := by
  constructor
  · intro h
    have hnodup : ((Encoding.variantMembers r (some variant)).putAll present).names.Nodup :=
      Entries.nodup_names_putAll (List.nodup_singleton _)
    rw [h] at hnodup
    exact (List.nodup_cons.mp hnodup).1
  · intro h
    refine Entries.putAll_of_disjoint hdistinct fun name hname hmem => ?_
    obtain rfl := List.mem_singleton.mp hmem
    exact h hname

/-- An instance of a union is encoded as an object of its variant and its present fields, one by
one, exactly if it has no field of the name of the variant key. Otherwise this field takes the place
of the variant. Decoding the object goes on with the variant that is named there. -/
theorem encode_union (hr : r.IsBuiltWithCodecs) (hcodec : r.HasStandardCodec typeName)
    (hd : r.definition? typeName = some d) (hunion : d.isUnion) {i : Instance}
    (hi : r.IsInstance typeName i) (hjson : r.encode i = .ok json) :
    ∃ variant declared members, ∃ present : Entries Json, i.variant = some variant ∧
      d.fieldsOf? variant = some declared ∧ json = .object members ∧
      List.Forall₂ (r.EncodesField typeName declared) i.fields present ∧
      (members = (r.config.codec.variantKey, .string variant) :: present ↔
        r.config.codec.variantKey ∉ i.fields.names) ∧
      (∀ selected, r.SelectsVariant d json selected ↔
        (present.get? r.config.codec.variantKey).getD (.string variant) = .string selected) ∧
      ∀ result, r.decode typeName json = .ok result → result.tag = i.tag ∧
        ∃ selected, result.variant = some selected ∧ r.SelectsVariant d json selected := by
  obtain ⟨tag, variant, fields⟩ := i
  cases hi with
  | @tagged _ d' _ declared _ hd' hdeclared hsub =>
      cases hd.symm.trans hd'
      obtain ⟨variant, rfl⟩ : ∃ name, variant = some name := by
        obtain ⟨name, _ | variants, idField⟩ := d
        · cases hunion
        · cases variant with
          | none => cases hdeclared
          | some name => exact ⟨name, rfl⟩
      have hdistinct := (hr.checked.names hd).distinct hdeclared
      obtain ⟨present, hpresent, hrel, rfl⟩ :=
        (encode_eq_ok hr.checked hcodec hd hdeclared).mp hjson
      have hall : List.Forall₂ (r.EncodesField typeName declared) fields present :=
        forall₂_encodesField hdistinct hsub hpresent hrel
      have hnames : fields.names = present.names :=
        map_eq_map_of_forall₂ (hall.imp fun _ _ h => h.1)
      refine ⟨variant, declared, _, present, rfl, hdeclared, rfl, hall, ?_, fun selected => ?_,
        fun result => variant_of_decode hr.checked hcodec hd hunion⟩
      · rw [hnames]
        exact putAll_variantMembers_eq_cons_iff (hpresent.nodup hdistinct)
      · rw [selectsVariant_object_iff hunion, Entries.get?_putAll (hpresent.nodup hdistinct),
          Encoding.variantMembers, Entries.get?_cons, if_pos rfl]
        cases Entries.get? r.config.codec.variantKey present <;> simp

end Registry

/-!
A journal has notes and alarms. Both may have a text under the name of the variant key.
-/

namespace Journals

/-- The fields of an entry. -/
def entryFields : Fields :=
  [("@tag", { FieldType.ofRule .string with isOptional := true }), ("size", .ofRule .number)]

/-- Entries are notes or alarms. -/
def entry : TypeDefinition :=
  ⟨"Entry", .union [("Note", entryFields), ("Alarm", entryFields)], none⟩

/-- The declaration of entries. -/
def declarations : Declarations :=
  { Declarations.empty .standard with definitions := [entry] }

/-- The registry of entries. -/
def registry : Registry :=
  ⟨0, [("Entry", ⟨entry, .standard⟩)], [], .standard⟩

theorem isBuiltWithCodecs_registry : registry.IsBuiltWithCodecs := by
  refine ⟨declarations, fun d hd => ?_, rfl⟩
  obtain rfl := List.mem_singleton.mp hd
  exact @TypeDefinition.IsDeclared.union "Entry" [("Note", entryFields), ("Alarm", entryFields)] _
    (by decide) (by decide) rfl

theorem hasStandardCodec_registry : registry.HasStandardCodec "Entry" := by
  intro registered h
  cases h
  rfl

/-- A note of size one, maybe with a text under the name of the variant key. -/
def note (text : Option String) : Instance where
  tag := registry.tag "Entry"
  variant := some "Note"
  fields := (text.map fun text ↦ ("@tag", .string text)).toList ++ [("size", .number (.ofInt 1))]

theorem isInstance_note (text : Option String) : registry.IsInstance "Entry" (note text) := by
  have hfields : ∀ field ∈ entryFields, ∀ value, (note text).fields.get? field.1 = some value →
      registry.Meets field.2.rule field.2.depth value := by
    intro field hfield value hvalue
    simp only [entryFields, List.mem_cons, List.not_mem_nil, or_false] at hfield
    rcases hfield with rfl | rfl
    · cases text with
      | none => cases hvalue
      | some text =>
          cases hvalue
          exact .string text
    · cases text <;> cases hvalue <;> exact .number _
  have hrequired : ∀ field ∈ entryFields, (note text).fields.get? field.1 = none →
      field.2.isOptional := by
    intro field hfield hnone
    simp only [entryFields, List.mem_cons, List.not_mem_nil, or_false] at hfield
    rcases hfield with rfl | rfl
    · rfl
    · cases text <;> cases hnone
  have hsub : (note text).fields.names.Sublist entryFields.names := by
    cases text with
    | none => exact List.sublist_cons_self _ _
    | some text => exact List.Sublist.refl _
  exact .tagged rfl rfl hsub hrequired hfields

/-- What a note is written as that has this under the name of the variant key. -/
def noteJson (tag : String) : Json :=
  .object [("@tag", .string tag), ("size", .number (.integer 1))]

theorem encode_note : registry.encode (note none) = .ok (noteJson "Note") := rfl

/-- A note with a text is written without the name of its variant. -/
theorem encode_note_text : registry.encode (note (some "Alarm")) = .ok (noteJson "Alarm") := rfl

/-- A note without a text is written with the name of its variant, and is read as a note. -/
theorem selectsVariant_note :
    registry.IsBuiltWithCodecs ∧ registry.HasStandardCodec "Entry" ∧
      registry.definition? "Entry" = some entry ∧ entry.isUnion ∧
      registry.IsInstance "Entry" (note none) ∧
      registry.encode (note none) = .ok (noteJson "Note") ∧
      (∀ selected, registry.SelectsVariant entry (noteJson "Note") selected ↔ selected = "Note") ∧
      ∀ result, registry.decode "Entry" (noteJson "Note") = .ok result →
        result.variant = some "Note" := by
  obtain ⟨variant, declared, members, present, hvariant, -, hjson, -, hmembers, hselects,
    hresult⟩ := Registry.encode_union isBuiltWithCodecs_registry hasStandardCodec_registry rfl rfl
      (isInstance_note none) encode_note
  cases hvariant
  rw [hmembers.mpr (by decide), noteJson, Json.object.injEq, List.cons.injEq] at hjson
  obtain ⟨-, rfl⟩ := hjson
  have hselected : ∀ selected,
      registry.SelectsVariant entry (noteJson "Note") selected ↔ selected = "Note" :=
    fun selected => (hselects selected).trans (Json.string.injEq .. ▸ eq_comm)
  refine ⟨isBuiltWithCodecs_registry, hasStandardCodec_registry, rfl, rfl, isInstance_note none,
    encode_note, hselected, fun result h => ?_⟩
  obtain ⟨-, selected, hname, hselect⟩ := hresult result h
  rw [hname, (hselected selected).mp hselect]

/-- It is read as an alarm. -/
theorem decode_note_text : registry.decode "Entry" (noteJson "Alarm") =
    .ok { note (some "Alarm") with variant := some "Alarm" } := rfl

/-- The variant of an instance that can be encoded is not always written under the variant key, nor
read again. -/
theorem not_forall_encode_union :
    ¬ ∀ (r : Registry) (typeName : String) (d : TypeDefinition) (i : Instance)
        (members : Entries Json), r.IsBuiltWithCodecs → r.HasStandardCodec typeName →
      r.definition? typeName = some d → d.isUnion → r.IsInstance typeName i →
      r.encode i = .ok (.object members) →
      i.variant.map Json.string = members.get? r.config.codec.variantKey ∨
        ∀ result, r.decode typeName (.object members) = .ok result →
          result.variant = i.variant := by
  intro h
  rcases h registry "Entry" entry (note (some "Alarm")) _ isBuiltWithCodecs_registry
    hasStandardCodec_registry rfl rfl (isInstance_note _) encode_note_text with hwritten | hread
  · exact absurd (Json.string.inj (Option.some.inj hwritten)) (by decide)
  · exact absurd (hread _ decode_note_text) (by decide)

end Journals

end RecordSchema
