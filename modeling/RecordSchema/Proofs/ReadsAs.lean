import RecordSchema.Proofs.Readers

/-!
# Reading with codecs

`Registry.ReadsAs` says what a JSON value is decoded and validated to where types may have codecs of
their own, wherever the value stands (`readsAs_iff`). Arrays are read item by item, a type reads
objects by its codec and nothing else (`readsAs_tagged_iff`), and a record with the standard codec
is decoded field by field (`decode_record_eq_ok`).
-/

namespace RecordSchema

open Outcome

namespace Decoding

variable {r : Registry} {run : HookRunner}

/-- What the items of an array are decoded to does not depend on where the array stands, if this
holds of each item. -/
theorem items_eq_ok_of_path {readers : List ShapeReader} {rule : Rule} {depth index : Nat}
    {path other : Path} {values : List Value}
    (h : ∀ reader ∈ readers, ∀ {path other value}, reader.value rule depth path = .ok value →
      reader.value rule depth other = .ok value)
    (hvalues : items rule depth path index readers = .ok values) :
    items rule depth other index readers = .ok values := by
  induction readers generalizing index values with
  | nil => exact hvalues
  | cons reader readers ih =>
      obtain ⟨hreader, hreaders⟩ := List.forall_mem_cons.mp h
      obtain ⟨first, hfirst, hvalues⟩ := bind_eq_ok.mp hvalues
      obtain ⟨others, hothers, hvalues⟩ := bind_eq_ok.mp hvalues
      exact bind_eq_ok.mpr ⟨first, hreader hfirst,
        bind_eq_ok.mpr ⟨others, ih hreaders hothers, hvalues⟩⟩

/-- What a JSON value is decoded to does not depend on where it stands. -/
theorem value_eq_ok_of_path {json : Json} {rule : Rule} {depth : Nat} {path other : Path}
    {value : Value} (h : (r.reader run json).value rule depth path = .ok value) :
    (r.reader run json).value rule depth other = .ok value := by
  induction json using Json.induction generalizing rule depth path other value with
  | array jsons ih =>
      rw [Registry.reader, Registry.itemReaders_eq_map] at h ⊢
      cases depth with
      | succ depth =>
          obtain ⟨values, hvalues, rfl⟩ := map_eq_ok.mp h
          refine map_eq_ok.mpr ⟨values, items_eq_ok_of_path ?_ hvalues, rfl⟩
          exact List.forall_mem_map.mpr fun item hitem _ _ _ => ih item hitem
      | zero =>
          cases rule with
          | keyed typeName idField =>
              obtain ⟨members, hmembers, rfl⟩ := map_eq_ok.mp h
              have hreaders : List.Forall₂ (fun json reader => ∀ {i},
                  reader.decoded typeName = .ok i ↔ (r.reader run json).decoded typeName = .ok i)
                  jsons (jsons.map (r.reader run)) :=
                forall₂_map_right fun _ _ => Iff.rfl
              have hempty : (Entries.names ([] : Entries Value)).Nodup := List.nodup_nil
              rw [keyedItems_eq_ok hempty hreaders] at hmembers
              exact map_eq_ok.mpr ⟨members, (keyedItems_eq_ok hempty hreaders).mpr hmembers, rfl⟩
          | _ => exact h
  | object jsons ih =>
      rw [Registry.reader, Registry.memberReaders_eq_mapValues] at h ⊢
      cases depth with
      | succ depth => cases rule <;> exact h
      | zero =>
          cases rule with
          | tagged typeName =>
              obtain ⟨i, hi, rfl⟩ := map_eq_ok.mp h
              exact map_eq_ok.mpr ⟨i, mapError_eq_ok.mpr (mapError_eq_ok.mp hi), rfl⟩
          | keyed typeName idField =>
              obtain ⟨members, hmembers, rfl⟩ := map_eq_ok.mp h
              let R := fun json i => (r.reader run json).decoded typeName = .ok i
              have hreaders : List.Forall₂ (fun json (reader : String × ShapeReader) =>
                  json.1 = reader.1 ∧ ∀ {i}, reader.2.decoded typeName = .ok i ↔ R json.2 i)
                  jsons (Entries.mapValues (r.reader run) jsons) :=
                forall₂_map_right fun _ _ => ⟨rfl, Iff.rfl⟩
              rw [keyedMembers_eq_ok (R := R) hreaders] at hmembers
              exact map_eq_ok.mpr
                ⟨members, (keyedMembers_eq_ok (R := R) hreaders).mpr hmembers, rfl⟩
          | _ => exact h
  | _ => exact h

end Decoding

namespace Registry

variable {r : Registry} {rule : Rule} {depth : Nat} {json : Json} {value normal : Value}
  {typeName idField : String}

/-- The JSON value is decoded under the rule inside `depth` arrays, by the codecs of the types in
it, and what it is decoded to has this normal form. -/
def ReadsAs (r : Registry) (rule : Rule) (depth : Nat) (json : Json) (normal : Value) : Prop :=
  ∃ value, (r.reader r.hookRunner json).value rule depth [] = .ok value ∧
    r.Accepts rule depth value normal

/-- It does not matter where the JSON value stands. -/
theorem readsAs_iff {path : Path} :
    r.ReadsAs rule depth json normal ↔
      ∃ value, (r.reader r.hookRunner json).value rule depth path = .ok value ∧
        r.Accepts rule depth value normal :=
  exists_congr fun _ => and_congr_left fun _ =>
    ⟨Decoding.value_eq_ok_of_path, Decoding.value_eq_ok_of_path⟩

/-- Arrays are read item by item. -/
theorem readsAs_array_iff {items : List Json} :
    r.ReadsAs rule (depth + 1) (.array items) normal ↔
      ∃ normals, normal = .array normals ∧ List.Forall₂ (r.ReadsAs rule depth) items normals := by
  have hitems : List.Forall₂ (fun json reader => ∀ {path normal}, (∃ value,
      ShapeReader.value reader rule depth path = .ok value ∧ r.Accepts rule depth value normal) ↔
        r.ReadsAs rule depth json normal)
      items (items.map (r.reader r.hookRunner)) :=
    forall₂_map_right fun _ _ => readsAs_iff.symm
  rw [ReadsAs, reader, itemReaders_eq_map]
  refine exists_map_ok_iff.trans ?_
  simp only [accepts_array_iff]
  constructor
  · intro h
    obtain ⟨values, hvalues, normals, rfl, hall⟩ := h
    exact ⟨normals, rfl, (Decoding.exists_items_iff hitems).mp ⟨values, hvalues, hall⟩⟩
  · intro h
    obtain ⟨normals, rfl, hall⟩ := h
    obtain ⟨values, hvalues, hall⟩ := (Decoding.exists_items_iff hitems).mpr hall
    exact ⟨values, hvalues, normals, rfl, hall⟩

/-- Only declared types are decoded. -/
theorem exists_definition_of_decode {i : Instance} (h : r.decode typeName json = .ok i) :
    ∃ d, r.definition? typeName = some d := by
  obtain ⟨readers, hcodec⟩ : ∃ readers,
      Decoding.byCodec r r.hookRunner typeName json readers = .ok i := by
    cases json <;> exact ⟨_, h⟩
  obtain ⟨entry, hentry, -⟩ := bind_eq_ok.mp hcodec
  exact ⟨_, Option.map_eq_some_iff.mpr ⟨entry, lookup_eq_ok.mp hentry, rfl⟩⟩

/-- A decoded instance of a type is accepted where the type is expected. -/
theorem accepts_of_decode {i : Instance} (h : r.decode typeName json = .ok i)
    (htag : i.tag = r.tag typeName) :
    r.Accepts (.tagged typeName) 0 (.ofInstance i) (.ofInstance i) := by
  obtain ⟨d, hd⟩ := exists_definition_of_decode h
  obtain ⟨tag, variant, fields⟩ := i
  obtain rfl : tag = r.tag typeName := htag
  exact .owned hd

/-- An object is read as the instance that the codec of the type makes of it. Nothing else is read
where a type is expected. -/
theorem readsAs_tagged_iff :
    r.ReadsAs (.tagged typeName) 0 json normal ↔ (∃ members, json = .object members) ∧
      ∃ i, r.decode typeName json = .ok i ∧ i.tag = r.tag typeName ∧ normal = .ofInstance i := by
  cases json with
  | object members =>
      rw [ReadsAs]
      refine exists_map_ok_iff.trans ?_
      simp only [mapError_eq_ok]
      constructor
      · intro h
        obtain ⟨i, hi, haccepts⟩ := h
        obtain rfl := eq_of_accepts_instance haccepts
        refine ⟨⟨members, rfl⟩, i, hi, ?_, rfl⟩
        obtain ⟨tag, variant, fields⟩ := i
        cases haccepts
        rfl
      · intro h
        obtain ⟨-, i, hi, htag, rfl⟩ := h
        exact ⟨i, hi, accepts_of_decode hi htag⟩
  | _ =>
      refine ⟨fun h => ?_, fun h => ?_⟩
      · obtain ⟨value, hvalue, haccepts⟩ := h
        cases hvalue
        exact nomatch haccepts
      · obtain ⟨⟨members, heq⟩, -⟩ := h
        cases heq

/-- A list is read as a keyed collection by whatever codec the type has. -/
theorem readsAs_keyed {items : List Json} {members : Entries Value} (hnodup : members.names.Nodup)
    (h : List.Forall₂ (fun json member => ∃ i, r.decode typeName json = .ok i ∧
      i.tag = r.tag typeName ∧ member.2 = .ofInstance i ∧ i.keyText? idField = some member.1)
      items members) :
    r.ReadsAs (.keyed typeName (some idField)) 0 (.array items) (.object members) := by
  have hreaders : List.Forall₂ (fun json reader => ∀ {i},
      ShapeReader.decoded reader typeName = .ok i ↔ r.decode typeName json = .ok i)
      items (items.map (r.reader r.hookRunner)) :=
    forall₂_map_right fun _ _ => Iff.rfl
  have hmembers : ∀ member ∈ members, (∃ i : Instance, member.2 = .ofInstance i) ∧
      r.Accepts (.tagged typeName) 0 member.2 member.2 := by
    intro member hmember
    obtain ⟨json, -, i, hi, htag, heq, -⟩ := exists_of_mem_right h hmember
    exact ⟨⟨i, heq⟩, heq ▸ accepts_of_decode hi htag⟩
  have hkeys : ∀ member ∈ members,
      member.2.instance?.bind (·.keyText? idField) = some member.1 := by
    intro member hmember
    obtain ⟨json, -, i, -, -, heq, hkey⟩ := exists_of_mem_right h hmember
    rw [heq]
    exact hkey
  have hempty : (Entries.names ([] : Entries Value)).Nodup := List.nodup_nil
  rw [ReadsAs, reader, itemReaders_eq_map]
  refine exists_map_ok_iff.mpr ⟨members, (Decoding.keyedItems_eq_ok hempty hreaders).mpr ?_,
    (accepts_keyed_instances_iff hmembers).mpr ⟨rfl, hkeys⟩⟩
  refine ⟨members, rfl, h.imp fun json member hmember => ?_, hnodup⟩
  obtain ⟨i, hi, -, heq, hkey⟩ := hmember
  exact ⟨i, hi, heq, hkey⟩

/-! ## Records -/

/-- The member, which may be absent, is read for the field as the second value. -/
def ReadsFieldAs (r : Registry) (type : FieldType) (json : Option Json) (result : Option Value) :
    Prop :=
  (json.filter (!r.readsAsAbsent type ·) = none ∧ result = none ∧ type.isOptional) ∨
    ∃ member value, json.filter (!r.readsAsAbsent type ·) = some member ∧ result = some value ∧
      r.ReadsAs type.rule type.depth member value

variable {d : TypeDefinition} {declared : Fields}

/-- An object is decoded as a record with the standard codec field by field. -/
theorem decode_record_eq_ok (hr : r.Checked) (hcodec : r.HasStandardCodec typeName)
    (hd : r.definition? typeName = some d) (hdeclared : d.fieldsOf? none = some declared)
    {members : Entries Json} {i : Instance} :
    r.decode typeName (.object members) = .ok i ↔
      i.tag = r.tag typeName ∧ i.variant = none ∧ i.fields.names.Sublist declared.names ∧
        ∀ field ∈ declared,
          r.ReadsFieldAs field.2 (members.get? field.1) (i.fields.get? field.1) := by
  have hmember : ∀ {variant : Option String} {field : String × FieldType} {result : Option Value},
      (∃ decoded, Decoding.member r d variant field.1 field.2
          ((r.memberReaders r.hookRunner members).get? field.1) = .ok decoded ∧
        r.AcceptsField field.2 decoded result) ↔
      r.ReadsFieldAs field.2 (members.get? field.1) result := by
    intro variant field result
    rw [memberReaders_eq_mapValues, Entries.get?_mapValues]
    exact Decoding.exists_member_iff (fun json _ => json_reader _ json) fun _ _ => readsAs_iff.symm
  have hvariant : ∀ {variant : Option String}, Decoding.variant r d
      (r.memberReaders r.hookRunner members) = .ok variant ↔ variant = none := by
    intro variant
    obtain ⟨name, _ | variants, idField⟩ := d
    · simp [Decoding.variant, TypeDefinition.isUnion, TypeDefinition.variants?, Shape.variants?,
        eq_comm]
    · cases hdeclared
  rw [decode_object_eq_ok hr hcodec]
  constructor
  · intro h
    obtain ⟨_, _, hd', hnone, hdeclared', htag, hsub, hfields⟩ := h
    cases hd.symm.trans hd'
    rw [hvariant] at hnone
    rw [hnone] at hdeclared' hfields
    cases hdeclared.symm.trans hdeclared'
    exact ⟨htag, hnone, hsub, fun field hfield => hmember.mp (hfields field hfield)⟩
  · intro h
    obtain ⟨htag, hnone, hsub, hfields⟩ := h
    exact ⟨d, declared, hd, hvariant.mpr hnone, hnone ▸ hdeclared, htag, hsub,
      fun field hfield => hmember.mpr (hfields field hfield)⟩

end Registry

end RecordSchema
