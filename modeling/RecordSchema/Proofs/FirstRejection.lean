import RecordSchema.Proofs.Rejections

/-!
# The first field that is rejected

Decoding walks over the declared fields twice: the members are read, with everything that the
instances inside them have to be, and only then checked against the types of their fields. So the
field that is reported need not be the first one that does not take its member
(`firstField?_of_decode_eq_error`).
-/

namespace RecordSchema

open Outcome

/-! ## Members that can be read -/

namespace Decoding

variable {r : Registry} {run : HookRunner} {rule : Rule} {depth index : Nat} {path : Path}

/-- Items can be read if each of them can be. -/
theorem exists_items {readers : List ShapeReader}
    (h : ∀ reader ∈ readers, ∀ path, ∃ value, reader.value rule depth path = .ok value) :
    ∃ values, items rule depth path index readers = .ok values := by
  induction readers generalizing index with
  | nil => exact ⟨[], rfl⟩
  | cons reader readers ih =>
      obtain ⟨hreader, hreaders⟩ := List.forall_mem_cons.mp h
      obtain ⟨value, hvalue⟩ := hreader (path.index index)
      obtain ⟨values, hvalues⟩ := ih hreaders
      exact ⟨value :: values,
        bind_eq_ok.mpr ⟨value, hvalue, bind_eq_ok.mpr ⟨values, hvalues, rfl⟩⟩⟩

/-- Every JSON value can be read where no type is referred to. -/
theorem exists_value_of_typeName?_eq_none (hrule : rule.typeName? = none) (json : Json) :
    ∃ value, (r.reader run json).value rule depth path = .ok value := by
  induction json using Json.induction generalizing depth path with
  | array jsons ih =>
      cases depth with
      | zero => cases rule <;> first | exact ⟨_, rfl⟩ | cases hrule
      | succ depth =>
          have hreaders : ∀ reader ∈ jsons.map (r.reader run), ∀ path,
              ∃ value, reader.value rule depth path = .ok value :=
            List.forall_mem_map.mpr fun item hitem _ => ih item hitem
          obtain ⟨values, hvalues⟩ := exists_items hreaders
          rw [Registry.reader, Registry.itemReaders_eq_map]
          exact ⟨.array values, map_eq_ok.mpr ⟨values, hvalues, rfl⟩⟩
  | object jsons ih =>
      cases depth with
      | zero => cases rule <;> first | exact ⟨_, rfl⟩ | cases hrule
      | succ depth => cases rule <;> exact ⟨_, rfl⟩
  | string s =>
      by_cases hdate : rule = .date ∧ depth = 0
      · obtain ⟨rfl, rfl⟩ := hdate
        exact ⟨_, rfl⟩
      · exact ⟨_, value_leaf_string hdate⟩
  | _ => exact ⟨_, rfl⟩

/-- A member that does not read as absent fails to be read as its reader does, which is reported
against the type. -/
theorem member_eq_error {d : TypeDefinition} {variant : Option String} {name : String}
    {type : FieldType} {reader : Option ShapeReader} {error : TypeError} :
    member r d variant name type reader = .error error ↔ ∃ found original, reader = some found ∧
      ¬ r.readsAsAbsent type found.json ∧
      found.value type.rule type.depth [.field name] = .error original ∧
      reportAgainst d variant original = error := by
  cases reader with
  | none => simp [member]
  | some reader => by_cases habsent : r.readsAsAbsent type reader.json <;>
      simp [member, habsent, map_eq_error, mapError_eq_error]

/-- Nothing is read for a field where there is no member or one that reads as absent. -/
theorem member_eq_none {d : TypeDefinition} {variant : Option String} {name : String}
    {type : FieldType} {reader : Option ShapeReader} :
    member r d variant name type reader = .ok none ↔
      reader = none ∨ ∃ found, reader = some found ∧ r.readsAsAbsent type found.json := by
  cases reader with
  | none => simp [member]
  | some reader => by_cases habsent : r.readsAsAbsent type reader.json <;>
      simp [member, habsent, map_eq_ok]

/-- What is read for a field is what its reader gives. -/
theorem member_eq_some {d : TypeDefinition} {variant : Option String} {name : String}
    {type : FieldType} {reader : Option ShapeReader} {value : Value} :
    member r d variant name type reader = .ok (some value) ↔ ∃ found, reader = some found ∧
      ¬ r.readsAsAbsent type found.json ∧
      found.value type.rule type.depth [.field name] = .ok value := by
  cases reader with
  | none => simp [member]
  | some reader => by_cases habsent : r.readsAsAbsent type reader.json <;>
      simp [member, habsent, map_eq_ok, mapError_eq_ok]

end Decoding

/-! ## The two walks over the fields -/

namespace Registry

variable {r : Registry} {typeName : String} {d : TypeDefinition} {variant : Option String}
  {declared : Fields} {members : Entries Json} {error : TypeError}

/-- The field takes its member of the shape, or its absence. -/
def TakesMember (r : Registry) (members : Entries Json) (field : String × FieldType) : Prop :=
  ∃ result, r.DecodesField field.2 (r.memberFor? field.2 members field.1) result

/-- The member of the field can be read, if there is one: the instances inside it are what they
have to be, whether the field takes the value or not. -/
def ReadsMember (r : Registry) (members : Entries Json) (field : String × FieldType) : Prop :=
  ∀ json, r.memberFor? field.2 members field.1 = some json → ∃ value,
    (r.reader r.hookRunner json).value field.2.rule field.2.depth
      [.field field.1] = .ok value

/-- A field has its member read in the first walk exactly if the member can be read. -/
theorem exists_member_iff_readsMember {field : String × FieldType} :
    (∃ decoded, Decoding.member r d variant field.1 field.2
      ((r.memberReaders r.hookRunner members).get? field.1) = .ok decoded) ↔
      r.ReadsMember members field := by
  rw [memberReaders_eq_mapValues, Entries.get?_mapValues, ReadsMember, memberFor?]
  cases members.get? field.1 with
  | none => simp [Decoding.member]
  | some json =>
      rw [Option.map_some, Decoding.member, json_reader, Option.filter_some]
      cases r.readsAsAbsent field.2 json with
      | true => simp
      | false => simp [map_eq_ok, mapError_eq_ok]

/-- Every field that takes its member can have it read. -/
theorem TakesMember.readsMember (hr : r.Resolved) {field : String × FieldType}
    (h : r.TakesMember members field) : r.ReadsMember members field := by
  obtain ⟨result, hresult⟩ := h
  intro json hjson
  rw [hjson] at hresult
  cases hresult with
  | present hdecodes =>
      obtain ⟨value, hvalue, -⟩ := (reader_isFaithful hr _ json).value.mpr hdecodes
      exact ⟨value, hvalue⟩

/-- Every member can be read for a field that refers to no type. -/
theorem readsMember_of_typeName?_eq_none {field : String × FieldType}
    (hrule : field.2.rule.typeName? = none) : r.ReadsMember members field :=
  fun json _ => Decoding.exists_value_of_typeName?_eq_none hrule json

/-- The first walk fails at the first field whose member cannot be read. -/
theorem exists_of_members_eq_error
    (h : Decoding.members r d variant (r.memberReaders r.hookRunner members)
      declared = .error error) :
    ∃ before field after, declared = before ++ field :: after ∧
      (∀ other ∈ before, r.ReadsMember members other) ∧ ¬ r.ReadsMember members field ∧
      error.IsBelow [.field field.1] := by
  rw [Decoding.members_eq_collect] at h
  obtain ⟨before, field, after, rfl, hbefore, hfield⟩ := Entries.collect_eq_error h
  refine ⟨before, field, after, rfl, fun other hother => ?_, fun hreads => ?_, ?_⟩
  · exact exists_member_iff_readsMember.mp (hbefore other hother)
  · obtain ⟨decoded, hdecoded⟩ := exists_member_iff_readsMember.mpr hreads
    cases hfield.symm.trans hdecoded
  · rw [memberReaders_eq_mapValues, Entries.get?_mapValues] at hfield
    obtain ⟨_, original, hreader, -, horiginal, rfl⟩ := Decoding.member_eq_error.mp hfield
    obtain ⟨json, -, rfl⟩ := Option.map_eq_some_iff.mp hreader
    intro rejection hrejection
    exact Decoding.isBelow_of_value horiginal rejection
      ((Decoding.rejection?_reportAgainst ..).symm.trans hrejection)

/-- Constructing an instance fails where its candidates are rejected, and is reported against the
type. -/
theorem construct_eq_error (hd : r.definition? typeName = some d)
    (hdeclared : d.fieldsOf? variant = some declared) {candidate : String → Option Value} :
    r.construct typeName variant candidate = .error error ↔ ∃ rejection,
      Coercion.fields (fun name ↦ (candidate name).map r.coerceValue) [] declared
        = .error rejection ∧ d.rejected variant rejection = error := by
  rw [construct, bind_eq_error_of_ok (definition_eq_ok.mpr hd),
    bind_eq_error_of_ok (fieldsToConstruct_eq_ok.mpr hdeclared), ← mapError_eq_error, bind_eq_error]
  exact or_iff_left fun h => nomatch h.choose_spec.2

/-- The second walk fails at the first field that does not take its candidate. -/
theorem exists_of_construct_eq_error (hr : r.Checked) (hd : r.definition? typeName = some d)
    (hdeclared : d.fieldsOf? variant = some declared) {candidate : String → Option Value}
    (h : r.construct typeName variant candidate = .error error) :
    ∃ before field after, declared = before ++ field :: after ∧
      (∀ other ∈ before, ∃ result, r.AcceptsField other.2 (candidate other.1) result) ∧
      (¬ ∃ result, r.AcceptsField field.2 (candidate field.1) result) ∧
      error.IsBelow [.field field.1] := by
  have haccepts : ∀ {field : String × FieldType} {result : Option Value}, Coercion.field field.2
      ((candidate field.1).map r.coerceValue) (Path.field [] field.1) = .ok result ↔
        r.AcceptsField field.2 (candidate field.1) result :=
    field_eq_ok fun value _ path normal => coerceValue_eq_ok hr path
  obtain ⟨rejection, hcoerced, rfl⟩ := (construct_eq_error hd hdeclared).mp h
  rw [fields_eq_collect] at hcoerced
  obtain ⟨before, field, after, rfl, hbefore, hfield⟩ := Entries.collect_eq_error hcoerced
  refine ⟨before, field, after, rfl, fun other hother => ?_, fun hresult => ?_, ?_⟩
  · exact (hbefore other hother).imp fun _ => haccepts.mp
  · obtain ⟨result, hresult⟩ := hresult
    cases hfield.symm.trans (haccepts.mpr hresult)
  · intro other hother
    cases hother
    exact isBelow_of_field hfield

/-- No rejection is reported where a type is looked up. -/
theorem rejection?_of_lookup (h : r.lookup typeName = .error error) : error.rejection? = none := by
  rw [lookup] at h
  split at h <;> cases h
  rfl

/-- No rejection is reported where the variant of a shape is looked up. -/
theorem rejection?_of_variant {readers : Entries ShapeReader}
    (h : Decoding.variant r d readers = .error error) : error.rejection? = none := by
  rw [Decoding.variant] at h
  split at h
  · split at h <;> cases h
    rfl
  · cases h

/-- No rejection is reported where declared fields are looked up. -/
theorem rejection?_of_declaredFields (h : r.declaredFields typeName variant = .error error) :
    error.rejection? = none := by
  rcases bind_eq_error.mp h with h | ⟨d, -, h⟩
  · exact rejection?_of_lookup (map_eq_error.mp h)
  · obtain ⟨name, _ | variants, idField⟩ := d
    · cases variant <;> cases h
      rfl
    · cases variant with
      | none =>
          cases h
          rfl
      | some variant =>
          simp only at h
          split at h <;> cases h
          rfl

/-- A rejection by the standard codec of a type is one of its fields. -/
theorem fields_of_byCodec_eq_error (hcodec : r.HasStandardCodec typeName) {run : HookRunner}
    {shape : Json} {readers : Option (Entries ShapeReader)} {rejection : Rejection}
    (h : Decoding.byCodec r run typeName shape readers = .error error)
    (hrejection : error.rejection? = some rejection) :
    Decoding.fields r typeName shape readers = .error error := by
  rcases bind_eq_error.mp h with h | ⟨entry, hentry, h⟩
  · cases (rejection?_of_lookup h).symm.trans hrejection
  · rwa [hcodec _ (lookup_eq_ok.mp hentry)] at h

/-- Where the fields of a shape are rejected, their members are in the first walk or what these are
decoded to is in the second one. -/
theorem exists_walk_of_fields_eq_error {run : HookRunner} {shape : Json} {members : Entries Json}
    {rejection : Rejection}
    (h : Decoding.fields r typeName shape (some (r.memberReaders run members)) = .error error)
    (hrejection : error.rejection? = some rejection) :
    ∃ d variant declared, r.definition? typeName = some d ∧
      r.shapeVariant? d (Value.ofJsonMembers members) = some variant ∧
      d.fieldsOf? variant = some declared ∧
      (Decoding.members r d variant (r.memberReaders run members) declared = .error error ∨
        ∃ decoded, Decoding.members r d variant (r.memberReaders run members) declared
            = .ok decoded ∧
          r.construct typeName variant decoded.get? = .error error) := by
  rcases bind_eq_error.mp h with hlookup | ⟨d, hd, h⟩
  · cases (rejection?_of_lookup (map_eq_error.mp hlookup)).symm.trans hrejection
  rcases bind_eq_error.mp h with hnamed | ⟨variant, hvariant, h⟩
  · cases (rejection?_of_variant hnamed).symm.trans hrejection
  rcases bind_eq_error.mp h with hlookup | ⟨declared, hdeclared, h⟩
  · cases (rejection?_of_declaredFields hlookup).symm.trans hrejection
  rw [definition_eq_ok] at hd
  rw [Decoding.variant_eq_ok (get?_memberReaders run members)] at hvariant
  obtain ⟨_, hd', hdeclared⟩ := declaredFields_eq_ok.mp hdeclared
  cases hd.symm.trans hd'
  exact ⟨d, variant, declared, hd, hvariant, hdeclared, bind_eq_error.mp h⟩

/-- A rejection comes from the first walk over the fields, or from the second one if all members can
be read. -/
theorem walk_of_decode_eq_error (hr : r.IsBuilt) {json : Json} {rejection : Rejection}
    (h : r.decode typeName json = .error error) (hrejection : error.rejection? = some rejection) :
    ∃ members d variant before field after, json = .object members ∧
      r.definition? typeName = some d ∧
      r.shapeVariant? d (Value.ofJsonMembers members) = some variant ∧
      d.fieldsOf? variant = some (before ++ field :: after) ∧
      rejection.path.firstField? = some field.1 ∧
      (((∀ other ∈ before, r.ReadsMember members other) ∧ ¬ r.ReadsMember members field) ∨
        ((∀ other ∈ before ++ field :: after, r.ReadsMember members other) ∧
          (∀ other ∈ before, r.TakesMember members other) ∧ ¬ r.TakesMember members field)) := by
  have hcodec := hr.resolved.hasStandardCodec typeName
  cases json with
  | object members =>
      have hfields := fields_of_byCodec_eq_error hcodec h hrejection
      obtain ⟨d, variant, declared, hd, hvariant, hdeclared, hwalk⟩ :=
        exists_walk_of_fields_eq_error hfields hrejection
      rcases hwalk with hread | ⟨decoded, hdecoded, hconstruct⟩
      · obtain ⟨before, field, after, rfl, hbefore, hfield, hbelow⟩ :=
          exists_of_members_eq_error hread
        exact ⟨members, d, variant, before, field, after, rfl, hd, hvariant, hdeclared,
          (hbelow rejection hrejection).firstField?_eq, .inl ⟨hbefore, hfield⟩⟩
      · have hdistinct := (hr.resolved.checked.names hd).distinct hdeclared
        rw [Decoding.members_eq_collect, Entries.collect_eq_ok hdistinct] at hdecoded
        have htakes : ∀ field ∈ declared,
            (∃ result, r.AcceptsField field.2 (decoded.get? field.1) result) ↔
              r.TakesMember members field := by
          intro field hfield
          refine exists_congr fun result => ?_
          rw [← exists_ok_iff (P := (r.AcceptsField field.2 · result)) (hdecoded.2 field hfield),
            memberReaders_eq_mapValues]
          exact Decoding.exists_member_iff_decodesField fun member _ =>
            reader_isFaithful hr.resolved _ member.2
        have hreads : ∀ field ∈ declared, r.ReadsMember members field := fun field hfield =>
          exists_member_iff_readsMember.mp ⟨_, hdecoded.2 field hfield⟩
        obtain ⟨before, field, after, rfl, hbefore, hfield, hbelow⟩ :=
          exists_of_construct_eq_error hr.resolved.checked hd hdeclared hconstruct
        refine ⟨members, d, variant, before, field, after, rfl, hd, hvariant, hdeclared,
          (hbelow rejection hrejection).firstField?_eq, .inr ⟨hreads, fun other hother => ?_, ?_⟩⟩
        · exact (htakes other (List.mem_append_left _ hother)).mp (hbefore other hother)
        · exact fun h => hfield ((htakes field List.mem_append_cons_self).mpr h)
  | _ =>
      have hfields := fields_of_byCodec_eq_error hcodec h hrejection
      cases hfields
      cases hrejection

/-- Where decoding rejects a shape, there is a first field that does not take its member, and the
rejection is of this field or of a later one that does not take its member either. It is of this
field exactly if its member cannot be read, or all later members can be. -/
theorem firstField?_of_decode_eq_error (hr : r.IsBuilt) {json : Json} {rejection : Rejection}
    (h : r.decode typeName json = .error error) (hrejection : error.rejection? = some rejection) :
    ∃ members d variant before field after, json = .object members ∧
      r.definition? typeName = some d ∧
      r.shapeVariant? d (Value.ofJsonMembers members) = some variant ∧
      d.fieldsOf? variant = some (before ++ field :: after) ∧
      (∀ other ∈ before, r.TakesMember members other) ∧ ¬ r.TakesMember members field ∧
      (∃ found ∈ field :: after, rejection.path.firstField? = some found.1 ∧
        ¬ r.TakesMember members found) ∧
      (rejection.path.firstField? = some field.1 ↔
        ¬ r.ReadsMember members field ∨ ∀ other ∈ after, r.ReadsMember members other) := by
  obtain ⟨members, d, variant, before, found, after, rfl, hd, hvariant, hdeclared, hpath, hwalk⟩ :=
    walk_of_decode_eq_error hr h hrejection
  rcases hwalk with ⟨hbefore, hfound⟩ | ⟨hreads, hbefore, hfound⟩
  · have htakes : ¬ r.TakesMember members found := fun h => hfound (h.readsMember hr.resolved)
    by_cases hall : ∀ other ∈ before, r.TakesMember members other
    · exact ⟨members, d, variant, before, found, after, rfl, hd, hvariant, hdeclared, hall, htakes,
        ⟨found, List.mem_cons_self, hpath, htakes⟩, fun _ => .inl hfound, fun _ => hpath⟩
    -- A field before the one that cannot be read does not take its member either.
    · obtain ⟨first, field, middle, rfl, hfirst, hfield⟩ := exists_first_not hall
      have hread : r.ReadsMember members field := hbefore field List.mem_append_cons_self
      have hmem : found ∈ middle ++ found :: after := List.mem_append_cons_self
      rw [List.append_assoc, List.cons_append] at hdeclared
      refine ⟨members, d, variant, first, field, middle ++ found :: after, rfl, hd, hvariant,
        hdeclared, hfirst, hfield, ⟨found, List.mem_cons_of_mem _ hmem, hpath, htakes⟩,
        fun hname => ?_, fun h => ?_⟩
      · have hdistinct := (hr.resolved.checked.names hd).distinct hdeclared
        rw [Entries.names_append, Entries.names_cons] at hdistinct
        have hnew := (List.nodup_cons.mp (List.nodup_append.mp hdistinct).2.1).1
        obtain hname := Option.some.inj (hpath.symm.trans hname)
        exact absurd (hname ▸ Entries.mem_names_of_mem hmem) hnew
      · exact absurd hread (h.resolve_right fun hafter => hfound (hafter found hmem))
  · exact ⟨members, d, variant, before, found, after, rfl, hd, hvariant, hdeclared, hbefore, hfound,
      ⟨found, List.mem_cons_self, hpath, hfound⟩,
      fun _ => .inr fun other hother =>
        hreads other (List.mem_append_right _ (List.mem_cons_of_mem _ hother)),
      fun _ => hpath⟩

end Registry

/-!
A parcel has a weight, an address and a note. The weight is wrong in all of the following shapes.
-/

namespace Parcels

/-- The fields of an address. -/
def addressFields : Fields :=
  [("city", .ofRule .string)]

/-- The fields of a parcel. -/
def parcelFields : Fields :=
  [("weight", .ofRule .number), ("address", .ofRule (.tagged "Address")), ("note", .ofRule .string)]

/-- Parcels. -/
def parcel : TypeDefinition :=
  ⟨"Parcel", .record parcelFields, none⟩

/-- The declaration of addresses and parcels. -/
def declarations : Declarations :=
  { Declarations.empty .standard with
    definitions := [⟨"Address", .record addressFields, none⟩, parcel] }

/-- The registry of addresses and parcels. -/
def registry : Registry where
  number := 0
  types := [("Address", ⟨⟨"Address", .record addressFields, none⟩, .standard⟩),
    ("Parcel", ⟨parcel, .standard⟩)]
  patterns := []
  config := .standard

theorem isBuilt_registry : registry.IsBuilt := by
  refine ⟨declarations, ⟨fun d hd => ?_, by simp [declarations, Declarations.empty]⟩, rfl⟩
  simp only [declarations, List.mem_cons, List.not_mem_nil, or_false] at hd
  rcases hd with rfl | rfl
  · exact @TypeDefinition.IsDeclared.record "Address" addressFields _ (by decide) rfl
  · exact @TypeDefinition.IsDeclared.record "Parcel" parcelFields _ (by decide) rfl

/-- A parcel to this city whose weight is no number. -/
def members (city : Json) : Entries Json :=
  [("weight", .string "heavy"), ("address", .object [("city", city)]), ("note", .string "fragile")]

/-- The weight is no number. -/
def wrongWeight : Rejection :=
  .wrongKind [.field "weight"] "Number" (.string "heavy")

/-- The city is no text. -/
def wrongCity : Rejection :=
  .wrongKind [.field "address", .field "city"] "String" (.number (.ofInt 1))

theorem decode_members : registry.decode "Parcel" (.object (members (.string "Bern"))) =
    .error (parcel.rejected none wrongWeight) := rfl

theorem not_takesMember_weight {city : Json} :
    ¬ registry.TakesMember (members city) ("weight", .ofRule .number) := by
  intro h
  obtain ⟨result, hresult⟩ := h
  have hmember : registry.memberFor? (.ofRule .number) (members city) "weight" =
      some (.string "heavy") := rfl
  rw [hmember] at hresult
  cases hresult with
  | present hdecodes =>
      cases hdecodes with
      | pattern hp => cases hp

/-- The wrong weight of a parcel to a city is reported. -/
theorem firstField?_wrongWeight :
    registry.IsBuilt ∧ registry.decode "Parcel" (.object (members (.string "Bern"))) =
      .error (parcel.rejected none wrongWeight) ∧
    (parcel.rejected none wrongWeight).rejection? = some wrongWeight ∧
    wrongWeight.path.firstField? = some "weight" := by
  refine ⟨isBuilt_registry, decode_members, rfl, ?_⟩
  obtain ⟨_, _, variant, before, field, after, hjson, hd, hvariant, hdeclared, hbefore, -, -,
    hpath⟩ := Registry.firstField?_of_decode_eq_error isBuilt_registry decode_members rfl
  cases hjson
  cases hd
  cases hvariant
  have hfields : parcelFields = before ++ field :: after := Option.some.inj hdeclared
  cases before with
  | cons first before =>
      obtain ⟨rfl, -⟩ := List.cons.inj hfields
      exact absurd (hbefore _ List.mem_cons_self) not_takesMember_weight
  | nil =>
      obtain ⟨rfl, rfl⟩ := List.cons.inj hfields
      refine hpath.mpr (.inr fun other hother => ?_)
      simp only [List.mem_cons, List.not_mem_nil, or_false] at hother
      rcases hother with rfl | rfl
      · intro json hjson
        cases hjson
        exact ⟨_, rfl⟩
      · exact Registry.readsMember_of_typeName?_eq_none rfl

theorem decode_members_wrongCity :
    registry.decode "Parcel" (.object (members (.number (.integer 1)))) =
      .error (parcel.rejected none wrongCity) := rfl

/-- The first field that does not take its member is not always the one that is reported: a later
one is reported if its member cannot be read. -/
theorem not_forall_firstField?_eq :
    ¬ ∀ (r : Registry) (typeName : String) (members : Entries Json) (error : TypeError)
        (rejection : Rejection) (d : TypeDefinition) (variant : Option String)
        (before after : Fields) (field : String × FieldType), r.IsBuilt →
      r.decode typeName (.object members) = .error error → error.rejection? = some rejection →
      r.definition? typeName = some d →
      r.shapeVariant? d (Value.ofJsonMembers members) = some variant →
      d.fieldsOf? variant = some (before ++ field :: after) →
      (∀ other ∈ before, r.TakesMember members other) → ¬ r.TakesMember members field →
      rejection.path.firstField? = some field.1 := by
  intro h
  have hfirst := h registry "Parcel" _ _ wrongCity parcel none [] parcelFields.tail
    ("weight", .ofRule .number) isBuilt_registry decode_members_wrongCity rfl rfl rfl rfl
    (List.forall_mem_nil _) not_takesMember_weight
  exact absurd (Option.some.inj hfirst) (by decide)

end Parcels

end RecordSchema
