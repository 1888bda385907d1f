import RecordSchema.Proofs.Session

/-!
# Typed readings of shapes

`Registry.typedReading` turns a JSON value into a plain one, guided by a rule: where the rule says
so, null members are left out, texts become dates, and lists become objects whose members are filed
under their keys. Nothing is validated and no instance is made. Decoding a shape gives the same
instances as adapting its typed reading (`decode_eq_ok_iff_adapt_typedReading`), if no variant has a
field of the name under which shapes name their variants.
-/

namespace RecordSchema

open Outcome

/-- Why a list cannot be read as a keyed collection. -/
inductive ReadingFault where
  | unusableKey
  | sharedKey

/-- The key of a plain member of a collection keyed by a field. -/
def Value.memberKey? (idField : String) : Value → Option String
  | .object members => (Entries.get? idField members).bind (·.keyText?)
  | _ => none

/-- The value under the key that it has as a member. -/
def Value.withKey (idField : String) (value : Value) : Except ReadingFault (String × Value) :=
  match value.memberKey? idField with
  | some key => .ok (key, value)
  | none => .error .unusableKey

/-- The values under the keys that they have as members; no two of them share a key. -/
def fileByKey (idField : String) (values : List Value) : Except ReadingFault (Entries Value) := do
  let members ← values.mapM (·.withKey idField)
  if (Entries.names members).Nodup then .ok members else .error .sharedKey

namespace Registry

/-- The fields that a shape of a type is read by: those of the record, or of the variant that the
shape names. -/
def shapeFields? (r : Registry) (typeName : String) (members : Entries Json) : Option Fields := do
  let d ← r.definition? typeName
  let variant ← r.shapeVariant? d (Value.ofJsonMembers members)
  d.fieldsOf? variant

mutual

/-- The plain value that a JSON value stands for under a rule inside `depth` arrays. -/
def typedReading (r : Registry) : Json → Rule → Nat → Except ReadingFault Value
  | .array items, rule, depth + 1 => (itemReadings r rule depth items).map .array
  | .array items, .keyed typeName idField, 0 => do
      let values ← itemReadings r (.tagged typeName) 0 items
      let members ← fileByKey (idField.getD defaultIdField) values
      return .object members
  | .object members, .tagged typeName, 0 =>
      match shapeFields? r typeName members with
      | some declared => (memberReadings r declared.get? members).map .object
      | none => .ok (.ofJson (.object members))
  | .object members, .keyed typeName _, 0 =>
      (memberReadings r (fun _ ↦ some (.ofRule (.tagged typeName))) members).map .object
  | .string text, .date, 0 => .ok (((Instant.parse? text).map .date).getD (.string text))
  | json, _, _ => .ok (.ofJson json)

/-- The readings of the items of an array. -/
def itemReadings (r : Registry) (rule : Rule) (depth : Nat) :
    List Json → Except ReadingFault (List Value)
  | [] => .ok []
  | item :: items => do
      let first ← typedReading r item rule depth
      let others ← itemReadings r rule depth items
      return first :: others

/-- The readings of the members of an object, of which some are fields. -/
def memberReadings (r : Registry) (typeOf : String → Option FieldType) :
    List (String × Json) → Except ReadingFault (List (String × Value))
  | [] => .ok []
  | (key, json) :: members => do
      let reading ← (match typeOf key with
        | none => .ok (some (.ofJson json))
        | some type =>
            if readsAsAbsent r type json then .ok none
            else (typedReading r json type.rule type.depth).map some)
      let others ← memberReadings r typeOf members
      return match reading with
        | some value => (key, value) :: others
        | none => others

end

variable {r : Registry}

/-- Items are read one by one. -/
theorem itemReadings_eq_ok {rule : Rule} {depth : Nat} {items : List Json} {values : List Value} :
    r.itemReadings rule depth items = .ok values ↔
      List.Forall₂ (fun json value => r.typedReading json rule depth = .ok value) items values := by
  have hmapM : r.itemReadings rule depth items =
      items.mapM fun json => r.typedReading json rule depth := by
    induction items with
    | nil => rfl
    | cons item items ih => rw [itemReadings, ih, List.mapM_cons]
  rw [hmapM, mapM_eq_ok]

/-- The reading of a member of an object, which may be a field. -/
def memberReading (r : Registry) (type? : Option FieldType) (json : Json) :
    Except ReadingFault (Option Value) :=
  match type? with
  | none => .ok (some (.ofJson json))
  | some type =>
      if r.readsAsAbsent type json then .ok none
      else (r.typedReading json type.rule type.depth).map some

/-- Members are read in a walk over the object. -/
theorem memberReadings_eq_collect (typeOf : String → Option FieldType) (members : Entries Json) :
    r.memberReadings typeOf members =
      members.collect fun name json ↦ r.memberReading (typeOf name) json := by
  induction members with
  | nil => rfl
  | cons member members ih =>
      obtain ⟨key, json⟩ := member
      rw [memberReadings, ih, Entries.collect]
      cases typeOf key <;>
        exact congrArg _ (funext fun reading => by cases reading <;> rfl)

/-- Values are filed under distinct keys, each under its own. -/
theorem fileByKey_eq_ok {idField : String} {values : List Value} {members : Entries Value} :
    fileByKey idField values = .ok members ↔
      values = members.values ∧
        (∀ member ∈ members, member.2.memberKey? idField = some member.1) ∧
        members.names.Nodup := by
  have hmember : ∀ {value : Value} {member : String × Value},
      value.withKey idField = .ok member ↔
        value = member.2 ∧ member.2.memberKey? idField = some member.1 := by
    rintro value ⟨name, other⟩
    rw [Value.withKey]
    constructor
    · intro h
      split at h
      next key hkey =>
          cases h
          exact ⟨rfl, hkey⟩
      next => cases h
    · intro h
      obtain ⟨rfl, hkey⟩ := h
      simp only [hkey]
  have hvalues : ∀ {found : Entries Value},
      List.Forall₂ (fun value member => value = member.2) values found ↔
        values = found.values := by
    intro found
    rw [← List.forall₂_map_right_iff (R := Eq), List.forall₂_eq_eq_eq]
    rfl
  rw [fileByKey, bind_eq_ok]
  simp only [mapM_eq_ok, hmember, forall₂_and_right, hvalues]
  constructor
  · intro h
    obtain ⟨found, ⟨rfl, hkeys⟩, h⟩ := h
    split at h
    next hdistinct =>
        cases h
        exact ⟨rfl, hkeys, hdistinct⟩
    next => cases h
  · intro h
    obtain ⟨rfl, hkeys, hdistinct⟩ := h
    exact ⟨members, ⟨rfl, hkeys⟩, if_pos hdistinct⟩

/-- A list is read under a keyed rule item by item, as an object of the readings under their
different keys. -/
theorem typedReading_keyedItems_eq_ok {typeName idField : String} {items : List Json}
    {value : Value} :
    r.typedReading (.array items) (.keyed typeName (some idField)) 0 = .ok value ↔
      ∃ members : Entries Value, value = .object members ∧
        List.Forall₂ (fun json member => r.typedReading json (.tagged typeName) 0 = .ok member.2)
          items members ∧
        (∀ member ∈ members, member.2.memberKey? idField = some member.1) ∧
        members.names.Nodup := by
  have hmap : ∀ {members : Entries Value},
      List.Forall₂ (fun json value => r.typedReading json (.tagged typeName) 0 = .ok value) items
          members.values ↔
        List.Forall₂ (fun json member => r.typedReading json (.tagged typeName) 0 = .ok member.2)
          items members := List.forall₂_map_right_iff
  rw [typedReading, bind_eq_ok]
  simp only [itemReadings_eq_ok]
  constructor
  · intro h
    obtain ⟨values, hvalues, hvalue⟩ := h
    obtain ⟨members, hmembers, heq⟩ := bind_eq_ok.mp hvalue
    obtain ⟨rfl, hkeys, hdistinct⟩ := fileByKey_eq_ok.mp hmembers
    exact ⟨members, (pure_eq_ok.mp heq).symm, hmap.mp hvalues, hkeys, hdistinct⟩
  · intro h
    obtain ⟨members, rfl, hall, hkeys, hdistinct⟩ := h
    exact ⟨members.values, hmap.mpr hall,
      bind_eq_ok.mpr ⟨members, fileByKey_eq_ok.mpr ⟨rfl, hkeys, hdistinct⟩, rfl⟩⟩

/-- An object is read under a keyed rule member by member. -/
theorem typedReading_keyedMembers_eq_ok {typeName : String} {idField : Option String}
    {jsons : Entries Json} {value : Value} :
    r.typedReading (.object jsons) (.keyed typeName idField) 0 = .ok value ↔
      ∃ members : Entries Value, value = .object members ∧
        List.Forall₂ (fun json member => json.1 = member.1 ∧
          r.typedReading json.2 (.tagged typeName) 0 = .ok member.2) jsons members := by
  have hreading : ∀ json, r.memberReading (some (.ofRule (.tagged typeName))) json =
      (r.typedReading json (.tagged typeName) 0).map some := by
    intro json
    refine if_neg ?_
    cases json <;> simp [readsAsAbsent, FieldType.ofRule]
  rw [typedReading, map_eq_ok]
  simp only [memberReadings_eq_collect, hreading, Entries.collect_map_some_eq_ok]
  exact exists_congr fun members => and_comm.trans (and_congr_left fun _ => eq_comm)

/-! ## Keys -/

/-- Readings are plain. -/
theorem instance?_of_typedReading {json : Json} {rule : Rule} {depth : Nat} {reading : Value}
    (h : r.typedReading json rule depth = .ok reading) : reading.instance? = none := by
  unfold typedReading at h
  split at h
  · obtain ⟨values, -, rfl⟩ := map_eq_ok.mp h
    rfl
  · obtain ⟨values, -, h⟩ := bind_eq_ok.mp h
    obtain ⟨members, -, h⟩ := bind_eq_ok.mp h
    rw [← pure_eq_ok.mp h]
    rfl
  · split at h
    · obtain ⟨members, -, rfl⟩ := map_eq_ok.mp h
      rfl
    · cases h
      rfl
  · obtain ⟨members, -, rfl⟩ := map_eq_ok.mp h
    rfl
  · cases h
    next text => cases Instant.parse? text <;> rfl
  · cases h
    cases json <;> rfl

/-- Normal forms keep the text of a key. -/
theorem Accepts.keyText?_eq {rule : Rule} {depth : Nat} {value normal : Value}
    (h : r.Accepts rule depth value normal) : value.keyText? = normal.keyText? := by
  cases h <;> rfl

/-- Declared fields are found among the members that fields are looked up in, if no variant declares
the variant key. -/
theorem get?_fieldMembers (hkey : r.HasFreeVariantKey) {typeName name : String} {d : TypeDefinition}
    {variant : Option String} {declared : Fields} (hd : r.definition? typeName = some d)
    (hdeclared : d.fieldsOf? variant = some declared) (hname : name ∈ declared.names)
    (members : Entries Value) : (r.fieldMembers d members).get? name = members.get? name := by
  cases variant with
  | none =>
      obtain ⟨_, _ | variants, _⟩ := d
      · rfl
      · cases hdeclared
  | some variant =>
      have hne : r.config.codec.variantKey ≠ name := fun heq =>
        hkey hd hdeclared (heq ▸ hname)
      rw [fieldMembers]
      split
      · exact Entries.get?_erase_of_ne hne members
      · rfl

/-- The key of an instance is that of the plain member that it is made of. -/
theorem memberKey?_of_accepts (hkey : r.HasFreeVariantKey) {typeName idField key : String}
    {value normal : Value} (h : r.Accepts (.tagged typeName) 0 value normal)
    (hplain : value.instance? = none)
    (hnormal : normal.instance?.bind (·.keyText? idField) = some key) :
    value.memberKey? idField = some key := by
  cases h with
  | pattern hp => cases hp
  | owned => cases hplain
  | @shape _ d _ declared members fields hd _ hdeclared hsub hfields =>
      have hfieldkey : (fields.get? idField).bind (·.keyText?) = some key := hnormal
      obtain ⟨found, hfound, hfoundkey⟩ := Option.bind_eq_some_iff.mp hfieldkey
      have hname : idField ∈ declared.names := hsub.subset (Entries.mem_names_of_get? hfound)
      obtain ⟨type, htype⟩ := Entries.exists_mem_of_mem_names hname
      have haccepts := hfields _ htype
      rw [get?_fieldMembers hkey hd hdeclared hname] at haccepts
      rcases acceptsField_iff.mp haccepts with ⟨-, hnone, -⟩ | ⟨_, _, horiginal, hnormal, haccepts⟩
      · cases hnone.symm.trans hfound
      · cases hnormal.symm.trans hfound
        rw [Value.memberKey?, horiginal]
        exact haccepts.keyText?_eq.trans hfoundkey

/-! ## Decoding and reading agree -/

section Shapes

variable {declared : Fields} {members : Entries Json} {readings : Entries Value}
  (hdistinct : members.names.Nodup)
  (hreadings : members.collect (fun name json ↦ r.memberReading (declared.get? name) json) =
    .ok readings)

include hdistinct hreadings

/-- Under each name there is the reading of its member, unless it reads as absent. -/
theorem memberReading_eq_ok (name : String) :
    match members.get? name with
    | none => readings.get? name = none
    | some json => r.memberReading (declared.get? name) json = .ok (readings.get? name) := by
  obtain ⟨hsub, hall⟩ := (Entries.collect_eq_ok hdistinct).mp hreadings
  cases hget : members.get? name with
  | none =>
      rw [Entries.get?_eq_none_iff] at hget
      exact Entries.get?_eq_none_iff.mpr fun hmem => hget (hsub.subset hmem)
  | some json => exact hall _ (Entries.mem_of_get? hget)

/-- The reading of a member that is no field is its plain value. -/
theorem get?_readings_of_not_mem {name : String} (hname : name ∉ declared.names) :
    readings.get? name = (Entries.get? name (Value.ofJsonMembers members)) := by
  have hreading := memberReading_eq_ok hdistinct hreadings name
  rw [Value.ofJsonMembers_eq_mapValues, Entries.get?_mapValues]
  rw [Entries.get?_eq_none_iff.mpr hname] at hreading
  cases hget : members.get? name with
  | none =>
      rw [hget] at hreading
      exact hreading
  | some json =>
      rw [hget] at hreading
      exact (Except.ok.inj hreading).symm

/-- A field accepts the reading of its member when it is decoded from it, if this holds of each
member and its reading. -/
theorem acceptsField_reading_iff {field : String × FieldType} {result : Option Value}
    (hfield : declared.get? field.1 = some field.2)
    (h : ∀ member ∈ members, ∀ {rule depth value}, r.Decodes rule depth member.2 value ↔
      ∃ reading, r.typedReading member.2 rule depth = .ok reading ∧
        r.Accepts rule depth reading value) :
    r.AcceptsField field.2 (readings.get? field.1) result ↔
      r.DecodesField field.2 (r.memberFor? field.2 members field.1) result := by
  have hreading := memberReading_eq_ok hdistinct hreadings field.1
  rw [hfield] at hreading
  rw [memberFor?]
  cases hget : members.get? field.1 with
  | none =>
      rw [hget] at hreading
      simp only at hreading
      rw [hreading]
      simp [acceptsField_iff, decodesField_iff]
  | some json =>
      rw [hget] at hreading
      simp only [memberReading] at hreading
      rw [Option.filter_some]
      split at hreading
      next habsent =>
          rw [← Except.ok.inj hreading]
          simp [habsent, acceptsField_iff, decodesField_iff]
      next hpresent =>
          obtain ⟨reading, hjson, heq⟩ := map_eq_ok.mp hreading
          rw [← heq]
          have hdecodes := @h _ (Entries.mem_of_get? hget)
          rw [Bool.not_eq_true] at hpresent
          simp only [hpresent, Bool.not_false, if_true]
          constructor
          · intro haccepts
            cases haccepts with
            | present haccepts => exact .present (hdecodes.mpr ⟨reading, hjson, haccepts⟩)
          · intro hmember
            cases hmember with
            | present hmember =>
                obtain ⟨other, hother, haccepts⟩ := hdecodes.mp hmember
                cases hjson.symm.trans hother
                exact .present haccepts

/-- The readings of a shape name the variant that the shape names. -/
theorem shapeVariant?_readings (hkey : r.HasFreeVariantKey) {typeName : String} {d : TypeDefinition}
    {variant : Option String} (hd : r.definition? typeName = some d)
    (hdeclared : d.fieldsOf? variant = some declared) :
    r.shapeVariant? d readings = r.shapeVariant? d (Value.ofJsonMembers members) := by
  obtain ⟨name, _ | variants, idField⟩ := d
  · rfl
  · cases variant with
    | none => cases hdeclared
    | some variant =>
        rw [shapeVariant?, shapeVariant?,
          get?_readings_of_not_mem hdistinct hreadings (hkey hd hdeclared)]

end Shapes

theorem shapeFields?_eq_some {typeName : String} {members : Entries Json} {declared : Fields} :
    r.shapeFields? typeName members = some declared ↔
      ∃ d variant, r.definition? typeName = some d ∧
        r.shapeVariant? d (Value.ofJsonMembers members) = some variant ∧
        d.fieldsOf? variant = some declared := by
  simp [shapeFields?, Option.bind_eq_some_iff]

/-- An object is decoded as an instance when its reading is accepted as the same instance, if this
holds of each of its members and its reading. -/
theorem decodes_shape_iff (hr : r.Resolved) (hkey : r.HasFreeVariantKey) {typeName : String}
    {members : Entries Json} {value : Value} (hdistinct : members.names.Nodup)
    (h : ∀ member ∈ members, ∀ {rule depth value}, r.Decodes rule depth member.2 value ↔
      ∃ reading, r.typedReading member.2 rule depth = .ok reading ∧
        r.Accepts rule depth reading value) :
    r.Decodes (.tagged typeName) 0 (.object members) value ↔
      ∃ reading, r.typedReading (.object members) (.tagged typeName) 0 = .ok reading ∧
        r.Accepts (.tagged typeName) 0 reading value := by
  constructor
  · intro hdecodes
    cases hdecodes with
    | @shape _ d variant declared _ fields hd hvariant hdeclared hsub hfields =>
        have hget : ∀ field ∈ declared, declared.get? field.1 = some field.2 := fun field hfield =>
          Entries.get?_of_mem ((hr.checked.names hd).distinct hdeclared) hfield
        -- Every member has a reading: undeclared ones as they are, the others since they decode.
        obtain ⟨readings, hreadings⟩ : ∃ readings,
            members.collect (fun name json ↦ r.memberReading (declared.get? name) json) =
              .ok readings := by
          refine Entries.exists_collect fun member hmember => ?_
          cases hfield : declared.get? member.1 with
          | none => exact ⟨_, rfl⟩
          | some type =>
              have hdecodes := hfields _ (Entries.mem_of_get? hfield)
              rw [memberFor?, Entries.get?_of_mem hdistinct hmember, Option.filter_some] at hdecodes
              by_cases habsent : r.readsAsAbsent type member.2
              · exact ⟨none, if_pos habsent⟩
              · rw [if_pos (by simpa using habsent)] at hdecodes
                generalize fields.get? member.1 = result at hdecodes
                cases hdecodes with
                | present hdecodes =>
                    obtain ⟨reading, hreading, -⟩ := (h member hmember).mp hdecodes
                    exact ⟨some reading, (if_neg habsent).trans (map_eq_ok.mpr ⟨_, hreading, rfl⟩)⟩
        refine ⟨.object readings, ?_, ?_⟩
        · rw [typedReading, shapeFields?_eq_some.mpr ⟨d, variant, hd, hvariant, hdeclared⟩]
          exact map_eq_ok.mpr ⟨readings, (memberReadings_eq_collect ..).trans hreadings, rfl⟩
        · have hvariant' :=
            (shapeVariant?_readings hdistinct hreadings hkey hd hdeclared).trans hvariant
          refine .shape hd hvariant' hdeclared hsub fun field hfield => ?_
          rw [get?_fieldMembers hkey hd hdeclared (Entries.mem_names_of_mem hfield)]
          exact (acceptsField_reading_iff hdistinct hreadings (hget field hfield) h).mpr
            (hfields field hfield)
  · intro h
    obtain ⟨reading, hreading, haccepts⟩ := h
    rw [typedReading] at hreading
    split at hreading
    next declared hshape =>
        obtain ⟨readings, hreadings, rfl⟩ := map_eq_ok.mp hreading
        rw [memberReadings_eq_collect] at hreadings
        obtain ⟨d, variant, hd, hvariant, hdeclared⟩ := shapeFields?_eq_some.mp hshape
        cases haccepts with
        | shape hd' hvariant' hdeclared' hsub hfields =>
            cases hd.symm.trans hd'
            rw [shapeVariant?_readings hdistinct hreadings hkey hd hdeclared, hvariant] at hvariant'
            cases hvariant'
            cases hdeclared.symm.trans hdeclared'
            refine .shape hd hvariant hdeclared hsub fun field hfield => ?_
            have hget : declared.get? field.1 = some field.2 :=
              Entries.get?_of_mem ((hr.checked.names hd).distinct hdeclared) hfield
            have haccepts := hfields field hfield
            rw [get?_fieldMembers hkey hd hdeclared (Entries.mem_names_of_mem hfield)] at haccepts
            exact (acceptsField_reading_iff hdistinct hreadings hget h).mp haccepts
    -- Read as it is, since it is no shape of the type; then nothing accepts it either.
    next hshape =>
        cases hreading
        rw [Value.ofJson] at haccepts
        cases haccepts with
        | shape hd hvariant hdeclared =>
            cases hshape.symm.trans (shapeFields?_eq_some.mpr ⟨_, _, hd, hvariant, hdeclared⟩)

/-- Readings of members that have the names of the members they become. -/
theorem exists_reading_iff_exists_named {json : Json} {typeName : String}
    {member : String × Value} :
    (∃ reading, r.typedReading json (.tagged typeName) 0 = .ok reading ∧
      r.Accepts (.tagged typeName) 0 reading member.2) ↔
      ∃ named : String × Value, r.typedReading json (.tagged typeName) 0 = .ok named.2 ∧
        named.1 = member.1 ∧ r.Accepts (.tagged typeName) 0 named.2 member.2 := by
  constructor
  · intro h
    obtain ⟨reading, hreading, haccepts⟩ := h
    exact ⟨(member.1, reading), hreading, rfl, haccepts⟩
  · intro h
    obtain ⟨named, hreading, -, haccepts⟩ := h
    exact ⟨named.2, hreading, haccepts⟩

/-- A list is decoded as a keyed collection when its reading is accepted, if this holds of each item
and its reading. -/
theorem decodes_keyedItems_iff_exists_typedReading (hkey : r.HasFreeVariantKey)
    {typeName idField : String} {items : List Json} {value : Value}
    (h : ∀ item ∈ items, ∀ {rule depth value}, r.Decodes rule depth item value ↔
      ∃ reading, r.typedReading item rule depth = .ok reading ∧
        r.Accepts rule depth reading value) :
    r.Decodes (.keyed typeName (some idField)) 0 (.array items) value ↔
      ∃ reading, r.typedReading (.array items) (.keyed typeName (some idField)) 0 = .ok reading ∧
        r.Accepts (.keyed typeName (some idField)) 0 reading value := by
  have hitems : ∀ {members : Entries Value},
      List.Forall₂ (fun json member => r.Decodes (.tagged typeName) 0 json member.2) items members ↔
        ∃ named : Entries Value,
          List.Forall₂ (fun json reading =>
            r.typedReading json (.tagged typeName) 0 = .ok reading.2) items named ∧
          List.Forall₂ (fun reading member => reading.1 = member.1 ∧
            r.Accepts (.tagged typeName) 0 reading.2 member.2) named members := by
    intro members
    rw [← forall₂_exists_iff]
    exact forall₂_congr_left fun item hitem member =>
      (h item hitem).trans exists_reading_iff_exists_named
  rw [decodes_keyedItems_iff]
  simp only [typedReading_keyedItems_eq_ok, hitems]
  constructor
  · intro h
    obtain ⟨members, rfl, ⟨named, hreadings, haccepts⟩, hkeys, hdistinct⟩ := h
    have hnames : named.names = members.names := (Entries.forall₂_iff.mp haccepts).1
    refine ⟨.object named, ⟨named, rfl, hreadings, fun reading hreading => ?_, hnames ▸ hdistinct⟩,
      accepts_keyed_iff.mpr ⟨members, rfl, haccepts, hkeys⟩⟩
    obtain ⟨item, -, hitem⟩ := exists_of_mem_right hreadings hreading
    obtain ⟨member, hmember, hname, hreading⟩ := exists_of_mem_left haccepts hreading
    rw [hname]
    exact memberKey?_of_accepts hkey hreading (instance?_of_typedReading hitem)
      (hkeys member hmember)
  · intro h
    obtain ⟨_, ⟨named, rfl, hreadings, -, hdistinct⟩, haccepts⟩ := h
    obtain ⟨members, rfl, haccepts, hkeys⟩ := accepts_keyed_iff.mp haccepts
    have hnames : named.names = members.names := (Entries.forall₂_iff.mp haccepts).1
    exact ⟨members, rfl, ⟨named, hreadings, haccepts⟩, hkeys, hnames ▸ hdistinct⟩

/-- An object is decoded as a keyed collection when its reading is accepted, if this holds of each
member and its reading. -/
theorem decodes_keyedMembers_iff_exists_typedReading {typeName idField : String}
    {jsons : Entries Json} {value : Value}
    (h : ∀ json ∈ jsons, ∀ {rule depth value}, r.Decodes rule depth json.2 value ↔
      ∃ reading, r.typedReading json.2 rule depth = .ok reading ∧
        r.Accepts rule depth reading value) :
    r.Decodes (.keyed typeName (some idField)) 0 (.object jsons) value ↔
      ∃ reading, r.typedReading (.object jsons) (.keyed typeName (some idField)) 0 = .ok reading ∧
        r.Accepts (.keyed typeName (some idField)) 0 reading value := by
  have hmembers : ∀ {members : Entries Value},
      List.Forall₂ (fun json member => json.1 = member.1 ∧
        r.Decodes (.tagged typeName) 0 json.2 member.2) jsons members ↔
        ∃ named : Entries Value,
          List.Forall₂ (fun json reading => json.1 = reading.1 ∧
            r.typedReading json.2 (.tagged typeName) 0 = .ok reading.2) jsons named ∧
          List.Forall₂ (fun reading member => reading.1 = member.1 ∧
            r.Accepts (.tagged typeName) 0 reading.2 member.2) named members := by
    intro members
    rw [← forall₂_exists_iff]
    refine forall₂_congr_left fun json hjson member => ?_
    rw [(h json hjson).trans exists_reading_iff_exists_named]
    constructor
    · intro h
      obtain ⟨hname, named, hreading, hname', haccepts⟩ := h
      exact ⟨named, ⟨hname.trans hname'.symm, hreading⟩, hname', haccepts⟩
    · intro h
      obtain ⟨named, ⟨hname, hreading⟩, hname', haccepts⟩ := h
      exact ⟨hname.trans hname', named, hreading, hname', haccepts⟩
  rw [decodes_keyedMembers_iff]
  simp only [typedReading_keyedMembers_eq_ok, hmembers]
  constructor
  · intro h
    obtain ⟨members, rfl, ⟨named, hreadings, haccepts⟩, hkeys⟩ := h
    exact ⟨.object named, ⟨named, rfl, hreadings⟩,
      accepts_keyed_iff.mpr ⟨members, rfl, haccepts, hkeys⟩⟩
  · intro h
    obtain ⟨_, ⟨named, rfl, hreadings⟩, haccepts⟩ := h
    obtain ⟨members, rfl, haccepts, hkeys⟩ := accepts_keyed_iff.mp haccepts
    exact ⟨members, rfl, ⟨named, hreadings, haccepts⟩, hkeys⟩

/-- A JSON value with nothing in it is decoded when its reading is accepted. -/
theorem decodes_leaf_iff_exists_typedReading (hr : r.Resolved) {json : Json}
    (hitems : ∀ items, json ≠ .array items) (hmembers : ∀ members, json ≠ .object members)
    {rule : Rule} {depth : Nat} {value : Value} :
    r.Decodes rule depth json value ↔
      ∃ reading, r.typedReading json rule depth = .ok reading ∧
        r.Accepts rule depth reading value := by
  have hvalue : ∀ reading, r.typedReading json rule depth = .ok reading ↔
      (Decoding.leaf r (r.runHook 0) json).value rule depth [] = .ok reading := by
    intro reading
    cases json with
    | array items => exact absurd rfl (hitems items)
    | object members => exact absurd rfl (hmembers members)
    | string s =>
        rw [typedReading.eq_def]
        cases rule <;> cases depth <;> simp [Decoding.leaf]
    | _ => simp [typedReading, Decoding.leaf]
  simp only [hvalue]
  exact (Decoding.leaf_isFaithful hr hitems hmembers).value.symm

/-- A JSON value is decoded when its reading is accepted, and to the normal form of the reading. -/
theorem decodes_iff_exists_typedReading (hr : r.Resolved) (hkey : r.HasFreeVariantKey) {json : Json}
    (hjson : json.WellFormed) {rule : Rule} {depth : Nat} {value : Value} :
    r.Decodes rule depth json value ↔
      ∃ reading, r.typedReading json rule depth = .ok reading ∧
        r.Accepts rule depth reading value := by
  induction json using Json.induction generalizing rule depth value with
  | array items ih =>
      have hitems := fun item hitem {rule depth value} =>
        @ih item hitem (Json.wellFormed_array.mp hjson item hitem) rule depth value
      cases depth with
      | succ depth =>
          have hall : ∀ {values}, List.Forall₂ (r.Decodes rule depth) items values ↔
              ∃ readings, List.Forall₂ (fun json reading => r.typedReading json rule depth =
                .ok reading) items readings ∧
                List.Forall₂ (r.Accepts rule depth) readings values := by
            intro values
            rw [← forall₂_exists_iff]
            exact forall₂_congr_left fun item hitem value => hitems item hitem
          rw [decodes_array_iff, typedReading]
          simp only [map_eq_ok, itemReadings_eq_ok, hall]
          constructor
          · intro h
            obtain ⟨values, rfl, readings, hreadings, haccepts⟩ := h
            exact ⟨.array readings, ⟨readings, hreadings, rfl⟩,
              accepts_array_iff.mpr ⟨values, rfl, haccepts⟩⟩
          · intro h
            obtain ⟨_, ⟨readings, hreadings, rfl⟩, haccepts⟩ := h
            obtain ⟨values, rfl, hnormals⟩ := accepts_array_iff.mp haccepts
            exact ⟨values, rfl, readings, hreadings, hnormals⟩
      | zero =>
          cases rule with
          | keyed typeName idField =>
              cases idField with
              | none => exact ⟨fun h => (nomatch h), fun ⟨_, _, h⟩ => (nomatch h)⟩
              | some idField => exact decodes_keyedItems_iff_exists_typedReading hkey hitems
          | any => exact ⟨fun h => by cases h; exact ⟨_, rfl, .any _⟩,
              fun ⟨_, h, haccepts⟩ => by cases h; cases haccepts; exact .any (.array items)⟩
          | _ => exact ⟨fun h => (nomatch h), fun ⟨_, h, haccepts⟩ => by cases h; cases haccepts⟩
  | object members ih =>
      obtain ⟨hdistinct, hwell⟩ := Json.wellFormed_object.mp hjson
      have hmembers := fun member hmember {rule depth value} =>
        @ih member hmember (hwell member hmember) rule depth value
      cases depth with
      | succ depth =>
          refine ⟨fun h => (nomatch h), fun ⟨_, h, haccepts⟩ => ?_⟩
          cases rule <;> cases h <;> cases haccepts
      | zero =>
          cases rule with
          | tagged typeName => exact decodes_shape_iff hr hkey hdistinct hmembers
          | keyed typeName idField =>
              cases idField with
              | none => exact ⟨fun h => (nomatch h), fun ⟨_, _, h⟩ => (nomatch h)⟩
              | some idField => exact decodes_keyedMembers_iff_exists_typedReading hmembers
          | any => exact ⟨fun h => by cases h; exact ⟨_, rfl, .any _⟩,
              fun ⟨_, h, haccepts⟩ => by cases h; cases haccepts; exact .any (.object members)⟩
          | object => exact ⟨fun h => by cases h; exact ⟨_, rfl, .object _⟩,
              fun ⟨_, h, haccepts⟩ => by cases h; cases haccepts; exact .object members⟩
          | _ => exact ⟨fun h => (nomatch h), fun ⟨_, h, haccepts⟩ => by cases h; cases haccepts⟩
  | _ => exact decodes_leaf_iff_exists_typedReading hr (by simp) (by simp)

/-- A plain value is adapted when it is accepted where the type is expected. -/
theorem adapt_eq_ok_of_plain (hr : r.Resolved) {typeName : String} {d : TypeDefinition}
    (hd : r.definition? typeName = some d) {value : Value} (hplain : value.instance? = none)
    {i : Instance} :
    r.adapt d value = .ok i ↔ r.Accepts (.tagged typeName) 0 value (.ofInstance i) := by
  cases value with
  | object members => exact adapt_object_eq_ok hr.checked hd
  | tagged => cases hplain
  | _ =>
      refine ⟨fun h => (nomatch h), fun h => ?_⟩
      obtain ⟨tag, variant, fields⟩ := i
      cases h

/-- Decoding a shape gives the instance that adapting its typed reading gives, or none where the
reading is not defined or not adapted. -/
theorem decode_eq_ok_iff_adapt_typedReading (hr : r.IsBuilt) (hkey : r.HasFreeVariantKey)
    {typeName : String} {d : TypeDefinition} (hd : r.definition? typeName = some d) {shape : Json}
    (hshape : shape.WellFormed) {i : Instance} :
    r.decode typeName shape = .ok i ↔
      ∃ reading, r.typedReading shape (.tagged typeName) 0 = .ok reading ∧
        r.adapt d reading = .ok i := by
  rw [decode_eq_ok hr.resolved, decodes_iff_exists_typedReading hr.resolved hkey hshape]
  refine exists_congr fun reading => and_congr_right fun hreading => ?_
  exact (adapt_eq_ok_of_plain hr.resolved hd (instance?_of_typedReading hreading)).symm

end Registry

namespace Boards

/-- The board is decoded as what its typed reading is adapted to. -/
theorem adapt_typedReading_shape :
    registry.IsBuilt ∧ registry.HasFreeVariantKey ∧ shape.WellFormed ∧
      ∃ reading, registry.typedReading shape (.tagged "Board") 0 = .ok reading ∧
        registry.adapt ⟨"Board", .record (boardFields (some "id")), none⟩ reading = .ok board :=
  ⟨isBuilt_registry, hasFreeVariantKey_registry, wellFormed_shape,
    (Registry.decode_eq_ok_iff_adapt_typedReading isBuilt_registry hasFreeVariantKey_registry rfl
      wellFormed_shape).mp rfl⟩

end Boards

end RecordSchema
