import RecordSchema.Instant.Rfc3339
import RecordSchema.Proofs.Validity

/-!
# Decoded values

`Registry.Decodes` says what a JSON value becomes, decoded and validated, under a rule inside a
number of arrays. The relation has neither paths nor errors nor the values between decoding and
validation. What is decoded from a well-formed JSON value is valid (`Decodes.meets`).
-/

namespace RecordSchema

open Outcome

namespace Registry

/-- A null for an optional field is absence where the configuration says so. -/
def readsAsAbsent (r : Registry) (type : FieldType) : Json → Bool
  | .null => r.config.codec.nullAsAbsent && type.isOptional
  | _ => false

/-- The member that a field is decoded from, unless it reads as absent. -/
def memberFor? (r : Registry) (type : FieldType) (members : Entries Json) (name : String) :
    Option Json :=
  (members.get? name).filter (!r.readsAsAbsent type ·)

mutual

/-- `r.Decodes rule depth json value` says that the JSON value, under the rule and inside `depth`
arrays, becomes this value. -/
inductive Decodes (r : Registry) : Rule → Nat → Json → Value → Prop where
  | any (json) : Decodes r .any 0 json (.ofJson json)
  | string (s) : Decodes r .string 0 (.string s) (.string s)
  | number (n) : Decodes r .number 0 (.number n) (.number n.toBinary64)
  | boolean (b) : Decodes r .boolean 0 (.bool b) (.bool b)
  | date {text i} : Instant.parse? text = some i → Decodes r .date 0 (.string text) (.date i)
  | object (members) : Decodes r .object 0 (.object members) (.ofJson (.object members))
  | pattern {rule pattern s} : rule.pattern? = some pattern → pattern.isFullMatch s →
      Decodes r rule 0 (.string s) (.string s)
  | array {rule depth items values} : items.length = values.length →
      (∀ json value, (json, value) ∈ items.zip values → Decodes r rule depth json value) →
      Decodes r rule (depth + 1) (.array items) (.array values)
  | shape {typeName d variant declared members} {fields : Entries Value} :
      r.definition? typeName = some d →
      r.shapeVariant? d (Value.ofJsonMembers members) = some variant →
      d.fieldsOf? variant = some declared → fields.names.Sublist declared.names →
      (∀ field ∈ declared,
        DecodesField r field.2 (r.memberFor? field.2 members field.1) (fields.get? field.1)) →
      Decodes r (.tagged typeName) 0 (.object members) (.tagged (r.tag typeName) variant fields)
  | keyedItems {typeName idField} {items : List Json} {members : Entries Value} :
      items.length = members.values.length →
      (∀ json value, (json, value) ∈ items.zip members.values →
        Decodes r (.tagged typeName) 0 json value) →
      (∀ member ∈ members, member.2.instance?.bind (·.keyText? idField) = some member.1) →
      members.names.Nodup →
      Decodes r (.keyed typeName (some idField)) 0 (.array items) (.object members)
  | keyedMembers {typeName idField} {jsons : Entries Json} {members : Entries Value} :
      jsons.names = members.names →
      (∀ json value, (json, value) ∈ jsons.values.zip members.values →
        Decodes r (.tagged typeName) 0 json value) →
      (∀ member ∈ members, member.2.instance?.bind (·.keyText? idField) = some member.1) →
      Decodes r (.keyed typeName (some idField)) 0 (.object jsons) (.object members)

/-- The member, which may be absent, is decoded for the field to the second value. -/
inductive DecodesField (r : Registry) : FieldType → Option Json → Option Value → Prop where
  | absent {type} : type.isOptional → DecodesField r type none none
  | present {type json value} : Decodes r type.rule type.depth json value →
      DecodesField r type (some json) (some value)

end

variable {r : Registry} {rule : Rule} {depth : Nat} {typeName idField : String} {value : Value}

/-- A field is decoded from nothing, if it is optional, or from a member. -/
theorem decodesField_iff {type : FieldType} {json : Option Json} {result : Option Value} :
    r.DecodesField type json result ↔
      (json = none ∧ result = none ∧ type.isOptional) ∨
        ∃ member value, json = some member ∧ result = some value ∧
          r.Decodes type.rule type.depth member value := by
  constructor
  · intro h
    rcases h with h | h
    · exact .inl ⟨rfl, rfl, h⟩
    · exact .inr ⟨_, _, rfl, rfl, h⟩
  · intro h
    rcases h with ⟨rfl, rfl, h⟩ | ⟨member, value, rfl, rfl, h⟩
    · exact .absent h
    · exact .present h

/-- Arrays are decoded item by item. -/
theorem decodes_array_iff {items : List Json} :
    r.Decodes rule (depth + 1) (.array items) value ↔
      ∃ values, value = .array values ∧ List.Forall₂ (r.Decodes rule depth) items values := by
  constructor
  · intro h
    cases h with
    | @array _ _ _ values hlength hall =>
        exact ⟨values, rfl, List.forall₂_iff_zip.mpr ⟨hlength, fun h => hall _ _ h⟩⟩
  · intro h
    obtain ⟨values, rfl, h⟩ := h
    exact .array h.length_eq fun _ _ => (List.forall₂_iff_zip.mp h).2

/-- A list is a keyed collection of what its items are decoded to, if they have different keys. -/
theorem decodes_keyedItems_iff {items : List Json} :
    r.Decodes (.keyed typeName (some idField)) 0 (.array items) value ↔
      ∃ members : Entries Value, value = .object members ∧
        List.Forall₂ (fun json member => r.Decodes (.tagged typeName) 0 json member.2)
          items members ∧
        (∀ member ∈ members, member.2.instance?.bind (·.keyText? idField) = some member.1) ∧
        members.names.Nodup := by
  simp only [← List.forall₂_map_right_iff (R := r.Decodes (.tagged typeName) 0) (f := Prod.snd)]
  constructor
  · intro h
    cases h with
    | @keyedItems _ _ _ members hlength hall hkeys hdistinct =>
        exact ⟨members, rfl, List.forall₂_iff_zip.mpr ⟨hlength, fun h => hall _ _ h⟩, hkeys,
          hdistinct⟩
  · intro h
    obtain ⟨members, rfl, h, hkeys, hdistinct⟩ := h
    exact .keyedItems h.length_eq (fun _ _ => (List.forall₂_iff_zip.mp h).2) hkeys hdistinct

/-- An object is a keyed collection of what its members are decoded to, if these have the keys that
they are under. -/
theorem decodes_keyedMembers_iff {jsons : Entries Json} :
    r.Decodes (.keyed typeName (some idField)) 0 (.object jsons) value ↔
      ∃ members : Entries Value, value = .object members ∧
        List.Forall₂ (fun json member => json.1 = member.1 ∧
          r.Decodes (.tagged typeName) 0 json.2 member.2) jsons members ∧
        ∀ member ∈ members, member.2.instance?.bind (·.keyText? idField) = some member.1 := by
  simp only [Entries.forall₂_iff]
  constructor
  · intro h
    cases h with
    | @keyedMembers _ _ _ members hnames hall hkeys =>
        refine ⟨members, rfl, ⟨hnames, List.forall₂_iff_zip.mpr ⟨?_, fun h => hall _ _ h⟩⟩, hkeys⟩
        rw [Entries.length_values, Entries.length_values, ← Entries.length_names, hnames,
          Entries.length_names]
  · intro h
    obtain ⟨members, rfl, ⟨hnames, h⟩, hkeys⟩ := h
    exact .keyedMembers hnames (fun _ _ => (List.forall₂_iff_zip.mp h).2) hkeys

/-- Untyped content is decoded as the plain value. -/
theorem decodes_any_iff {json : Json} : r.Decodes .any 0 json value ↔ value = .ofJson json := by
  refine ⟨fun h => ?_, fun h => h ▸ .any json⟩
  cases h with
  | any => rfl
  | pattern hp => cases hp

/-- An untyped object is decoded as the plain value. -/
theorem decodes_object_iff {members : Entries Json} :
    r.Decodes .object 0 (.object members) value ↔ value = .ofJson (.object members) := by
  refine ⟨fun h => ?_, fun h => h ▸ .object members⟩
  cases h
  rfl

/-- A shape that names a variant is decoded as instances of this variant, field by field. -/
theorem decodes_tagged_iff {d : TypeDefinition} {variant : Option String} {declared : Fields}
    {members : Entries Json} (hd : r.definition? typeName = some d)
    (hvariant : r.shapeVariant? d (Value.ofJsonMembers members) = some variant)
    (hdeclared : d.fieldsOf? variant = some declared) :
    r.Decodes (.tagged typeName) 0 (.object members) value ↔
      ∃ fields : Entries Value, value = .tagged (r.tag typeName) variant fields ∧
        fields.names.Sublist declared.names ∧ ∀ field ∈ declared,
          r.DecodesField field.2 (r.memberFor? field.2 members field.1) (fields.get? field.1) := by
  constructor
  · intro h
    cases h with
    | @shape _ _ _ _ _ fields hd' hvariant' hdeclared' hsub hfields =>
        cases hd.symm.trans hd'
        cases hvariant.symm.trans hvariant'
        cases hdeclared.symm.trans hdeclared'
        exact ⟨fields, rfl, hsub, hfields⟩
  · intro h
    obtain ⟨fields, rfl, hsub, hfields⟩ := h
    exact .shape hd hvariant hdeclared hsub hfields

/-- What is decoded as an instance is one, and is accepted as it is. -/
theorem Decodes.accepts_self {json : Json} (h : r.Decodes (.tagged typeName) 0 json value) :
    (∃ i : Instance, value = .ofInstance i) ∧ r.Accepts (.tagged typeName) 0 value value := by
  cases h with
  | pattern hp => cases hp
  | @shape _ _ variant _ _ fields hd => exact ⟨⟨⟨_, variant, fields⟩, rfl⟩, .owned hd⟩

/-- An instance is accepted as it is or not at all. -/
theorem eq_of_accepts_instance {i : Instance}
    (h : r.Accepts (.tagged typeName) 0 (.ofInstance i) value) : value = .ofInstance i := by
  obtain ⟨tag, variant, fields⟩ := i
  cases h
  rfl

/-- A keyed collection of instances of its type is accepted as it is, or not at all. -/
theorem accepts_keyed_instances_iff {members : Entries Value}
    (h : ∀ member ∈ members, (∃ i : Instance, member.2 = .ofInstance i) ∧
      r.Accepts (.tagged typeName) 0 member.2 member.2) :
    r.Accepts (.keyed typeName (some idField)) 0 (.object members) value ↔
      value = .object members ∧
        ∀ member ∈ members, member.2.instance?.bind (·.keyText? idField) = some member.1 := by
  rw [accepts_keyed_iff]
  constructor
  · intro h
    obtain ⟨normals, rfl, hall, hkeys⟩ := h
    suffices members = normals by
      subst this
      exact ⟨rfl, hkeys⟩
    clear hkeys
    induction hall with
    | nil => rfl
    | @cons member normal members normals hhead _ ih =>
        obtain ⟨hmember, hmembers⟩ := List.forall_mem_cons.mp h
        obtain ⟨key, value⟩ := member
        obtain ⟨name, normal⟩ := normal
        obtain ⟨⟨i, rfl⟩, -⟩ := hmember
        obtain ⟨rfl, haccepts⟩ := hhead
        obtain rfl : normal = .ofInstance i := eq_of_accepts_instance haccepts
        rw [ih hmembers]
  · intro h
    obtain ⟨rfl, hkeys⟩ := h
    exact ⟨members, rfl, List.forall₂_same.mpr fun member hmember => ⟨rfl, (h member hmember).2⟩,
      hkeys⟩

/-! ## Members -/

/-- Only a null reads as absent. -/
theorem memberFor?_eq_of_get? {type : FieldType} {members : Entries Json} {name : String}
    {member : Option Json} (hget : members.get? name = member)
    (hnull : member = some .null → r.readsAsAbsent type .null = false) :
    r.memberFor? type members name = member := by
  rw [memberFor?, hget]
  cases member with
  | none => rfl
  | some json =>
      refine Option.filter_eq_some_iff.mpr ⟨rfl, ?_⟩
      cases json with
      | null => simpa using hnull rfl
      | _ => rfl

/-- The member that a field is decoded from is one of the members. -/
theorem mem_of_memberFor? {type : FieldType} {members : Entries Json} {name : String} {json : Json}
    (h : r.memberFor? type members name = some json) : (name, json) ∈ members :=
  Entries.mem_of_get? (Option.filter_eq_some_iff.mp h).1

/-- The variant that a shape names stands under the variant key. -/
theorem get?_of_shapeVariant? {d : TypeDefinition} {members : Entries Json} {name : String}
    (h : r.shapeVariant? d (Value.ofJsonMembers members) = some (some name)) :
    members.get? r.config.codec.variantKey = some (.string name) := by
  rw [shapeVariant?, Value.ofJsonMembers_eq_mapValues, Entries.get?_mapValues] at h
  split at h
  · cases h
  · cases hmember : members.get? r.config.codec.variantKey with
    | none =>
        rw [hmember] at h
        cases h
    | some json =>
        rw [hmember] at h
        cases json <;> cases h
        rfl

/-- A string from which no instant is read stays a string. -/
theorem Decodes.eq_string {s : String} (h : r.Decodes rule depth (.string s) value)
    (hs : Instant.parse? s = none) : value = .string s := by
  cases h with
  | date hparse => cases hs.symm.trans hparse
  | _ => rfl

/-! ## Validity -/

variable {registries : List Registry}

/-- Plain values are sound. -/
theorem sound_ofJson {json : Json} (h : json.WellFormed) :
    (Value.ofJson json).Sound registries := by
  induction json using Json.induction with
  | array items ih =>
      cases h with
      | array hitems =>
          rw [Value.ofJson, Value.ofJsonItems_eq_map]
          refine Value.everywhere_array.mpr ⟨trivial, fun item hitem => ?_⟩
          obtain ⟨json, hjson, rfl⟩ := List.mem_map.mp hitem
          exact ih json hjson (hitems json hjson)
  | object members ih =>
      cases h with
      | object hdistinct hmembers =>
          rw [Value.ofJson, Value.ofJsonMembers_eq_mapValues]
          refine Value.everywhere_object.mpr ⟨?_, fun member hmember => ?_⟩
          · rwa [Value.IsSoundHere, Entries.names_mapValues]
          · obtain ⟨json, hjson, rfl⟩ := List.mem_map.mp hmember
            exact ih json hjson (hmembers json hjson)
  | _ =>
      rw [Value.ofJson]
      exact .of_leaf trivial trivial

/-- What is decoded from a well-formed JSON value meets the rule that it is decoded under, and is
sound. -/
theorem Decodes.meets (hr : r.Resolved) (hmem : r ∈ registries) {rule : Rule} {depth : Nat}
    {json : Json} {value : Value} (hjson : json.WellFormed) (h : r.Decodes rule depth json value) :
    r.Meets rule depth value ∧ value.Sound registries := by
  have hplain : (Value.ofJson json).Sound registries := sound_ofJson hjson
  induction json using Json.induction generalizing rule depth value with
  | array items ih =>
      cases hjson with
      | array hitems =>
          have hparts : ∀ item ∈ items, ∀ {rule depth value}, r.Decodes rule depth item value →
              r.Meets rule depth value ∧ value.Sound registries :=
            fun item hitem _ _ _ h =>
              ih item hitem (hitems item hitem) h (sound_ofJson (hitems item hitem))
          cases h with
          | any => exact ⟨.any _, hplain⟩
          | @array _ depth _ values hlength hall =>
              obtain ⟨_, heq, hall⟩ := decodes_array_iff.mp (.array hlength hall)
              cases heq
              have hvalues : ∀ value ∈ values,
                  r.Meets rule depth value ∧ value.Sound registries := by
                intro value hvalue
                obtain ⟨item, hitem, hdecodes⟩ := exists_of_mem_right hall hvalue
                exact hparts item hitem hdecodes
              exact ⟨.array fun value hvalue => (hvalues value hvalue).1,
                Value.everywhere_array.mpr ⟨trivial, fun value hvalue => (hvalues value hvalue).2⟩⟩
          | @keyedItems typeName _ _ members hlength hall hkeys hdistinct =>
              obtain ⟨_, heq, hall, -⟩ :=
                decodes_keyedItems_iff.mp (.keyedItems hlength hall hkeys hdistinct)
              cases heq
              have hmembers : ∀ member ∈ members,
                  r.Meets (.tagged typeName) 0 member.2 ∧ member.2.Sound registries := by
                intro member hmember
                obtain ⟨item, hitem, hdecodes⟩ := exists_of_mem_right hall hmember
                exact hparts item hitem hdecodes
              refine ⟨.keyed (fun member hmember => (hmembers member hmember).1) hkeys, ?_⟩
              exact Value.everywhere_object.mpr
                ⟨hdistinct, fun member hmember => (hmembers member hmember).2⟩
  | object members ih =>
      cases hjson with
      | object hdistinct hitems =>
          have hparts : ∀ member ∈ members, ∀ {rule depth value},
              r.Decodes rule depth member.2 value →
              r.Meets rule depth value ∧ value.Sound registries :=
            fun member hmember _ _ _ h =>
              ih member hmember (hitems member hmember) h (sound_ofJson (hitems member hmember))
          cases h with
          | any => exact ⟨.any _, hplain⟩
          | object => exact ⟨.object _, hplain⟩
          | shape hd _ hdeclared hsub hfields =>
              refine meets_of_fields hr.checked hmem hd hdeclared hsub fun field hfield => ?_
              rcases decodesField_iff.mp (hfields field hfield) with
                ⟨-, hnone, hoptional⟩ | ⟨json, value, hjson, hvalue, hdecodes⟩
              · exact ⟨fun _ => hoptional, fun value hvalue => nomatch hnone.symm.trans hvalue⟩
              · refine ⟨fun hnone => (nomatch hnone.symm.trans hvalue), fun other hother => ?_⟩
                cases hvalue.symm.trans hother
                exact hparts _ (mem_of_memberFor? hjson) hdecodes
          | @keyedMembers typeName _ _ values hnames hall hkeys =>
              obtain ⟨_, heq, hall, -⟩ :=
                decodes_keyedMembers_iff.mp (.keyedMembers hnames hall hkeys)
              cases heq
              have hvalues : ∀ member ∈ values,
                  r.Meets (.tagged typeName) 0 member.2 ∧ member.2.Sound registries := by
                intro member hmember
                obtain ⟨json, hjson, -, hdecodes⟩ := exists_of_mem_right hall hmember
                exact hparts json hjson hdecodes
              have hdistinct' : values.names.Nodup := hnames ▸ hdistinct
              refine ⟨.keyed (fun member hmember => (hvalues member hmember).1) hkeys, ?_⟩
              exact Value.everywhere_object.mpr
                ⟨hdistinct', fun member hmember => (hvalues member hmember).2⟩
  | string s =>
      cases h with
      | any => exact ⟨.any _, hplain⟩
      | string => exact ⟨.string s, hplain⟩
      | pattern hp hmatch => exact ⟨.pattern hp hmatch, hplain⟩
      | date =>
          exact ⟨.date _, .of_leaf trivial trivial⟩
  | _ => cases h <;> exact ⟨by constructor, hplain⟩

end Registry

end RecordSchema
