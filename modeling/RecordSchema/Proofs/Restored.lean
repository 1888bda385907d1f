import RecordSchema.Proofs.Restorable

/-!
# Reading back what was written

A restorable value that meets its rule and was encoded is decoded again exactly if every instant
inside it has a plain year, and then as what is stored of it (`decodes_iff_of_encodeValue`).
-/

namespace RecordSchema

open Outcome

namespace Registry

variable {r : Registry} {owner typeName : String} {rule : Rule} {depth : Nat} {value result : Value}
  {json : Json}

/-- Instances are encoded as objects. -/
theorem exists_members_of_encode (hr : r.Resolved) {i : Instance} (h : r.encode i = .ok json) :
    ∃ members, json = .object members := by
  obtain ⟨entry, hentry, h⟩ := bind_eq_ok.mp h
  have hcodec : entry.codec = .standard := hr.hasStandardCodec _ _ (lookup_eq_ok.mp hentry)
  rw [hcodec] at h
  dsimp only [Codec.standard] at h
  split at h
  · cases h
  · obtain ⟨declared, -, h⟩ := bind_eq_ok.mp h
    obtain ⟨members, -, h⟩ := bind_eq_ok.mp h
    exact ⟨members, (pure_eq_ok.mp h).symm⟩

/-- Only null is encoded as null. -/
theorem eq_null_of_encodeValue (hr : r.Resolved) {mode : EncodingMode}
    (h : r.encodeValue owner value mode = .ok .null) : value = .null := by
  cases value with
  | null => rfl
  | number x =>
      obtain ⟨n, hn, -⟩ := Encoding.exists_of_number_eq_ok h
      cases hn
  | date i => cases (Encoding.typedOnly_eq_ok.mp h).2
  | array items =>
      obtain ⟨jsons, -, hjson⟩ := map_eq_ok.mp h
      cases hjson
  | object members =>
      rw [encodeValue] at h
      split at h
      · obtain ⟨jsons, -, hjson⟩ := map_eq_ok.mp h
        cases hjson
      · obtain ⟨jsons, -, hjson⟩ := map_eq_ok.mp h
        cases hjson
  | tagged tag variant fields =>
      have hi := (encodeValue_ofInstance_eq_ok (i := ⟨tag, variant, fields⟩).mp h).2
      obtain ⟨members, hmembers⟩ := exists_members_of_encode hr hi
      cases hmembers
  | _ => cases h

/-- A field is decoded from what its value was encoded as exactly if the value is. -/
theorem decodesField_iff_of_rel {type : FieldType} {name : String} {present : Option Value}
    {member : Option Json} {found : Option Value}
    (hrel : Option.Rel (fun value json =>
      r.encodeValue owner value (.typed name type.rule type.depth) = .ok json) present member)
    (hoptional : present = none → type.isOptional)
    (h : ∀ value json, present = some value →
      r.encodeValue owner value (.typed name type.rule type.depth) = .ok json →
      ∀ result, r.Decodes type.rule type.depth json result ↔
        value.HasPlainDates ∧ result = value.stored) :
    r.DecodesField type member found ↔
      (∀ value, present = some value → value.HasPlainDates) ∧
        found = present.map Value.stored := by
  cases hrel with
  | none =>
      refine ⟨fun hfield => ?_, fun hfound => ?_⟩
      · cases hfield
        exact ⟨nofun, rfl⟩
      · rw [hfound.2]
        exact .absent (hoptional rfl)
  | @some value json hjson =>
      constructor
      · intro hfield
        cases hfield with
        | present hdecodes =>
            obtain ⟨hplain, rfl⟩ := (h value json rfl hjson _).mp hdecodes
            refine ⟨fun other hother => ?_, rfl⟩
            cases hother
            exact hplain
      · intro h
        obtain ⟨hplain, rfl⟩ := h
        exact .present ((h value json rfl hjson _).mpr ⟨hplain value rfl, rfl⟩)

section Instances

variable {d : TypeDefinition} {variant : Option String} {declared : Fields}
  {fields : Entries Value} {present : Entries Json}

/-- The members that an instance is written as have the value of each declared field under its
name. -/
theorem get?_written (hd : r.definition? typeName = some d)
    (hdeclared : d.fieldsOf? variant = some declared) (hnodup : present.names.Nodup)
    (hnames : r.NamesVariant ⟨r.tag typeName, variant, fields⟩)
    (hrel : ∀ field ∈ declared, Option.Rel (fun value json =>
      r.encodeValue typeName value (.typed field.1 field.2.rule field.2.depth) = .ok json)
      (fields.get? field.1) (present.get? field.1)) :
    ∀ field ∈ declared, ((Encoding.variantMembers r variant).putAll present).get? field.1 =
      present.get? field.1 := by
  intro field hfield
  rw [Entries.get?_putAll hnodup]
  cases hpresent : present.get? field.1 with
  | some json => rfl
  | none =>
      cases variant with
      | none => rfl
      | some name =>
          -- A declared field of the name of the variant key is present, so it is not absent here.
          refine if_neg fun hkey => ?_
          have hmem : r.config.codec.variantKey ∈ declared.names :=
            hkey ▸ Entries.mem_names_of_mem hfield
          have hholds : fields.get? field.1 = some (.string name) :=
            hkey ▸ hnames d declared name hd rfl hdeclared hmem
          have hfieldrel := hrel field hfield
          rw [hpresent, hholds] at hfieldrel
          cases hfieldrel

/-- The members that an instance is written as name its variant. -/
theorem shapeVariant?_written (hd : r.definition? typeName = some d)
    (hdeclared : d.fieldsOf? variant = some declared) (hsub : present.names.Sublist declared.names)
    (hnodup : present.names.Nodup)
    (hnames : r.NamesVariant ⟨r.tag typeName, variant, fields⟩)
    (hrel : ∀ field ∈ declared, Option.Rel (fun value json =>
      r.encodeValue typeName value (.typed field.1 field.2.rule field.2.depth) = .ok json)
      (fields.get? field.1) (present.get? field.1)) :
    r.shapeVariant? d (Value.ofJsonMembers
      ((Encoding.variantMembers r variant).putAll present)) = some variant := by
  have hnames := fun variant => hnames d declared variant hd
  obtain ⟨name, _ | variants, idField⟩ := d
  · cases variant with
    | none => rfl
    | some variant => cases hdeclared
  · cases variant with
    | none => cases hdeclared
    | some variant =>
        -- If a field has taken the place of the variant, then it holds the variant.
        have hkey : ((Encoding.variantMembers r (some variant)).putAll present).get?
            r.config.codec.variantKey = some (.string variant) := by
          rw [Entries.get?_putAll hnodup]
          by_cases hmem : r.config.codec.variantKey ∈ present.names
          · obtain ⟨field, hfield, hname⟩ := List.mem_map.mp (hsub.subset hmem)
            have hholds : fields.get? r.config.codec.variantKey = some (.string variant) :=
              hnames variant rfl hdeclared (hsub.subset hmem)
            have hfieldrel := hrel field hfield
            rw [hname, hholds] at hfieldrel
            cases hpresent : present.get? r.config.codec.variantKey with
            | none => exact absurd hmem (Entries.get?_eq_none_iff.mp hpresent)
            | some json =>
                rw [hpresent] at hfieldrel
                cases hfieldrel with
                | some hjson =>
                    cases hjson
                    rfl
          · rw [Entries.get?_eq_none_iff.mpr hmem]
            exact if_pos rfl
        rw [shapeVariant?, Value.ofJsonMembers_eq_mapValues, Entries.get?_mapValues, hkey]
        rfl

/-- An instance is decoded from what it was encoded as exactly if every instant inside it has a
plain year, and then as what is stored of it, if this holds of the values of its fields. -/
theorem decodes_iff_of_encode (hr : r.Resolved) (hd : r.definition? typeName = some d)
    (hdeclared : d.fieldsOf? variant = some declared) (hsub : fields.names.Sublist declared.names)
    (hoptional : ∀ field ∈ declared, fields.get? field.1 = none → field.2.isOptional)
    (hmeets : ∀ field ∈ declared, ∀ value, fields.get? field.1 = some value →
      r.Meets field.2.rule field.2.depth value)
    (hhere : r.IsRestorable (.tagged (r.tag typeName) variant fields))
    (hjson : r.encode ⟨r.tag typeName, variant, fields⟩ = .ok json)
    (h : ∀ field ∈ declared, ∀ value json, fields.get? field.1 = some value →
      r.encodeValue typeName value (.typed field.1 field.2.rule field.2.depth) = .ok json →
      ∀ result, r.Decodes field.2.rule field.2.depth json result ↔
        value.HasPlainDates ∧ result = value.stored) :
    r.Decodes (.tagged typeName) 0 json result ↔
      (Value.tagged (r.tag typeName) variant fields).HasPlainDates ∧
        result = (Value.tagged (r.tag typeName) variant fields).stored := by
  have hdistinct := (hr.checked.names hd).distinct hdeclared
  obtain ⟨present, hpresent, hrel, rfl⟩ :=
    (encode_eq_ok hr.checked (hr.hasStandardCodec _) hd hdeclared).mp hjson
  have hnodup := hpresent.nodup hdistinct
  obtain ⟨hnulls, hnames⟩ := hhere
  have hvariant := shapeVariant?_written hd hdeclared hpresent hnodup hnames hrel
  have hmember : ∀ field ∈ declared, r.memberFor? field.2
      ((Encoding.variantMembers r variant).putAll present) field.1 = present.get? field.1 := by
    intro field hfield
    refine memberFor?_eq_of_get? (get?_written hd hdeclared hnodup hnames hrel field hfield) ?_
    intro hnull
    have hvalue : fields.get? field.1 = some .null := by
      have hfieldrel := hrel field hfield
      rw [hnull] at hfieldrel
      generalize fields.get? field.1 = value at hfieldrel
      cases hfieldrel with
      | some hvalue => rw [eq_null_of_encodeValue hr hvalue]
    rw [readsAsAbsent, ← Bool.not_eq_true, Bool.and_eq_true]
    intro h
    obtain ⟨habsent, hmaybe⟩ := h
    -- Only a field that may hold anything can hold a null.
    have hrule : field.2.rule = .any ∧ field.2.depth = 0 := by
      have hnullmeets := hmeets field hfield _ hvalue
      generalize field.2.rule = rule at hnullmeets
      generalize field.2.depth = depth at hnullmeets
      cases hnullmeets
      exact ⟨rfl, rfl⟩
    exact hnulls habsent d declared hd hdeclared field hfield hmaybe hrule.1 hrule.2 hvalue
  have hfields : ∀ (found : Entries Value), ∀ field ∈ declared,
      (r.DecodesField field.2 (r.memberFor? field.2
        ((Encoding.variantMembers r variant).putAll present) field.1) (found.get? field.1) ↔
      (∀ value, fields.get? field.1 = some value → value.HasPlainDates) ∧
        found.get? field.1 = (fields.get? field.1).map Value.stored) := by
    intro found field hfield
    rw [hmember field hfield]
    exact decodesField_iff_of_rel (hrel field hfield) (hoptional field hfield) (h field hfield)
  rw [decodes_tagged_iff hd hvariant hdeclared, Value.HasPlainDates, Value.everywhere_tagged,
    Value.stored, Value.mapAtoms_tagged]
  constructor
  · intro h
    obtain ⟨found, rfl, hfound, hall⟩ := h
    refine ⟨⟨trivial, fun field hfield => ?_⟩, congrArg _ ?_⟩
    · obtain ⟨type, htype, hget⟩ := Entries.exists_of_mem_of_sublist hdistinct hsub hfield
      exact ((hfields found _ htype).mp (hall _ htype)).1 _ hget
    · refine Entries.eq_of_get?_eq hdistinct hfound ?_ fun name hname => ?_
      · rwa [Entries.names_mapValues]
      · obtain ⟨field, hfield, rfl⟩ := List.mem_map.mp hname
        rw [Entries.get?_mapValues]
        exact ((hfields found _ hfield).mp (hall _ hfield)).2
  · intro h
    obtain ⟨⟨-, hplain⟩, rfl⟩ := h
    refine ⟨_, rfl, ?_, fun field hfield => (hfields _ field hfield).mpr ⟨?_, ?_⟩⟩
    · rwa [Entries.names_mapValues]
    · intro value hvalue
      exact hplain _ (Entries.mem_of_get? hvalue)
    · exact Entries.get?_mapValues ..

end Instances

/-- The members of a keyed collection are decoded from the list of what they were encoded as exactly
if every instant inside them has a plain year, and then as what is stored of them, if this holds of
each. -/
theorem decodes_keyed_iff_of_members {idField : String} {members : Entries Value}
    {jsons : Entries Json} (hnodup : members.names.Nodup)
    (hkeys : ∀ member ∈ members, member.2.instance?.bind (·.keyText? idField) = some member.1)
    (hall : List.Forall₂ (fun member json => member.1 = json.1 ∧ ∀ result,
      r.Decodes (.tagged typeName) 0 json.2 result ↔
        member.2.HasPlainDates ∧ result = member.2.stored) members jsons) :
    r.Decodes (.keyed typeName (some idField)) 0 (.array jsons.values) result ↔
      (Value.object members).HasPlainDates ∧ result = (Value.object members).stored := by
  have hitems : ∀ found : Entries Value,
      List.Forall₂ (fun json member => r.Decodes (.tagged typeName) 0 json member.2)
        jsons.values found ↔
      List.Forall₂ (fun json member => r.Decodes (.tagged typeName) 0 json.2 member.2)
        jsons found :=
    fun found => List.forall₂_map_left_iff
  simp only [decodes_keyedItems_iff, Value.HasPlainDates, Value.everywhere_object, Value.stored,
    Value.mapAtoms_object, hitems]
  constructor
  · -- The keys are not written: each member finds its key again in its identity field.
    intro h
    obtain ⟨found, rfl, hfound, hfoundkeys, -⟩ := h
    have hmatched : List.Forall₂ (fun member other => member.2.HasPlainDates ∧
        (member.1, member.2.stored) = other) members found := by
      have hpartners := forall₂_and_right.mpr
        ⟨forall₂_exists_iff.mpr ⟨jsons, hall, hfound⟩, hfoundkeys⟩
      refine forall₂_imp_left (fun member hmember other h => ?_) hpartners
      obtain ⟨⟨json, ⟨-, hdecodes⟩, hother⟩, hkey⟩ := h
      obtain ⟨hplain, hstored⟩ := (hdecodes _).mp hother
      rw [hstored, Value.instanceKey?_stored, hkeys member hmember] at hkey
      exact ⟨hplain, Prod.ext (Option.some.inj hkey) hstored.symm⟩
    refine ⟨⟨trivial, fun member hmember => ?_⟩, congrArg Value.object ?_⟩
    · obtain ⟨other, -, hplain, -⟩ := exists_of_mem_left hmatched hmember
      exact hplain
    · exact (map_eq_of_forall₂ (hmatched.imp fun _ _ h => h.2)).symm
  · intro h
    obtain ⟨⟨-, hplain⟩, rfl⟩ := h
    refine ⟨_, rfl, ?_, ?_, ?_⟩
    · refine List.forall₂_map_right_iff.mpr (List.Forall₂.flip ?_)
      exact forall₂_imp_left (fun member hmember json h =>
        (h.2 _).mpr ⟨hplain member hmember, rfl⟩) hall
    · refine List.forall_mem_map.mpr fun member hmember => ?_
      exact (Value.instanceKey?_stored ..).trans (hkeys member hmember)
    · rwa [Entries.names_mapValues]

/-- The items of an array are decoded from what they were encoded as exactly if every instant inside
them has a plain year, and then as what is stored of them, if this holds of each. -/
theorem decodes_array_iff_of_items {items : List Value} {jsons : List Json}
    (hall : List.Forall₂ (fun item json => ∀ result, r.Decodes rule depth json result ↔
      item.HasPlainDates ∧ result = item.stored) items jsons) :
    r.Decodes rule (depth + 1) (.array jsons) result ↔
      (Value.array items).HasPlainDates ∧ result = (Value.array items).stored := by
  rw [decodes_array_iff, Value.HasPlainDates, Value.everywhere_array, Value.stored,
    Value.mapAtoms_array]
  constructor
  · intro h
    obtain ⟨found, rfl, hfound⟩ := h
    have hmatched : List.Forall₂ (fun item other => item.HasPlainDates ∧ item.stored = other)
        items found := by
      refine (forall₂_exists_iff.mpr ⟨jsons, hall, hfound⟩).imp fun item other h => ?_
      obtain ⟨json, hdecodes, hother⟩ := h
      obtain ⟨hplain, hstored⟩ := (hdecodes other).mp hother
      exact ⟨hplain, hstored.symm⟩
    refine ⟨⟨trivial, fun item hitem => ?_⟩, congrArg Value.array ?_⟩
    · obtain ⟨other, -, hplain, -⟩ := exists_of_mem_left hmatched hitem
      exact hplain
    · exact (map_eq_of_forall₂ (hmatched.imp fun _ _ h => h.2)).symm
  · intro h
    obtain ⟨⟨-, hplain⟩, rfl⟩ := h
    refine ⟨_, rfl, List.forall₂_map_right_iff.mpr (List.Forall₂.flip ?_)⟩
    exact forall₂_imp_left (fun item hitem json h => (h _).mpr ⟨hplain item hitem, rfl⟩) hall

/-- Untyped content is decoded from what it was encoded as, as what is stored of it. -/
theorem decodes_iff_of_untyped {mode : EncodingMode} {field : String}
    (hmode : mode.untypedField? = some field)
    (hdecodes : r.Decodes rule depth json result ↔ result = .ofJson json)
    (hjson : r.encodeValue owner value mode = .ok json) :
    r.Decodes rule depth json result ↔ value.HasPlainDates ∧ result = value.stored := by
  obtain ⟨hstored, hplain⟩ := ofJson_of_untyped hmode hjson
  rw [hdecodes, hstored]
  exact (and_iff_right hplain).symm

/-- A value without instants that is decoded as what is stored of it, and as nothing else. -/
theorem decodes_iff_of_unique (hplain : value.HasPlainDates)
    (hdecodes : r.Decodes rule depth json value.stored)
    (hunique : r.Decodes rule depth json result → result = value.stored) :
    r.Decodes rule depth json result ↔ value.HasPlainDates ∧ result = value.stored :=
  ⟨fun h => ⟨hplain, hunique h⟩, fun h => h.2 ▸ hdecodes⟩

/-- A value that meets a rule and can be told from what reading takes for something else is decoded
from what it was encoded as exactly if every instant inside it has a plain year. It is then decoded
as what is stored of it. -/
theorem decodes_iff_of_encodeValue (hr : r.Resolved) {field : String}
    (hmeets : r.Meets rule depth value) (hrestorable : value.Everywhere r.IsRestorable)
    (hjson : r.encodeValue owner value (.typed field rule depth) = .ok json) :
    r.Decodes rule depth json result ↔ value.HasPlainDates ∧ result = value.stored := by
  induction value using Value.induction generalizing owner field rule depth json result with
  | null =>
      cases hmeets with
      | any => exact decodes_iff_of_untyped rfl decodes_any_iff hjson
  | bool b =>
      cases hmeets with
      | any => exact decodes_iff_of_untyped rfl decodes_any_iff hjson
      | boolean =>
          cases hjson
          refine decodes_iff_of_unique (.of_leaf trivial trivial)
            (.boolean b) fun h => ?_
          cases h
          rfl
  | number x =>
      cases hmeets with
      | any => exact decodes_iff_of_untyped rfl decodes_any_iff hjson
      | number =>
          obtain ⟨n, rfl, hn⟩ := Encoding.exists_of_number_eq_ok hjson
          have hdecodes : r.Decodes .number 0 (.number n) (.number x.unsigned) := hn ▸ .number n
          refine decodes_iff_of_unique (.of_leaf trivial trivial)
            hdecodes fun h => ?_
          cases h
          exact congrArg Value.number hn
  | string s =>
      have hplain : (Value.string s).HasPlainDates :=
        .of_leaf trivial trivial
      cases hmeets with
      | any => exact decodes_iff_of_untyped rfl decodes_any_iff hjson
      | string =>
          cases hjson
          refine decodes_iff_of_unique hplain (.string s) fun h => ?_
          cases h <;> rfl
      | pattern hp hmatch =>
          cases hjson
          refine decodes_iff_of_unique hplain (.pattern hp hmatch) fun h => ?_
          cases h with
          | date => cases hp
          | _ => rfl
  | date i =>
      cases hmeets with
      | any => exact decodes_iff_of_untyped rfl decodes_any_iff hjson
      | date =>
          cases hjson
          have hplain : (Value.date i).HasPlainDates ↔ i.HasPlainYear :=
            ⟨fun h => h.here, fun h => .of_leaf trivial h⟩
          rw [hplain]
          constructor
          · intro h
            cases h with
            | date hparse =>
                obtain ⟨hyear, rfl⟩ := Instant.parse?_text_eq_some_iff.mp hparse
                exact ⟨hyear, rfl⟩
            | pattern hp => cases hp
          · intro h
            obtain ⟨hyear, rfl⟩ := h
            exact .date (Instant.parse?_text hyear)
  | array items ih =>
      cases hmeets with
      | any => exact decodes_iff_of_untyped rfl decodes_any_iff hjson
      | array hitems =>
          obtain ⟨jsons, hjsons, rfl⟩ := map_eq_ok.mp hjson
          refine decodes_array_iff_of_items ?_
          refine forall₂_imp_left (fun item hitem json hitemjson result => ?_)
            (encodeItems_eq_ok.mp hjsons)
          exact ih item hitem (hitems item hitem)
            ((Value.everywhere_array.mp hrestorable).2 item hitem) hitemjson
  | object members ih =>
      cases hmeets with
      | any => exact decodes_iff_of_untyped rfl decodes_any_iff hjson
      | object =>
          obtain ⟨jsons, -, rfl⟩ := map_eq_ok.mp hjson
          exact decodes_iff_of_untyped rfl decodes_object_iff hjson
      | @keyed typeName idField _ hmembers hkeys =>
          obtain ⟨hhere, hparts⟩ := Value.everywhere_object.mp hrestorable
          obtain ⟨jsons, hjsons, rfl⟩ := map_eq_ok.mp hjson
          refine decodes_keyed_iff_of_members hhere hkeys ?_
          refine forall₂_imp_left (fun member hmember json hmemberjson => ⟨hmemberjson.1, ?_⟩)
            (encodeMembers_eq_ok.mp hjsons)
          -- The mode of the members does not tell their type, but they are instances.
          obtain ⟨i, hi, -⟩ := (hmembers member hmember).isInstance
          have htyped : r.encodeValue owner member.2 (.typed field (.tagged typeName) 0) =
              .ok json.2 := by
            rw [hi, encodeValue_ofInstance_eq_ok] at hmemberjson ⊢
            exact ⟨rfl, hmemberjson.2.2⟩
          intro result
          exact ih member hmember (hmembers member hmember) (hparts member hmember) htyped
  | tagged tag variant fields ih =>
      have hinstance := encodeValue_ofInstance_eq_ok (i := ⟨tag, variant, fields⟩).mp hjson
      cases hmeets with
      | any => cases hinstance.1
      | objectInstance => cases hinstance.1
      | tagged hd hdeclared hsub hoptional hfields =>
          refine decodes_iff_of_encode hr hd hdeclared hsub hoptional hfields hrestorable.here
            hinstance.2 ?_
          intro field hfield value json hget hvalue result
          have hmem := Entries.mem_of_get? hget
          exact ih _ hmem (hfields field hfield value hget)
            ((Value.everywhere_tagged.mp hrestorable).2 _ hmem) hvalue

end Registry

end RecordSchema
