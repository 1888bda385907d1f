import RecordSchema.Codec.Encoding
import RecordSchema.Proofs.Decoded
import RecordSchema.Proofs.Stored

/-!
# Encoded values

What encoding gives, operation by operation: numbers, lists of items and of members, and instances
with the members that their present fields become (`encode_eq_ok`). Untyped content is read again
as what is stored of it (`ofJson_of_untyped`).
-/

namespace RecordSchema

open Outcome

/-! ## Modes -/

namespace EncodingMode

/-- The members of untyped content are untyped content of the same field. -/
theorem untypedField?_ofMembers (mode : EncodingMode) :
    mode.ofMembers.untypedField? = mode.untypedField? := by
  rw [ofMembers]
  cases h : mode.untypedField? <;> rfl

/-- The items of untyped content are untyped content of the same field. -/
theorem untypedField?_ofItems (mode : EncodingMode) {field : String}
    (h : mode.untypedField? = some field) : mode.ofItems.untypedField? = some field := by
  cases mode with
  | typed name rule depth =>
      cases depth with
      | zero => exact (untypedField?_ofMembers _).trans h
      | succ depth => cases rule <;> exact h
  | _ => exact (untypedField?_ofMembers _).trans h

/-- Untyped content is no keyed collection. -/
theorem isKeyed_eq_false {mode : EncodingMode} {field : String}
    (h : mode.untypedField? = some field) : mode.isKeyed = false := by
  cases mode with
  | typed name rule depth =>
      cases rule with
      | keyed => cases h
      | _ => rfl
  | _ => rfl

end EncodingMode

/-! ## Operations -/

namespace Encoding

variable {owner : String} {x : Binary64} {json : Json}

/-- A finite number is written, and what is written is read as the number but for the sign of
zero. -/
theorem exists_number_of_isFinite (owner : String) (h : x.isFinite) :
    ∃ n : JsonNumber, number owner x = .ok (.number n) ∧ n.toBinary64 = x.unsigned := by
  -- Only a number that is written as an integer can lose a sign.
  have hreal : x.toInt? ≠ some 0 → x.unsigned = x := fun hzero =>
    if_neg fun hx => hzero (Binary64.toInt?_of_isZero hx)
  rw [number, if_pos h]
  cases hint : x.toInt? with
  | none => exact ⟨.real x, rfl, (hreal (by simp [hint])).symm⟩
  | some n =>
      by_cases hn : n.natAbs ≤ maxExactInteger
      · exact ⟨.integer n, if_pos hn, Binary64.ofInt_eq_unsigned hint⟩
      · refine ⟨.real x, if_neg hn, (hreal ?_).symm⟩
        rw [hint]
        intro h
        cases h
        exact hn (by decide)

/-- Only finite numbers are written. -/
theorem exists_of_number_eq_ok (h : number owner x = .ok json) :
    ∃ n : JsonNumber, json = .number n ∧ n.toBinary64 = x.unsigned := by
  by_cases hx : x.isFinite
  · obtain ⟨n, hn, hread⟩ := exists_number_of_isFinite owner hx
    exact ⟨n, Except.ok.inj (h.symm.trans hn), hread⟩
  · rw [number, if_neg hx] at h
    cases h

/-- Typed content is written outside untyped content. -/
theorem typedOnly_eq_ok {kind : String} {mode : EncodingMode} {encoded : Except TypeError Json} :
    typedOnly owner kind mode encoded = .ok json ↔
      mode.untypedField? = none ∧ encoded = .ok json := by
  rw [typedOnly]
  cases mode.untypedField? <;> simp

/-- The members before the fields: the one that names the variant. -/
def variantMembers (r : Registry) : Option String → Entries Json
  | some variant => [(r.config.codec.variantKey, .string variant)]
  | none => []

/-- The member that a declared field becomes, if the field is present. -/
def member? (encoders : Entries Encoder) (name : String) (type : FieldType) :
    Except TypeError (Option Json) :=
  match encoders.get? name with
  | none => .ok none
  | some encode => (encode (.typed name type.rule type.depth)).map some

variable {r : Registry} {typeName : String} {variant : Option String}
  {encoders : Entries Encoder} {declared : Fields}

/-- The members of the present fields are put behind the variant, in order of declaration. -/
theorem fields_eq_ok (hdeclared : r.declaredFields typeName variant = .ok declared)
    (hdistinct : declared.names.Nodup) :
    fields r typeName variant encoders = .ok json ↔
      ∃ present : Entries Json, present.names.Sublist declared.names ∧
        (∀ field ∈ declared, member? encoders field.1 field.2 = .ok (present.get? field.1)) ∧
        json = .object ((variantMembers r variant).putAll present) := by
  -- The step of the loop, as one that has a member to put or none.
  have hput : ∀ (members : Entries Json) (field : String × FieldType),
      (match encoders.get? field.1 with
        | none => pure members
        | some encode => do
            let value ← encode (.typed field.1 field.2.rule field.2.depth)
            return members.put field.1 value) =
      (member? encoders field.1 field.2).map
        fun result ↦ (result.map (members.put field.1)).getD members := by
    intro members field
    rw [member?]
    cases encoders.get? field.1 with
    | none => rfl
    | some encode =>
        dsimp only
        cases encode (.typed field.1 field.2.rule field.2.depth) <;> rfl
  constructor
  · intro h
    obtain ⟨_, hfields, h⟩ := bind_eq_ok.mp h
    cases hdeclared.symm.trans hfields
    obtain ⟨members, hmembers, h⟩ := bind_eq_ok.mp h
    obtain ⟨present, hpresent, rfl⟩ := (Entries.foldlM_put_eq_ok hput).mp hmembers
    obtain ⟨hsub, hfound⟩ := (Entries.collect_eq_ok hdistinct).mp hpresent
    refine ⟨present, hsub, hfound, ?_⟩
    rw [← pure_eq_ok.mp h]
    cases variant <;> rfl
  · intro h
    obtain ⟨present, hsub, hfound, rfl⟩ := h
    have hpresent := (Entries.collect_eq_ok hdistinct).mpr ⟨hsub, hfound⟩
    refine bind_eq_ok.mpr ⟨declared, hdeclared, bind_eq_ok.mpr ⟨_,
      (Entries.foldlM_put_eq_ok hput).mpr ⟨present, hpresent, rfl⟩, ?_⟩⟩
    cases variant <;> rfl

/-- The standard codec encodes an instance of the registry field by field. -/
theorem typedInstance_eq_fields (hcodec : r.HasStandardCodec typeName) {d : TypeDefinition}
    (hd : r.definition? typeName = some d) {present : Entries Value} :
    typedInstance r ⟨r.tag typeName, variant, present⟩ encoders =
      fields r typeName variant encoders := by
  obtain ⟨entry, hentry, -⟩ := Option.map_eq_some_iff.mp hd
  have hlookup : r.lookup typeName = .ok entry := by rw [Registry.lookup, hentry]
  show (r.lookup typeName >>= _) = _
  rw [hlookup]
  simp [bind, Except.bind, Instance.typeName, Registry.tag, Registry.owns, hcodec entry hentry,
    Codec.standard]

end Encoding

namespace Registry

variable {r : Registry} {owner typeName : String} {mode : EncodingMode} {value : Value}
  {json : Json}

/-- Items are encoded one by one. -/
theorem encodeItems_eq_ok {items : List Value} {jsons : List Json} :
    r.encodeItems owner items mode = .ok jsons ↔
      List.Forall₂ (fun item json => r.encodeValue owner item mode = .ok json) items jsons := by
  induction items generalizing jsons with
  | nil => cases jsons <;> simp [encodeItems]
  | cons item items ih =>
      rw [encodeItems, bind_eq_ok]
      constructor
      · intro h
        obtain ⟨first, hfirst, h⟩ := h
        obtain ⟨others, hothers, h⟩ := bind_eq_ok.mp h
        obtain rfl := pure_eq_ok.mp h
        exact .cons hfirst (ih.mp hothers)
      · intro h
        cases h with
        | cons hfirst hothers =>
            exact ⟨_, hfirst, bind_eq_ok.mpr ⟨_, ih.mpr hothers, rfl⟩⟩

/-- Members are encoded one by one, under their keys. -/
theorem encodeMembers_eq_ok {members : Entries Value} {jsons : Entries Json} :
    r.encodeMembers owner members mode = .ok jsons ↔
      List.Forall₂ (fun member json => member.1 = json.1 ∧
        r.encodeValue owner member.2 mode = .ok json.2) members jsons := by
  induction members generalizing jsons with
  | nil => cases jsons <;> simp [encodeMembers]
  | cons member members ih =>
      obtain ⟨key, value⟩ := member
      rw [encodeMembers, bind_eq_ok]
      constructor
      · intro h
        obtain ⟨first, hfirst, h⟩ := h
        obtain ⟨others, hothers, h⟩ := bind_eq_ok.mp h
        obtain rfl := pure_eq_ok.mp h
        exact .cons ⟨rfl, hfirst⟩ (ih.mp hothers)
      · intro h
        cases h with
        | @cons _ json _ jsons hfirst hothers =>
            obtain ⟨name, json⟩ := json
            obtain ⟨rfl, hfirst⟩ := hfirst
            exact ⟨_, hfirst, bind_eq_ok.mpr ⟨_, ih.mpr hothers, rfl⟩⟩

theorem encoders_eq_mapValues (fields : Entries Value) :
    r.encoders owner fields = fields.mapValues (r.encodeValue owner) := by
  induction fields with
  | nil => rfl
  | cons field fields ih =>
      rw [encoders, ih]
      rfl

/-- Instances are encoded by the codecs of their types, outside untyped content. -/
theorem encodeValue_ofInstance_eq_ok {i : Instance} :
    r.encodeValue owner (.ofInstance i) mode = .ok json ↔
      mode.untypedField? = none ∧ r.encode i = .ok json := by
  rw [Value.ofInstance, encodeValue, Encoding.typedOnly_eq_ok]
  rfl

/-- A declared field becomes a member if its value is encoded, and none if it is absent. -/
theorem member?_eq_ok {fields : Entries Value} {name : String} {type : FieldType}
    {member : Option Json} :
    Encoding.member? (r.encoders owner fields) name type = .ok member ↔
      Option.Rel (fun value json =>
        r.encodeValue owner value (.typed name type.rule type.depth) = .ok json)
        (fields.get? name) member := by
  rw [Encoding.member?, encoders_eq_mapValues, Entries.get?_mapValues]
  cases fields.get? name with
  | none =>
      refine ⟨fun h => ?_, fun h => ?_⟩
      · cases h
        exact .none
      · cases h
        rfl
  | some value =>
      refine map_eq_ok.trans ⟨?_, fun h => ?_⟩
      · intro h
        obtain ⟨json, hjson, rfl⟩ := h
        exact .some hjson
      · cases h with
        | some hjson => exact ⟨_, hjson, rfl⟩

section Instances

variable {d : TypeDefinition} {variant : Option String} {declared : Fields} {fields : Entries Value}

/-- An instance of the registry is encoded as an object of its present fields, each encoded as what
it is declared as, and of the name of its variant. -/
theorem encode_eq_ok (hr : r.Checked) (hcodec : r.HasStandardCodec typeName)
    (hd : r.definition? typeName = some d)
    (hdeclared : d.fieldsOf? variant = some declared) :
    r.encode ⟨r.tag typeName, variant, fields⟩ = .ok json ↔
      ∃ present : Entries Json, present.names.Sublist declared.names ∧
        (∀ field ∈ declared, Option.Rel (fun value json =>
          r.encodeValue typeName value (.typed field.1 field.2.rule field.2.depth) = .ok json)
          (fields.get? field.1) (present.get? field.1)) ∧
        json = .object ((Encoding.variantMembers r variant).putAll present) := by
  have hencode : r.encode ⟨r.tag typeName, variant, fields⟩ =
      Encoding.fields r typeName variant (r.encoders typeName fields) :=
    Encoding.typedInstance_eq_fields hcodec hd
  rw [hencode, Encoding.fields_eq_ok (declaredFields_eq_ok.mpr ⟨d, hd, hdeclared⟩)
    ((hr.names hd).distinct hdeclared)]
  simp only [member?_eq_ok]

/-- An instance of the registry can be encoded if the values of its fields can. -/
theorem exists_encode (hr : r.Checked) (hcodec : r.HasStandardCodec typeName)
    (hd : r.definition? typeName = some d)
    (hdeclared : d.fieldsOf? variant = some declared)
    (h : ∀ field ∈ declared, ∀ value, fields.get? field.1 = some value → ∃ json,
      r.encodeValue typeName value (.typed field.1 field.2.rule field.2.depth) = .ok json) :
    ∃ json, r.encode ⟨r.tag typeName, variant, fields⟩ = .ok json := by
  have hsteps : ∀ field ∈ declared, ∃ member,
      Encoding.member? (r.encoders typeName fields) field.1 field.2 = .ok member := by
    intro field hfield
    simp only [member?_eq_ok]
    cases hget : fields.get? field.1 with
    | none => exact ⟨none, .none⟩
    | some value =>
        obtain ⟨json, hjson⟩ := h field hfield value hget
        exact ⟨some json, .some hjson⟩
  obtain ⟨present, hpresent⟩ := Entries.exists_collect hsteps
  obtain ⟨hsub, hfound⟩ := (Entries.collect_eq_ok ((hr.names hd).distinct hdeclared)).mp hpresent
  exact ⟨_, (encode_eq_ok hr hcodec hd hdeclared).mpr
    ⟨present, hsub, fun field hfield => member?_eq_ok.mp (hfound field hfield), rfl⟩⟩

end Instances

/-! ## Untyped content -/

/-- Untyped content is read as what is stored of it, and there is no instant in it. -/
theorem ofJson_of_untyped {field : String} {P : Instant → Prop}
    (hmode : mode.untypedField? = some field) (h : r.encodeValue owner value mode = .ok json) :
    Value.ofJson json = value.stored ∧ value.Everywhere (Value.DateHas P) := by
  -- The mode of the parts is untyped again, which carries the induction.
  induction value using Value.induction generalizing mode json with
  | date i =>
      have hnone := (Encoding.typedOnly_eq_ok.mp h).1
      cases hmode.symm.trans hnone
  | tagged tag variant fields =>
      have hnone := (encodeValue_ofInstance_eq_ok (i := ⟨tag, variant, fields⟩).mp h).1
      cases hmode.symm.trans hnone
  | array items ih =>
      obtain ⟨jsons, hjsons, rfl⟩ := map_eq_ok.mp h
      have hparts := fun item hitem json => @ih item hitem _ json (mode.untypedField?_ofItems hmode)
      have hall := encodeItems_eq_ok.mp hjsons
      rw [Value.ofJson, Value.ofJsonItems_eq_map, Value.stored, Value.mapAtoms_array]
      refine ⟨congrArg _ (map_eq_map_of_forall₂ ?_).symm, ?_⟩
      · exact forall₂_imp_left
          (fun item hitem json hjson => (hparts item hitem json hjson).1.symm) hall
      · refine Value.everywhere_array.mpr ⟨trivial, fun item hitem => ?_⟩
        obtain ⟨json, -, hjson⟩ := exists_of_mem_left hall hitem
        exact (hparts item hitem json hjson).2
  | object members ih =>
      rw [encodeValue, if_neg (by simp [EncodingMode.isKeyed_eq_false hmode])] at h
      obtain ⟨jsons, hjsons, rfl⟩ := map_eq_ok.mp h
      have hparts := fun member hmember json =>
        @ih member hmember _ json (mode.untypedField?_ofMembers.trans hmode)
      have hall := encodeMembers_eq_ok.mp hjsons
      rw [Value.ofJson, Value.ofJsonMembers_eq_mapValues, Value.stored, Value.mapAtoms_object]
      refine ⟨congrArg _ (map_eq_map_of_forall₂ ?_).symm, ?_⟩
      · refine forall₂_imp_left (fun member hmember json hjson => ?_) hall
        exact Prod.ext hjson.1 (hparts member hmember json.2 hjson.2).1.symm
      · refine Value.everywhere_object.mpr ⟨trivial, fun member hmember => ?_⟩
        obtain ⟨json, -, hjson⟩ := exists_of_mem_left hall hmember
        exact (hparts member hmember json.2 hjson.2).2
  | number x =>
      obtain ⟨n, rfl, hn⟩ := Encoding.exists_of_number_eq_ok h
      exact ⟨congrArg Value.number hn, .of_leaf trivial trivial⟩
  | _ =>
      cases h
      exact ⟨rfl, .of_leaf trivial trivial⟩

/-- Plain values can be encoded in whatever mode. -/
theorem exists_encodeValue_ofJson (h : json.WellFormed) :
    ∃ result, r.encodeValue owner (.ofJson json) mode = .ok result := by
  induction json using Json.induction generalizing mode with
  | number n =>
      have hn : n.toBinary64.isFinite := by
        cases h with
        | integer hlow hhigh => exact Binary64.isFinite_ofInt hlow hhigh
        | real hx => exact hx
      obtain ⟨written, hwritten, -⟩ := Encoding.exists_number_of_isFinite owner hn
      exact ⟨_, hwritten⟩
  | array items ih =>
      have hitems := Json.wellFormed_array.mp h
      have hsteps : ∀ item ∈ items.map Value.ofJson, ∃ result,
          r.encodeValue owner item mode.ofItems = .ok result :=
        List.forall_mem_map.mpr fun item hitem => ih item hitem (hitems item hitem)
      obtain ⟨jsons, hjsons⟩ := exists_forall₂ hsteps
      rw [Value.ofJson, Value.ofJsonItems_eq_map]
      exact ⟨_, map_eq_ok.mpr ⟨jsons, encodeItems_eq_ok.mpr hjsons, rfl⟩⟩
  | object members ih =>
      have hmembers := (Json.wellFormed_object.mp h).2
      have hsteps : ∀ member ∈ Entries.mapValues Value.ofJson members, ∃ result : String × Json,
          member.1 = result.1 ∧ r.encodeValue owner member.2 mode.ofMembers = .ok result.2 := by
        refine List.forall_mem_map.mpr fun member hmember => ?_
        obtain ⟨result, hresult⟩ : ∃ result,
            r.encodeValue owner (.ofJson member.2) mode.ofMembers = .ok result :=
          ih member hmember (hmembers member hmember)
        exact ⟨(member.1, result), rfl, hresult⟩
      obtain ⟨jsons, hjsons⟩ := exists_forall₂ hsteps
      rw [Value.ofJson, Value.ofJsonMembers_eq_mapValues, encodeValue,
        encodeMembers_eq_ok.mpr hjsons]
      cases mode.isKeyed
      · exact ⟨_, rfl⟩
      · exact ⟨_, rfl⟩
  | _ => exact ⟨_, rfl⟩

end Registry

end RecordSchema
