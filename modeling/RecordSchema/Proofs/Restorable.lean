import RecordSchema.Proofs.Encoded

/-!
# Restorable values

Some values are written as JSON that reading takes for something else: two members under one key, a
null that reads as absent, a field that hides the variant. `Registry.IsRestorable` rules these out.
What was decoded is restorable, and it can be encoded (`Decodes.restorable`).
-/

namespace RecordSchema

open Outcome

namespace Registry

/-- No optional field of the instance that may hold anything holds a null. -/
def HoldsNoNull (r : Registry) (i : Instance) : Prop :=
  ∀ d declared, r.definition? i.typeName = some d → d.fieldsOf? i.variant = some declared →
    ∀ field ∈ declared, field.2.isOptional → field.2.rule = .any → field.2.depth = 0 →
      i.get? field.1 ≠ some .null

/-- If the variant of the instance declares a field of the name of the variant key, this field holds
the variant. -/
def NamesVariant (r : Registry) (i : Instance) : Prop :=
  ∀ d declared variant, r.definition? i.typeName = some d → i.variant = some variant →
    d.fieldsOf? i.variant = some declared → r.config.codec.variantKey ∈ Entries.names declared →
      i.get? r.config.codec.variantKey = some (.string variant)

/-- Reading takes what is written here for what it is: an object has each key once, and an instance
has no null that reads as absent and no field that hides its variant. -/
def IsRestorable (r : Registry) : Value → Prop
  | .object members => (Entries.names members).Nodup
  | .tagged tag variant fields =>
      (r.config.codec.nullAsAbsent → r.HoldsNoNull ⟨tag, variant, fields⟩) ∧
        r.NamesVariant ⟨tag, variant, fields⟩
  | _ => True

variable {r : Registry} {owner typeName : String} {rule : Rule} {depth : Nat} {value result : Value}
  {json : Json}

/-- Plain values are restorable. -/
theorem isRestorable_ofJson (h : json.WellFormed) :
    (Value.ofJson json).Everywhere r.IsRestorable := by
  have hsound : (Value.ofJson json).Sound [] := sound_ofJson h
  refine hsound.imp fun part hpart => ?_
  cases part with
  | tagged tag variant fields =>
      obtain ⟨other, hother, -⟩ := hpart
      cases hother
  | object members => exact hpart
  | _ => trivial

/-- An instance that was decoded is restorable. -/
theorem isRestorable_of_decodes (hr : r.Resolved) {tag : TypeTag} {variant : Option String}
    {fields : Entries Value}
    (h : r.Decodes (.tagged typeName) 0 json (.tagged tag variant fields)) :
    r.IsRestorable (.tagged tag variant fields) := by
  cases h with
  | @shape _ d _ declared members _ hd hvariant hdeclared hsub hfields =>
      constructor
      · intro habsent d' declared' hd' hdeclared' field hfield hoptional hrule hdepth hnull
        cases hd.symm.trans hd'
        cases hdeclared.symm.trans hdeclared'
        rcases decodesField_iff.mp (hfields field hfield) with
          ⟨-, hnone, -⟩ | ⟨json, value, hjson, hvalue, hdecodes⟩
        · cases hnull.symm.trans hnone
        · cases hnull.symm.trans hvalue
          rw [hrule, hdepth, decodes_any_iff] at hdecodes
          have hnulljson : json = .null := by cases json <;> first | rfl | cases hdecodes
          have hkept := (Option.filter_eq_some_iff.mp hjson).2
          rw [hnulljson, readsAsAbsent, habsent, hoptional] at hkept
          cases hkept
      · intro d' declared' name hd' hname hdeclared' hmem
        cases hd.symm.trans hd'
        cases hdeclared.symm.trans hdeclared'
        -- The field is decoded from the member that names the variant, and no variant is a date.
        obtain rfl : variant = some name := hname
        obtain ⟨field, hfield, hkey⟩ := List.mem_map.mp hmem
        have hmember : r.memberFor? field.2 members field.1 = some (.string name) :=
          memberFor?_eq_of_get? (hkey ▸ get?_of_shapeVariant? hvariant) nofun
        have hnodate :=
          Instant.parse?_eq_none_of_isIdentifier ((hr.checked.names hd).identifier hdeclared)
        rcases decodesField_iff.mp (hfields field hfield) with
          ⟨hnone, -, -⟩ | ⟨json, value, hjson, hvalue, hdecodes⟩
        · cases hmember.symm.trans hnone
        · cases hmember.symm.trans hjson
          rw [hdecodes.eq_string hnodate, hkey] at hvalue
          exact hvalue

/-- A keyed collection is restorable and can be encoded if this holds of its members, which are
instances, and if it has each key once. -/
theorem restorable_keyed {idField field : String} {members : Entries Value}
    (hnodup : members.names.Nodup)
    (h : ∀ member ∈ members, (∃ i : Instance, member.2 = .ofInstance i) ∧
      member.2.Everywhere r.IsRestorable ∧
      ∃ written, r.encodeValue owner member.2 (.typed field (.tagged typeName) 0) = .ok written) :
    (Value.object members).Everywhere r.IsRestorable ∧ ∃ written,
      r.encodeValue owner (.object members) (.typed field (.keyed typeName idField) 0) =
        .ok written := by
  refine ⟨Value.everywhere_object.mpr ⟨hnodup, fun member hmember => (h member hmember).2.1⟩, ?_⟩
  -- Instances are encoded in the plain mode as in the mode of their type.
  have hsteps : ∀ member ∈ members, ∃ written : String × Json, member.1 = written.1 ∧
      r.encodeValue owner member.2 .plain = .ok written.2 := by
    intro member hmember
    obtain ⟨⟨i, hi⟩, -, written, hwritten⟩ := h member hmember
    rw [hi, encodeValue_ofInstance_eq_ok] at hwritten
    refine ⟨(member.1, written), rfl, ?_⟩
    rw [hi, encodeValue_ofInstance_eq_ok]
    exact ⟨rfl, hwritten.2⟩
  obtain ⟨written, hwritten⟩ := exists_forall₂ hsteps
  exact ⟨_, map_eq_ok.mpr ⟨written, encodeMembers_eq_ok.mpr hwritten, rfl⟩⟩

/-- What was decoded from a well-formed JSON value is restorable, and can be encoded. -/
theorem Decodes.restorable (hr : r.Resolved) (owner field : String) (hjson : json.WellFormed)
    (h : r.Decodes rule depth json value) :
    value.Everywhere r.IsRestorable ∧
      ∃ written, r.encodeValue owner value (.typed field rule depth) = .ok written := by
  have hplain : ∀ {json : Json} {owner mode}, json.WellFormed →
      (Value.ofJson json).Everywhere r.IsRestorable ∧
        ∃ written, r.encodeValue owner (.ofJson json) mode = .ok written :=
    fun hjson => ⟨isRestorable_ofJson hjson, exists_encodeValue_ofJson hjson⟩
  induction json using Json.induction generalizing owner field rule depth value with
  | array items ih =>
      have hitems := Json.wellFormed_array.mp hjson
      cases h with
      | any => exact hplain hjson
      | @array _ depth _ values hlength hall =>
          obtain ⟨_, heq, hall⟩ := decodes_array_iff.mp (.array hlength hall)
          cases heq
          have hvalues : ∀ value ∈ values, value.Everywhere r.IsRestorable ∧ ∃ written,
              r.encodeValue owner value (.typed field rule depth) = .ok written := by
            intro value hvalue
            obtain ⟨item, hitem, hdecodes⟩ := exists_of_mem_right hall hvalue
            exact ih item hitem _ _ (hitems item hitem) hdecodes
          obtain ⟨written, hwritten⟩ := exists_forall₂ fun value hvalue => (hvalues value hvalue).2
          exact ⟨Value.everywhere_array.mpr ⟨trivial, fun value hvalue => (hvalues value hvalue).1⟩,
            _, map_eq_ok.mpr ⟨written, encodeItems_eq_ok.mpr hwritten, rfl⟩⟩
      | keyedItems hlength hall hkeys hdistinct =>
          obtain ⟨_, heq, hall, -⟩ :=
            decodes_keyedItems_iff.mp (.keyedItems hlength hall hkeys hdistinct)
          cases heq
          refine restorable_keyed hdistinct fun member hmember => ?_
          obtain ⟨item, hitem, hdecodes⟩ := exists_of_mem_right hall hmember
          exact ⟨hdecodes.accepts_self.1, ih item hitem _ _ (hitems item hitem) hdecodes⟩
  | object members ih =>
      obtain ⟨hnodup, hmembers⟩ := Json.wellFormed_object.mp hjson
      cases h with
      | any => exact hplain hjson
      | object => exact hplain hjson
      | @shape typeName d variant declared _ fields hd hvariant hdeclared hsub hfields =>
          have hparts : ∀ field ∈ declared, ∀ value, fields.get? field.1 = some value →
              value.Everywhere r.IsRestorable ∧ ∃ written, r.encodeValue typeName value
                (.typed field.1 field.2.rule field.2.depth) = .ok written := by
            intro field hfield value hvalue
            rcases decodesField_iff.mp (hfields field hfield) with
              ⟨-, hnone, -⟩ | ⟨json, other, hjson, hother, hdecodes⟩
            · cases hvalue.symm.trans hnone
            · cases hvalue.symm.trans hother
              have hmember := mem_of_memberFor? hjson
              exact ih _ hmember _ _ (hmembers _ hmember) hdecodes
          refine ⟨Value.everywhere_tagged.mpr ⟨?_, fun field hfield => ?_⟩, ?_⟩
          · exact isRestorable_of_decodes hr (.shape hd hvariant hdeclared hsub hfields)
          · have hdistinct := (hr.checked.names hd).distinct hdeclared
            obtain ⟨type, htype, hget⟩ := Entries.exists_of_mem_of_sublist hdistinct hsub hfield
            exact (hparts _ htype _ hget).1
          · obtain ⟨written, hwritten⟩ :=
              exists_encode hr.checked (hr.hasStandardCodec _) hd hdeclared
                fun field hfield value hvalue => (hparts field hfield value hvalue).2
            exact ⟨written, encodeValue_ofInstance_eq_ok.mpr ⟨rfl, hwritten⟩⟩
      | keyedMembers hnames hall hkeys =>
          obtain ⟨_, heq, hall, -⟩ := decodes_keyedMembers_iff.mp (.keyedMembers hnames hall hkeys)
          cases heq
          refine restorable_keyed (hnames ▸ hnodup) fun member hmember => ?_
          obtain ⟨json, hjson, -, hdecodes⟩ := exists_of_mem_right hall hmember
          exact ⟨hdecodes.accepts_self.1, ih json hjson _ _ (hmembers json hjson) hdecodes⟩
  | string s =>
      cases h with
      | any => exact hplain hjson
      | _ =>
          exact ⟨.of_leaf trivial trivial, _, rfl⟩
  | _ =>
      cases h <;> exact hplain hjson

end Registry

end RecordSchema
