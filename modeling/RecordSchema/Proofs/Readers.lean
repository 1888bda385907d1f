import RecordSchema.Codec.Decoding
import RecordSchema.Proofs.Constructed
import RecordSchema.Proofs.Decoded

/-!
# Readers of shapes

Decoding walks over a shape with readers of its parts. A reader is faithful if it decodes and
validates as the relation `Decodes` says; every reader is (`reader_isFaithful`). So decoding gives
an instance of a type exactly when the relation does, if no type has a codec of its own
(`decode_eq_ok`). Where other types have one, a type with the standard codec is still decoded field
by field (`decode_object_eq_ok`).
-/

namespace RecordSchema

open Outcome

open Registry

/-- The reader decodes and validates as the relation says. -/
structure ShapeReader.IsFaithful (r : Registry) (json : Json) (reader : ShapeReader) : Prop where
  json_eq : reader.json = json
  value : ∀ {rule depth path normal},
    (∃ value, reader.value rule depth path = .ok value ∧ r.Accepts rule depth value normal) ↔
      r.Decodes rule depth json normal
  decoded : ∀ {typeName i}, reader.decoded typeName = .ok i ↔
    r.Decodes (.tagged typeName) 0 json (.ofInstance i)

namespace Decoding

variable {r : Registry} {run : HookRunner}

/-- The items of an array are decoded one by one, whatever each of them is decoded to. -/
theorem exists_items_iff {R : Json → Value → Prop} {jsons : List Json}
    {readers : List ShapeReader} {rule : Rule} {depth index : Nat} {path : Path}
    {normals : List Value}
    (h : List.Forall₂ (fun json reader => ∀ {path normal}, (∃ value,
      reader.value rule depth path = .ok value ∧ r.Accepts rule depth value normal) ↔
        R json normal) jsons readers) :
    (∃ values, items rule depth path index readers = .ok values ∧
      List.Forall₂ (r.Accepts rule depth) values normals) ↔ List.Forall₂ R jsons normals := by
  induction h generalizing index normals with
  | nil => cases normals <;> simp [items]
  | @cons json reader jsons readers hreader _ ih =>
      constructor
      · intro h
        obtain ⟨values, hvalues, haccepts⟩ := h
        obtain ⟨first, hfirst, hvalues⟩ := bind_eq_ok.mp hvalues
        obtain ⟨others, hothers, hvalues⟩ := bind_eq_ok.mp hvalues
        cases pure_eq_ok.mp hvalues
        cases haccepts with
        | cons hhead htail =>
            exact .cons (hreader.mp ⟨first, hfirst, hhead⟩) (ih.mp ⟨others, hothers, htail⟩)
      · intro hall
        cases hall with
        | cons hhead htail =>
            obtain ⟨first, hfirst, hhead⟩ := hreader.mpr hhead
            obtain ⟨others, hothers, htail⟩ := ih.mpr htail
            exact ⟨first :: others, bind_eq_ok.mpr ⟨first, hfirst, bind_eq_ok.mpr
              ⟨others, hothers, rfl⟩⟩, .cons hhead htail⟩

/-- The members of an object are decoded one by one. -/
theorem keyedMembers_eq_ok {R : Json → Instance → Prop} {jsons : Entries Json}
    {readers : Entries ShapeReader} {typeName : String} {path : Path} {members : Entries Value}
    (h : List.Forall₂ (fun json reader => json.1 = reader.1 ∧
      ∀ {i}, reader.2.decoded typeName = .ok i ↔ R json.2 i) jsons readers) :
    keyedMembers typeName path readers = .ok members ↔
      List.Forall₂ (fun json member => json.1 = member.1 ∧
        ∃ i, R json.2 i ∧ member.2 = .ofInstance i) jsons members := by
  induction h generalizing members with
  | nil => cases members <;> simp [keyedMembers]
  | @cons json reader jsons readers hreader _ ih =>
      obtain ⟨key, json⟩ := json
      obtain ⟨name, reader⟩ := reader
      obtain ⟨rfl, hreader⟩ := hreader
      rw [keyedMembers, bind_eq_ok]
      constructor
      · intro h
        obtain ⟨i, hi, hmembers⟩ := h
        obtain ⟨others, hothers, hmembers⟩ := bind_eq_ok.mp hmembers
        cases pure_eq_ok.mp hmembers
        exact .cons ⟨rfl, i, hreader.mp (mapError_eq_ok.mp hi), rfl⟩ (ih.mp hothers)
      · intro hall
        cases hall with
        | @cons _ member _ members hhead htail =>
            obtain ⟨key, value⟩ := member
            obtain ⟨rfl, i, hi, rfl⟩ := hhead
            exact ⟨i, mapError_eq_ok.mpr (hreader.mpr hi),
              bind_eq_ok.mpr ⟨members, ih.mpr htail, rfl⟩⟩

/-- A list of members is decoded one by one and filed under their keys, which have to be different
from each other and from those that were found before. -/
theorem keyedItems_eq_ok {R : Json → Instance → Prop} {jsons : List Json}
    {readers : List ShapeReader} {typeName idField : String} {path : Path} {index : Nat}
    {found members : Entries Value} (hfound : found.names.Nodup)
    (h : List.Forall₂ (fun json reader => ∀ {i}, reader.decoded typeName = .ok i ↔ R json i)
      jsons readers) :
    keyedItems r typeName idField path index found readers = .ok members ↔
      ∃ added : Entries Value, members = found ++ added ∧
        List.Forall₂ (fun json member => ∃ i, R json i ∧ member.2 = .ofInstance i ∧
          i.keyText? idField = some member.1) jsons added ∧ members.names.Nodup := by
  induction h generalizing index found with
  | nil =>
      rw [keyedItems, Except.ok.injEq]
      constructor
      · rintro rfl
        exact ⟨[], (List.append_nil _).symm, .nil, hfound⟩
      · intro h
        obtain ⟨added, rfl, hadded, -⟩ := h
        cases hadded
        exact (List.append_nil _).symm
  | @cons json reader jsons readers hreader _ ih =>
      rw [keyedItems, bind_eq_ok]
      constructor
      · intro h
        obtain ⟨i, hi, hmembers⟩ := h
        -- The walk goes on only with a key, and only with one that is not in use.
        split at hmembers
        · cases hmembers
        next key hkey =>
            split at hmembers
            · cases hmembers
            next hnew =>
                rw [Entries.has_iff] at hnew
                have hfound' : (Entries.names (found ++ [(key, Value.ofInstance i)])).Nodup := by
                  rw [Entries.names_append, List.nodup_append]
                  refine ⟨hfound, List.nodup_singleton _, ?_⟩
                  intro name hname other hother heq
                  refine hnew ?_
                  have hkey : other = key := List.mem_singleton.mp hother
                  rwa [← hkey, ← heq]
                obtain ⟨added, rfl, hadded, hdistinct⟩ := (ih hfound').mp hmembers
                refine ⟨(key, .ofInstance i) :: added, List.append_assoc .., ?_, hdistinct⟩
                exact .cons ⟨i, hreader.mp (mapError_eq_ok.mp hi), rfl, hkey⟩ hadded
      · intro h
        obtain ⟨added, rfl, hadded, hdistinct⟩ := h
        cases hadded with
        | @cons _ member _ added hhead htail =>
            obtain ⟨key, value⟩ := member
            obtain ⟨i, hi, rfl, hkey⟩ := hhead
            refine ⟨i, mapError_eq_ok.mpr (hreader.mpr hi), ?_⟩
            have hnew : ¬ found.has key := by
              rw [Entries.has_iff]
              rw [Entries.names_append, List.nodup_append] at hdistinct
              exact fun hmem => hdistinct.2.2 key hmem key List.mem_cons_self rfl
            have hfound' : (Entries.names (found ++ [(key, Value.ofInstance i)])).Nodup := by
              rw [List.append_cons, Entries.names_append] at hdistinct
              exact (List.nodup_append.mp hdistinct).1
            simp only [hkey, if_neg hnew]
            exact (ih hfound').mpr ⟨added, List.append_cons .., htail, hdistinct⟩

/-- A list is decoded and accepted as a keyed collection when the relation says so. -/
theorem exists_keyedItems_iff {jsons : List Json} {readers : List ShapeReader}
    {typeName idField : String} {path : Path} {normal : Value}
    (h : List.Forall₂ (ShapeReader.IsFaithful r) jsons readers) :
    (∃ members, keyedItems r typeName idField path 0 [] readers = .ok members ∧
      r.Accepts (.keyed typeName (some idField)) 0 (.object members) normal) ↔
      r.Decodes (.keyed typeName (some idField)) 0 (.array jsons) normal := by
  have hempty : (Entries.names ([] : Entries Value)).Nodup := List.nodup_nil
  have hdecoded := h.imp fun _ _ hreader => @hreader.decoded typeName
  rw [decodes_keyedItems_iff]
  simp only [keyedItems_eq_ok hempty hdecoded, List.nil_append]
  constructor
  · intro h
    obtain ⟨members, ⟨_, rfl, hall, hdistinct⟩, haccepts⟩ := h
    have hinstances : ∀ member ∈ members, (∃ i : Instance, member.2 = .ofInstance i) ∧
        r.Accepts (.tagged typeName) 0 member.2 member.2 := by
      intro member hmember
      obtain ⟨json, -, i, hi, heq, -⟩ := exists_of_mem_right hall hmember
      exact heq ▸ hi.accepts_self
    obtain ⟨rfl, hkeys⟩ := (accepts_keyed_instances_iff hinstances).mp haccepts
    exact ⟨members, rfl, hall.imp fun json member ⟨i, hi, heq, _⟩ => heq ▸ hi, hkeys, hdistinct⟩
  · intro h
    obtain ⟨members, rfl, hall, hkeys, hdistinct⟩ := h
    have hinstances : ∀ member ∈ members, (∃ i : Instance, member.2 = .ofInstance i) ∧
        r.Accepts (.tagged typeName) 0 member.2 member.2 := by
      intro member hmember
      obtain ⟨json, -, hmember⟩ := exists_of_mem_right hall hmember
      exact hmember.accepts_self
    refine ⟨members, ⟨members, rfl, ?_, hdistinct⟩,
      (accepts_keyed_instances_iff hinstances).mpr ⟨rfl, hkeys⟩⟩
    refine (forall₂_and_right.mpr ⟨hall, hkeys⟩).imp fun json member ⟨hmember, hkey⟩ => ?_
    obtain ⟨⟨i, hi⟩, -⟩ := hmember.accepts_self
    rw [hi] at hmember hkey
    exact ⟨i, hmember, hi, hkey⟩

/-- An object is decoded and accepted as a keyed collection when the relation says so. -/
theorem exists_keyedMembers_iff {jsons : Entries Json} {readers : Entries ShapeReader}
    {typeName idField : String} {path : Path} {normal : Value}
    (h : List.Forall₂ (fun json reader => json.1 = reader.1 ∧
      ShapeReader.IsFaithful r json.2 reader.2) jsons readers) :
    (∃ members, keyedMembers typeName path readers = .ok members ∧
      r.Accepts (.keyed typeName (some idField)) 0 (.object members) normal) ↔
      r.Decodes (.keyed typeName (some idField)) 0 (.object jsons) normal := by
  have hdecoded := h.imp fun _ _ hreader =>
    hreader.imp_right fun hfaithful => @hfaithful.decoded typeName
  rw [decodes_keyedMembers_iff]
  simp only [keyedMembers_eq_ok
    (R := fun json i => r.Decodes (.tagged typeName) 0 json (.ofInstance i)) hdecoded]
  constructor
  · intro h
    obtain ⟨members, hall, haccepts⟩ := h
    have hinstances : ∀ member ∈ members, (∃ i : Instance, member.2 = .ofInstance i) ∧
        r.Accepts (.tagged typeName) 0 member.2 member.2 := by
      intro member hmember
      obtain ⟨json, -, -, i, hi, heq⟩ := exists_of_mem_right hall hmember
      exact heq ▸ hi.accepts_self
    obtain ⟨rfl, hkeys⟩ := (accepts_keyed_instances_iff hinstances).mp haccepts
    exact ⟨members, rfl, hall.imp fun json member ⟨hkey, i, hi, heq⟩ => ⟨hkey, heq ▸ hi⟩, hkeys⟩
  · intro h
    obtain ⟨members, rfl, hall, hkeys⟩ := h
    have hinstances : ∀ member ∈ members, (∃ i : Instance, member.2 = .ofInstance i) ∧
        r.Accepts (.tagged typeName) 0 member.2 member.2 := by
      intro member hmember
      obtain ⟨json, -, -, hmember⟩ := exists_of_mem_right hall hmember
      exact hmember.accepts_self
    refine ⟨members, hall.imp fun json member ⟨hkey, hmember⟩ => ⟨hkey, ?_⟩,
      (accepts_keyed_instances_iff hinstances).mpr ⟨rfl, hkeys⟩⟩
    obtain ⟨⟨i, hi⟩, -⟩ := hmember.accepts_self
    exact ⟨i, hi ▸ hmember, hi⟩

/-- The variant of a shape is the one that its plain value names. -/
theorem variant_eq_ok {d : TypeDefinition} {variant : Option String} {members : Entries Json}
    {readers : Entries ShapeReader}
    (h : ∀ name, (readers.get? name).map (·.json) = members.get? name) :
    Decoding.variant r d readers = .ok variant ↔
      r.shapeVariant? d (Value.ofJsonMembers members) = some variant := by
  obtain ⟨name, _ | variants, idField⟩ := d
  · simp [Decoding.variant, shapeVariant?, TypeDefinition.isUnion, TypeDefinition.variants?,
      Shape.variants?]
  · have hkey := h r.config.codec.variantKey
    rw [Decoding.variant, shapeVariant?, Value.ofJsonMembers_eq_mapValues, Entries.get?_mapValues,
      ← hkey]
    cases readers.get? r.config.codec.variantKey with
    | none =>
        simp [TypeDefinition.isUnion, TypeDefinition.variants?, Shape.variants?]
    | some reader =>
        obtain ⟨json, value, decoded⟩ := reader
        cases json <;>
          simp [TypeDefinition.isUnion, TypeDefinition.variants?, Shape.variants?, Json.string?,
            Value.ofJson]

/-- What is decoded for a field from the reader of its member, if there is one. -/
def member (r : Registry) (d : TypeDefinition) (variant : Option String) (name : String)
    (type : FieldType) : Option ShapeReader → Except TypeError (Option Value)
  | none => .ok none
  | some reader =>
      if r.readsAsAbsent type reader.json then .ok none
      else ((reader.value type.rule type.depth [.field name]).mapError
        (reportAgainst d variant)).map some

/-- Members are decoded in a walk over the declared fields. -/
theorem members_eq_collect (d : TypeDefinition) (variant : Option String)
    (readers : Entries ShapeReader) (declared : Fields) :
    members r d variant readers declared =
      declared.collect fun name type ↦ member r d variant name type (readers.get? name) := by
  induction declared with
  | nil => rfl
  | cons field rest ih =>
      obtain ⟨name, type⟩ := field
      rw [members, ih, Entries.collect]
      generalize Entries.collect _ rest = others
      have habsent : others = others >>= pure := by cases others <;> rfl
      cases readers.get? name with
      | none => exact habsent
      | some reader =>
          obtain ⟨json, value, decoded⟩ := reader
          by_cases hread : r.readsAsAbsent type json
          · have hmember : member r d variant name type (some ⟨json, value, decoded⟩) = .ok none :=
              if_pos hread
            rw [hmember]
            cases json with
            | null => exact (if_pos hread).trans habsent
            | _ => cases hread
          · have hmember : member r d variant name type (some ⟨json, value, decoded⟩) =
                ((value type.rule type.depth [.field name]).mapError
                  (reportAgainst d variant)).map some := if_neg hread
            -- Stated for any `pack`, since the two walks match on the result in different places.
            have hpresent : ∀ (step : Except TypeError Value)
                (pack : Option Value → Entries Value → Entries Value),
                (∀ value others, pack (some value) others = (name, value) :: others) →
                (step >>= fun value => others >>= fun others => pure ((name, value) :: others)) =
                  step.map some >>= fun result => others >>= fun others =>
                    pure (pack result others) := by
              rintro (error | value) pack hpack
              · rfl
              · exact congrArg _ (funext fun others => congrArg _ (hpack value others).symm)
            rw [hmember]
            cases json with
            | null => exact (if_neg hread).trans (hpresent _ _ fun _ _ => rfl)
            | _ => exact hpresent _ _ fun _ _ => rfl

/-- The member of a field is decoded and accepted as a value if it does not read as absent, whatever
it is decoded to. -/
theorem exists_member_iff {R : Json → Value → Prop} {d : TypeDefinition} {variant : Option String}
    {name : String} {type : FieldType} {result : Option Value} {json : Option Json}
    {reader : Json → ShapeReader} (hjson : ∀ member ∈ json, (reader member).json = member)
    (h : ∀ member ∈ json, ∀ {normal}, (∃ value,
      (reader member).value type.rule type.depth [.field name] = .ok value ∧
        r.Accepts type.rule type.depth value normal) ↔ R member normal) :
    (∃ decoded, member r d variant name type (json.map reader) = .ok decoded ∧
      r.AcceptsField type decoded result) ↔
      (json.filter (!r.readsAsAbsent type ·) = none ∧ result = none ∧ type.isOptional) ∨
        ∃ member value, json.filter (!r.readsAsAbsent type ·) = some member ∧
          result = some value ∧ R member value := by
  cases json with
  | none => simp [member, acceptsField_iff]
  | some json =>
      have hreader := @h json rfl
      rw [Option.map_some, member, hjson json rfl, Option.filter_some]
      cases r.readsAsAbsent type json with
      | true => simp [acceptsField_iff]
      | false =>
          simp only [Bool.false_eq_true, if_false, Bool.not_false, if_true, map_eq_ok,
            mapError_eq_ok]
          constructor
          · intro h
            obtain ⟨_, ⟨value, hvalue, rfl⟩, haccepts⟩ := h
            cases haccepts with
            | present haccepts =>
                exact .inr ⟨json, _, rfl, rfl, hreader.mp ⟨value, hvalue, haccepts⟩⟩
          · intro h
            rcases h with ⟨hnone, -⟩ | ⟨_, normal, hsome, rfl, hread⟩
            · cases hnone
            · obtain rfl := Option.some.inj hsome
              obtain ⟨value, hvalue, haccepts⟩ := hreader.mpr hread
              exact ⟨some value, ⟨value, hvalue, rfl⟩, .present haccepts⟩

/-- An object is decoded to an instance of the variant that it names, whose fields are the normal
forms of what is decoded for them. -/
theorem fields_eq_ok_iff_member (hr : r.Checked) {typeName : String} {shape : Json}
    {readers : Entries ShapeReader} {i : Instance} :
    Decoding.fields r typeName shape (some readers) = .ok i ↔
      ∃ d declared, r.definition? typeName = some d ∧ Decoding.variant r d readers = .ok i.variant ∧
        d.fieldsOf? i.variant = some declared ∧ i.tag = r.tag typeName ∧
        i.fields.names.Sublist declared.names ∧ ∀ field ∈ declared, ∃ decoded,
          member r d i.variant field.1 field.2 (readers.get? field.1) = .ok decoded ∧
            r.AcceptsField field.2 decoded (i.fields.get? field.1) := by
  constructor
  · intro hfields
    obtain ⟨d, hd, hfields⟩ := bind_eq_ok.mp hfields
    obtain ⟨variant, hvariant, hfields⟩ := bind_eq_ok.mp hfields
    obtain ⟨declared, hdeclared, hfields⟩ := bind_eq_ok.mp hfields
    obtain ⟨decoded, hdecoded, hconstruct⟩ := bind_eq_ok.mp hfields
    rw [definition_eq_ok] at hd
    obtain ⟨_, hd', hdeclared⟩ := declaredFields_eq_ok.mp hdeclared
    cases hd.symm.trans hd'
    obtain ⟨_, _, hd', hdeclared', htag, rfl, hsub, haccepts⟩ := (construct_eq_ok hr).mp hconstruct
    cases hd.symm.trans hd'
    cases hdeclared.symm.trans hdeclared'
    rw [members_eq_collect, Entries.collect_eq_ok ((hr.names hd).distinct hdeclared)] at hdecoded
    exact ⟨d, declared, hd, hvariant, hdeclared, htag, hsub, fun field hfield =>
      ⟨_, hdecoded.2 field hfield, haccepts field hfield⟩⟩
  · intro h
    obtain ⟨d, declared, hd, hvariant, hdeclared, htag, hsub, hfields⟩ := h
    have hdistinct := (hr.names hd).distinct hdeclared
    -- What is decoded need not be the normal form yet: only construction makes it so.
    obtain ⟨decoded, hdecoded⟩ : ∃ decoded,
        Decoding.members r d i.variant readers declared = .ok decoded := by
      rw [members_eq_collect]
      exact Entries.exists_collect fun field hfield => (hfields field hfield).imp fun _ h => h.1
    have haccepts : ∀ field ∈ declared,
        r.AcceptsField field.2 (decoded.get? field.1) (i.fields.get? field.1) := by
      intro field hfield
      obtain ⟨result, hresult, haccepts⟩ := hfields field hfield
      have hall := (Entries.collect_eq_ok hdistinct).mp
        ((members_eq_collect ..).symm.trans hdecoded)
      cases hresult.symm.trans (hall.2 field hfield)
      exact haccepts
    refine bind_eq_ok.mpr ⟨d, definition_eq_ok.mpr hd, ?_⟩
    refine bind_eq_ok.mpr ⟨i.variant, hvariant, ?_⟩
    refine bind_eq_ok.mpr ⟨declared, declaredFields_eq_ok.mpr ⟨d, hd, hdeclared⟩, ?_⟩
    refine bind_eq_ok.mpr ⟨decoded, hdecoded, ?_⟩
    exact (construct_eq_ok hr).mpr ⟨d, declared, hd, hdeclared, htag, rfl, hsub, haccepts⟩

/-- The member of a field is decoded and accepted as a value when the relation says so. -/
theorem exists_member_iff_decodesField {members : Entries Json}
    (h : ∀ member ∈ members, (r.reader run member.2).IsFaithful r member.2) {d : TypeDefinition}
    {variant : Option String} {name : String} {type : FieldType} {result : Option Value} :
    (∃ decoded, member r d variant name type ((members.mapValues (r.reader run)).get? name) =
        .ok decoded ∧ r.AcceptsField type decoded result) ↔
      r.DecodesField type (r.memberFor? type members name) result := by
  rw [Entries.get?_mapValues, memberFor?, decodesField_iff]
  exact exists_member_iff (fun json hjson => (h _ (Entries.mem_of_get? hjson)).json_eq)
    fun json hjson => (h _ (Entries.mem_of_get? hjson)).value

/-- The fields of an object are decoded to an instance when the relation says so. -/
theorem fields_eq_ok (hr : r.Checked) {typeName : String} {shape : Json} {members : Entries Json}
    {i : Instance} (h : ∀ member ∈ members, (r.reader run member.2).IsFaithful r member.2) :
    Decoding.fields r typeName shape (some (members.mapValues (r.reader run))) = .ok i ↔
      r.Decodes (.tagged typeName) 0 (.object members) (.ofInstance i) := by
  obtain ⟨tag, variant, fields⟩ := i
  have hjson : ∀ name, ((members.mapValues (r.reader run)).get? name).map (·.json) =
      members.get? name := by
    intro name
    rw [Entries.get?_mapValues]
    cases hget : members.get? name with
    | none => rfl
    | some json => exact congrArg some (h _ (Entries.mem_of_get? hget)).json_eq
  rw [fields_eq_ok_iff_member hr]
  constructor
  · intro hfields
    obtain ⟨d, declared, hd, hvariant, hdeclared, rfl, hsub, hfields⟩ := hfields
    exact .shape hd ((variant_eq_ok hjson).mp hvariant) hdeclared hsub fun field hfield =>
      (exists_member_iff_decodesField h).mp (hfields field hfield)
  · intro hdecodes
    cases hdecodes with
    | shape hd hvariant hdeclared hsub hfields =>
        exact ⟨_, _, hd, (variant_eq_ok hjson).mpr hvariant, hdeclared, rfl, hsub,
          fun field hfield => (exists_member_iff_decodesField h).mpr (hfields field hfield)⟩

/-- Decoding by the codec of a type is decoding its fields. -/
theorem byCodec_eq_ok {typeName : String} (hcodec : r.HasStandardCodec typeName) {shape : Json}
    {readers : Option (Entries ShapeReader)} {i : Instance} :
    byCodec r run typeName shape readers = .ok i ↔
      (∃ d, r.definition? typeName = some d) ∧
        Decoding.fields r typeName shape readers = .ok i := by
  rw [byCodec, bind_eq_ok, definition?]
  cases hentry : r.types.get? typeName with
  | none => simp [lookup, hentry]
  | some entry => simp [lookup, hentry, hcodec entry hentry, Codec.standard]

/-- What is no object is decoded as no instance. -/
theorem decoded_iff_of_not_object (hr : r.Resolved) {typeName : String} {json : Json} {i : Instance}
    (hmembers : ∀ members, json ≠ .object members) :
    byCodec r run typeName json none = .ok i ↔
      r.Decodes (.tagged typeName) 0 json (.ofInstance i) := by
  rw [byCodec_eq_ok (hr.hasStandardCodec typeName)]
  constructor
  · intro h
    obtain ⟨-, h⟩ := h
    cases h
  · intro h
    obtain ⟨tag, variant, fields⟩ := i
    cases h with
    | shape => exact absurd rfl (hmembers _)

/-- A string is accepted as a rule other than that of dates exactly if it is decoded as one. -/
theorem accepts_string_iff {rule : Rule} {depth : Nat} {s : String} {normal : Value}
    (hdate : ¬ (rule = .date ∧ depth = 0)) :
    r.Accepts rule depth (.string s) normal ↔ r.Decodes rule depth (.string s) normal := by
  constructor
  · intro h
    cases h with
    | any => exact .any (.string s)
    | string => exact .string s
    | pattern hp hmatch => exact .pattern hp hmatch
  · intro h
    cases h with
    | any => exact .any _
    | string => exact .string s
    | date => simp at hdate
    | pattern hp hmatch => exact .pattern hp hmatch

/-- What a string is read as where a date is expected is accepted exactly if the string is decoded
as a date. -/
theorem accepts_date_iff {s : String} {normal : Value} :
    r.Accepts .date 0 (((Instant.parse? s).map .date).getD (.string s)) normal ↔
      r.Decodes .date 0 (.string s) normal := by
  constructor
  · intro h
    cases hparse : Instant.parse? s with
    | none =>
        rw [hparse] at h
        cases h with
        | pattern hp => cases hp
    | some i =>
        rw [hparse] at h
        cases h
        exact .date hparse
  · intro h
    cases h with
    | date hparse =>
        rw [hparse]
        exact .date _
    | pattern hp => cases hp

/-- A string is decoded as it is where no date is expected. -/
theorem value_leaf_string {rule : Rule} {depth : Nat} {path : Path} {s : String}
    (hdate : ¬ (rule = .date ∧ depth = 0)) :
    (leaf r run (.string s)).value rule depth path = .ok (.string s) := by
  cases rule <;> cases depth <;> simp_all [leaf, Value.ofJson]

/-- The reader of a JSON value with nothing in it is faithful. -/
theorem leaf_isFaithful (hr : r.Resolved) {json : Json} (hitems : ∀ items, json ≠ .array items)
    (hmembers : ∀ members, json ≠ .object members) : (leaf r run json).IsFaithful r json where
  json_eq := rfl
  decoded := decoded_iff_of_not_object hr hmembers
  value := by
    intro rule depth path normal
    cases json with
    | array items => exact absurd rfl (hitems items)
    | object members => exact absurd rfl (hmembers members)
    | string s =>
        -- Strings are the only ones that a reader turns into something else.
        by_cases hdate : rule = .date ∧ depth = 0
        · obtain ⟨rfl, rfl⟩ := hdate
          exact (exists_ok_iff rfl).trans accepts_date_iff
        · exact (exists_ok_iff (value_leaf_string hdate)).trans (accepts_string_iff hdate)
    | _ =>
        refine (exists_ok_iff rfl).trans ⟨fun h => ?_, fun h => ?_⟩
        · cases h <;> constructor
        · cases h <;> constructor

/-- The reader of an array is faithful if those of its items are. -/
theorem array_isFaithful (hr : r.Resolved) {items : List Json} {readers : List ShapeReader}
    (h : List.Forall₂ (ShapeReader.IsFaithful r) items readers) :
    (array r run (.array items) readers).IsFaithful r (.array items) where
  json_eq := rfl
  decoded := decoded_iff_of_not_object hr (by simp)
  value := by
    intro rule depth path normal
    cases depth with
    | succ depth =>
        have hitems := h.imp fun _ _ hreader => @hreader.value rule depth
        rw [decodes_array_iff]
        refine exists_map_ok_iff.trans ?_
        simp only [accepts_array_iff]
        constructor
        · intro hread
          obtain ⟨values, hvalues, normals, rfl, hall⟩ := hread
          exact ⟨normals, rfl, (exists_items_iff hitems).mp ⟨values, hvalues, hall⟩⟩
        · intro hdecodes
          obtain ⟨normals, rfl, hall⟩ := hdecodes
          obtain ⟨values, hvalues, hall⟩ := (exists_items_iff hitems).mpr hall
          exact ⟨values, hvalues, normals, rfl, hall⟩
    | zero =>
        by_cases hkeyed : ∃ typeName idField, rule = .keyed typeName idField
        · obtain ⟨typeName, idField, rfl⟩ := hkeyed
          cases idField with
          | none =>
              -- Without an identity field nothing is accepted, whatever the items are filed under.
              refine exists_map_ok_iff.trans ⟨fun hread => ?_, fun hdecodes => by cases hdecodes⟩
              obtain ⟨members, -, haccepts⟩ := hread
              cases haccepts
          | some idField => exact exists_map_ok_iff.trans (exists_keyedItems_iff h)
        · have hplain : (array r run (.array items) readers).value rule 0 path =
              .ok (.ofJson (.array items)) := by
            cases rule <;> first | rfl | exact absurd ⟨_, _, rfl⟩ hkeyed
          refine (exists_ok_iff hplain).trans ⟨fun haccepts => ?_, fun hdecodes => ?_⟩
          · cases haccepts
            exact .any (.array items)
          · cases hdecodes with
            | any => exact .any _
            | keyedItems => exact absurd ⟨_, _, rfl⟩ hkeyed

/-- The reader of an object is faithful if those of its members are. -/
theorem object_isFaithful (hr : r.Resolved) {members : Entries Json}
    (h : ∀ member ∈ members, (r.reader run member.2).IsFaithful r member.2) :
    (object r run (.object members) (members.mapValues (r.reader run))).IsFaithful r
      (.object members) := by
  have hdecoded : ∀ {typeName i},
      byCodec r run typeName (.object members) (some (members.mapValues (r.reader run))) = .ok i ↔
        r.Decodes (.tagged typeName) 0 (.object members) (.ofInstance i) := by
    intro typeName i
    rw [byCodec_eq_ok (hr.hasStandardCodec typeName), fields_eq_ok hr.checked h,
      and_iff_right_iff_imp]
    intro hdecodes
    obtain ⟨tag, variant, fields⟩ := i
    cases hdecodes with
    | shape hd => exact ⟨_, hd⟩
  have hreaders : List.Forall₂ (fun json reader => json.1 = reader.1 ∧
      ShapeReader.IsFaithful r json.2 reader.2) members (members.mapValues (r.reader run)) :=
    forall₂_map_right fun member hmember => ⟨rfl, h member hmember⟩
  refine ⟨rfl, ?_, hdecoded⟩
  intro rule depth path normal
  cases depth with
  | succ depth =>
      have hplain : (object r run (.object members) (members.mapValues (r.reader run))).value rule
          (depth + 1) path = .ok (.ofJson (.object members)) := by
        cases rule <;> rfl
      refine (exists_ok_iff hplain).trans ⟨fun haccepts => ?_, fun hdecodes => ?_⟩
      · cases haccepts
      · cases hdecodes
  | zero =>
      cases rule with
      | tagged typeName =>
          refine exists_map_ok_iff.trans ?_
          simp only [mapError_eq_ok, hdecoded]
          constructor
          · intro hread
            obtain ⟨i, hi, haccepts⟩ := hread
            exact eq_of_accepts_instance haccepts ▸ hi
          · intro hdecodes
            obtain ⟨⟨i, rfl⟩, haccepts⟩ := hdecodes.accepts_self
            exact ⟨i, hdecodes, haccepts⟩
      | keyed typeName idField =>
          cases idField with
          | none =>
              refine exists_map_ok_iff.trans ⟨fun hread => ?_, fun hdecodes => by cases hdecodes⟩
              obtain ⟨members, -, haccepts⟩ := hread
              cases haccepts
          | some idField => exact exists_map_ok_iff.trans (exists_keyedMembers_iff hreaders)
      | _ =>
          refine (exists_ok_iff rfl).trans ⟨fun haccepts => ?_, fun hdecodes => ?_⟩
          · cases haccepts
            all_goals first | exact .any (.object members) | exact .object members
          · cases hdecodes
            all_goals constructor

end Decoding

namespace Registry

theorem itemReaders_eq_map (r : Registry) (run : HookRunner) (items : List Json) :
    r.itemReaders run items = items.map (r.reader run) := by
  induction items with
  | nil => rfl
  | cons item items ih => rw [itemReaders, ih, List.map_cons]

theorem memberReaders_eq_mapValues (r : Registry) (run : HookRunner) (members : Entries Json) :
    r.memberReaders run members = members.mapValues (r.reader run) := by
  induction members with
  | nil => rfl
  | cons member members ih =>
      rw [memberReaders, ih]
      rfl

variable {r : Registry}

/-- A reader keeps the JSON value that it reads. -/
theorem json_reader (run : HookRunner) (json : Json) : (r.reader run json).json = json := by
  cases json <;> rfl

/-- The readers of members keep the members. -/
theorem get?_memberReaders (run : HookRunner) (members : Entries Json) (name : String) :
    ((r.memberReaders run members).get? name).map (·.json) = members.get? name := by
  rw [memberReaders_eq_mapValues, Entries.get?_mapValues, Option.map_map]
  have hjson : (fun reader : ShapeReader ↦ reader.json) ∘ r.reader run = id :=
    funext (json_reader run)
  rw [hjson, Option.map_id, id]

/-- An object is decoded by the standard codec to an instance of the variant that it names, whose
fields are the normal forms of what is decoded for them. -/
theorem decode_object_eq_ok (hr : r.Checked) {typeName : String}
    (hcodec : r.HasStandardCodec typeName) {members : Entries Json} {i : Instance} :
    r.decode typeName (.object members) = .ok i ↔
      ∃ d declared, r.definition? typeName = some d ∧
        Decoding.variant r d (r.memberReaders r.hookRunner members) =
          .ok i.variant ∧
        d.fieldsOf? i.variant = some declared ∧ i.tag = r.tag typeName ∧
        i.fields.names.Sublist declared.names ∧ ∀ field ∈ declared, ∃ decoded,
          Decoding.member r d i.variant field.1 field.2
              ((r.memberReaders r.hookRunner members).get? field.1) = .ok decoded ∧
            r.AcceptsField field.2 decoded (i.fields.get? field.1) := by
  refine (Decoding.byCodec_eq_ok hcodec).trans ?_
  rw [Decoding.fields_eq_ok_iff_member hr, and_iff_right_iff_imp]
  intro h
  obtain ⟨d, -, hd, -⟩ := h
  exact ⟨d, hd⟩

/-- Every reader is faithful. -/
theorem reader_isFaithful (hr : r.Resolved) (run : HookRunner) (json : Json) :
    (r.reader run json).IsFaithful r json := by
  induction json using Json.induction with
  | array items ih =>
      rw [reader, itemReaders_eq_map]
      exact Decoding.array_isFaithful hr (forall₂_map_right ih)
  | object members ih =>
      rw [reader, memberReaders_eq_mapValues]
      exact Decoding.object_isFaithful hr ih
  | _ => exact Decoding.leaf_isFaithful hr (by simp) (by simp)

/-- Decoding gives exactly the instances that the relation gives. -/
theorem decode_eq_ok (hr : r.Resolved) {typeName : String} {json : Json} {i : Instance} :
    r.decode typeName json = .ok i ↔ r.Decodes (.tagged typeName) 0 json (.ofInstance i) :=
  (reader_isFaithful hr _ json).decoded

end Registry

end RecordSchema
