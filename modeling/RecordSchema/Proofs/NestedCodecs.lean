import RecordSchema.Proofs.Encoded
import RecordSchema.Proofs.ReadsAs

/-!
# Nested types with codecs of their own

A record with the standard codec is decoded from what it is encoded as, but for the sign of zero, if
this holds of the instances in its fields, whose types may have codecs of their own, and all of them
that do not stand in keyed collections are written as objects; anything else is not read as an
instance there (`decode_encode_iff_writesObjects`).
-/

namespace RecordSchema

open Outcome

/-- The value is this instance, or an array or a keyed collection in which it stands at any
depth. -/
inductive Value.Holds (i : Instance) : Value → Prop where
  | here : Holds i (.ofInstance i)
  | item {items item} : item ∈ items → Holds i item → Holds i (.array items)
  | member {members key member} : (key, member) ∈ members → Holds i member →
      Holds i (.object members)

/-- An instance by itself is the only one that stands there. -/
theorem Value.Holds.eq {i j : Instance} (h : Value.Holds j (.ofInstance i)) : j = i := by
  generalize hvalue : Value.ofInstance i = value at h
  cases h with
  | here => exact (Value.ofInstance_inj.mp hvalue).symm
  | item => cases hvalue
  | member => cases hvalue

/-- The value is a string, a truth value or a finite number. -/
def Value.IsScalar : Value → Prop
  | .string _ | .bool _ => True
  | .number x => x.isFinite
  | _ => False

namespace Registry

variable {r : Registry} {registries : List Registry} {rule : Rule} {depth : Nat} {json : Json}
  {value normal : Value} {typeName idField owner field : String}

/-! ## Restoring values -/

/-- The JSON value is read as the value, but for the sign of zero. -/
def IsRestored (r : Registry) (rule : Rule) (depth : Nat) (json : Json) (value : Value) : Prop :=
  ∃ normal, r.ReadsAs rule depth json normal ∧ normal.unsigned = value.unsigned

/-- Every instance that stands in the value can be encoded, and is decoded as one of the type from
what it is encoded as, but for the sign of zero. -/
def Restores (r : Registry) (typeName : String) (value : Value) : Prop :=
  ∀ i, Value.Holds i value → ∃ json result,
    r.encode i = .ok json ∧ r.decode typeName json = .ok result ∧ result.unsigned = i.unsigned

/-- Where a type is expected, the instance or those in an array are written as objects. -/
def WritesObjects (r : Registry) (rule : Rule) (value : Value) : Prop :=
  ∀ typeName, rule = .tagged typeName → ∀ i, Value.Holds i value →
    ∃ members, r.encode i = .ok (.object members)

/-- An array is written in objects if its items are. -/
theorem writesObjects_array_iff {items : List Value} :
    r.WritesObjects rule (.array items) ↔ ∀ item ∈ items, r.WritesObjects rule item := by
  constructor
  · intro h item hitem typeName hrule i hi
    exact h typeName hrule i (.item hitem hi)
  · intro h typeName hrule i hi
    generalize hvalue : Value.array items = value at hi
    cases hi with
    | item hitem hi =>
        cases hvalue
        exact h _ hitem typeName hrule i hi
    | _ => cases hvalue

/-- An array is restored if its items are. -/
theorem isRestored_array_iff {P : Value → Prop} {items : List Value} {jsons : List Json}
    (h : List.Forall₂ (fun item json => r.IsRestored rule depth json item ↔ P item) items jsons) :
    r.IsRestored rule (depth + 1) (.array jsons) (.array items) ↔ ∀ item ∈ items, P item := by
  have harray : r.IsRestored rule (depth + 1) (.array jsons) (.array items) ↔
      ∃ normals, List.Forall₂ (r.ReadsAs rule depth) jsons normals ∧
        normals.map Value.unsigned = items.map Value.unsigned := by
    constructor
    · intro h
      obtain ⟨normal, hread, heq⟩ := h
      obtain ⟨normals, rfl, hall⟩ := readsAs_array_iff.mp hread
      rw [Value.unsigned, Value.mapAtoms_array, Value.mapAtoms_array, Value.array.injEq] at heq
      exact ⟨normals, hall, heq⟩
    · intro h
      obtain ⟨normals, hall, heq⟩ := h
      refine ⟨.array normals, readsAs_array_iff.mpr ⟨normals, rfl, hall⟩, ?_⟩
      rw [Value.unsigned, Value.mapAtoms_array, Value.mapAtoms_array]
      exact congrArg Value.array heq
  rw [harray]
  clear harray
  induction h with
  | nil => simp
  | @cons item json items jsons hitem _ ih =>
      rw [List.forall_mem_cons]
      refine Iff.trans ?_ (and_congr hitem ih)
      constructor
      · intro h
        obtain ⟨normals, hall, heq⟩ := h
        cases hall with
        | cons hfirst hothers =>
            obtain ⟨hhead, htail⟩ := List.cons.inj heq
            exact ⟨⟨_, hfirst, hhead⟩, _, hothers, htail⟩
      · intro h
        obtain ⟨⟨normal, hfirst, hhead⟩, normals, hothers, htail⟩ := h
        exact ⟨normal :: normals, .cons hfirst hothers, List.cons_eq_cons.mpr ⟨hhead, htail⟩⟩

/-- A valid instance that its type restores is restored where the type is expected exactly if it is
written as an object. -/
theorem exists_encodeValue_tagged (htype : r.Restores typeName value)
    (hmeets : r.Meets (.tagged typeName) 0 value) :
    ∃ json, r.encodeValue owner value (.typed field (.tagged typeName) 0) = .ok json ∧
      (r.IsRestored (.tagged typeName) 0 json value ↔ r.WritesObjects (.tagged typeName) value) ∧
      (r.WritesObjects (.tagged typeName) value → json ≠ .null) := by
  obtain ⟨i, rfl, hi⟩ := hmeets.isInstance
  obtain ⟨json, result, hjson, hresult, hunsigned⟩ := htype i .here
  have htag : result.tag = r.tag typeName :=
    (congrArg Instance.tag hunsigned).trans hi.tag_eq
  have hwrites : r.WritesObjects (.tagged typeName) (.ofInstance i) ↔
      ∃ members, json = .object members := by
    constructor
    · intro h
      obtain ⟨members, hmembers⟩ := h typeName rfl i .here
      exact ⟨members, Except.ok.inj (hjson.symm.trans hmembers)⟩
    · intro h _ _ j hj
      obtain ⟨members, rfl⟩ := h
      exact ⟨members, hj.eq ▸ hjson⟩
  refine ⟨json, encodeValue_ofInstance_eq_ok.mpr ⟨rfl, hjson⟩, ?_, fun h => ?_⟩
  · rw [hwrites]
    constructor
    · intro h
      obtain ⟨normal, hread, -⟩ := h
      exact (readsAs_tagged_iff.mp hread).1
    · intro h
      refine ⟨.ofInstance result, readsAs_tagged_iff.mpr ⟨h, result, hresult, htag, rfl⟩, ?_⟩
      rw [← Instance.ofInstance_unsigned, hunsigned, Instance.ofInstance_unsigned]
  · obtain ⟨members, rfl⟩ := hwrites.mp h
    exact fun heq => by cases heq

/-- A valid keyed collection of instances that their type restores is restored, whatever they are
written as. -/
theorem exists_encodeValue_keyed (htype : r.Restores typeName value) {key : Option String}
    (hmeets : r.Meets (.keyed typeName key) 0 value) (hsound : value.Sound registries) :
    ∃ json, r.encodeValue owner value (.typed field (.keyed typeName key) 0) = .ok json ∧
      r.IsRestored (.keyed typeName key) 0 json value ∧ json ≠ .null := by
  cases hmeets with
  | pattern hp => cases hp
  | @keyed _ idField members hmembers hkeys =>
      have hnodup := (Value.everywhere_object.mp hsound).1
      -- Each member is restored with the key that it had.
      have hsteps : ∀ member ∈ members, ∃ step : (String × Json) × String × Value,
          (member.1 = step.1.1 ∧
            r.encodeValue owner member.2 .plain = .ok step.1.2) ∧
          (∃ result, r.decode typeName step.1.2 = .ok result ∧ result.tag = r.tag typeName ∧
            step.2.2 = .ofInstance result ∧ result.keyText? idField = some step.2.1) ∧
          (member.1 = step.2.1 ∧ step.2.2.unsigned = member.2.unsigned) := by
        rintro ⟨key, value⟩ hmember
        obtain ⟨i, rfl, hi⟩ := (hmembers _ hmember).isInstance
        obtain ⟨json, result, hjson, hresult, hunsigned⟩ := htype i (.member hmember .here)
        have hkey : result.keyText? idField = some key :=
          (Instance.keyText?_eq_of_unsigned_eq hunsigned idField).trans (hkeys _ hmember)
        refine ⟨⟨(key, json), key, .ofInstance result⟩,
          ⟨rfl, encodeValue_ofInstance_eq_ok.mpr ⟨rfl, hjson⟩⟩,
          ⟨result, hresult, (congrArg Instance.tag hunsigned).trans hi.tag_eq, rfl, hkey⟩, rfl, ?_⟩
        rw [← Instance.ofInstance_unsigned, hunsigned, Instance.ofInstance_unsigned]
      obtain ⟨steps, hall⟩ := exists_forall₂ hsteps
      have hjsons : r.encodeMembers owner members .plain = .ok (steps.map (·.1)) :=
        encodeMembers_eq_ok.mpr (List.forall₂_map_right_iff.mpr (hall.imp fun _ _ h => h.1))
      have hread : r.ReadsAs (.keyed typeName (some idField)) 0
          (.array (Entries.values (steps.map (·.1)))) (.object (steps.map (·.2))) := by
        have hnames : members.names = Entries.names (steps.map (·.2)) := by
          rw [Entries.names, Entries.names, List.map_map]
          exact map_eq_map_of_forall₂ (hall.imp fun _ _ h => h.2.2.1)
        refine readsAs_keyed (hnames ▸ hnodup) ?_
        rw [Entries.values, List.map_map]
        refine List.forall₂_map_left_iff.mpr (List.forall₂_map_right_iff.mpr
          (List.forall₂_same.mpr fun step hstep => ?_))
        obtain ⟨_, -, h⟩ := exists_of_mem_right hall hstep
        exact h.2.1
      refine ⟨_, ?_, ⟨_, hread, ?_⟩, Json.noConfusion⟩
      · have hkeyed : (EncodingMode.typed field (.keyed typeName (some idField)) 0).isKeyed := rfl
        rw [encodeValue, if_pos hkeyed]
        exact map_eq_ok.mpr ⟨_, hjsons, rfl⟩
      · rw [Value.unsigned, Value.mapAtoms_object, Value.mapAtoms_object, Entries.mapValues,
          List.map_map]
        exact congrArg _ (map_eq_map_of_forall₂ (hall.imp fun _ _ h =>
          Prod.ext h.2.2.1 h.2.2.2.symm)).symm

/-- Where a rule points at a type that restores the instances in a valid value, the value is
restored exactly if it is written in objects. -/
theorem exists_encodeValue_reference (hrule : rule.typeName? = some typeName)
    (htype : r.Restores typeName value) (hmeets : r.Meets rule depth value)
    (hsound : value.Sound registries) :
    ∃ json, r.encodeValue owner value (.typed field rule depth) = .ok json ∧
      (r.IsRestored rule depth json value ↔ r.WritesObjects rule value) ∧
      (r.WritesObjects rule value → json ≠ .null) := by
  induction depth generalizing value with
  | zero =>
      cases rule <;> cases hrule
      · exact exists_encodeValue_tagged htype hmeets
      · obtain ⟨json, hjson, hrestored, hnull⟩ := exists_encodeValue_keyed htype hmeets hsound
        exact ⟨json, hjson, ⟨fun _ _ heq => (nomatch heq), fun _ => hrestored⟩, fun _ => hnull⟩
  | succ depth ih =>
      cases hmeets with
      | @array _ _ items hitems =>
          have hparts := (Value.everywhere_array.mp hsound).2
          have htypes : ∀ item ∈ items, r.Restores typeName item :=
            fun item hitem i hi => htype i (.item hitem hi)
          obtain ⟨jsons, hall⟩ := exists_forall₂ fun item hitem =>
            ih (htypes item hitem) (hitems item hitem) (hparts item hitem)
          refine ⟨.array jsons, ?_, ?_, fun _ => Json.noConfusion⟩
          · rw [encodeValue]
            exact map_eq_ok.mpr ⟨jsons, encodeItems_eq_ok.mpr (hall.imp fun _ _ h => h.1), rfl⟩
          · rw [writesObjects_array_iff]
            exact isRestored_array_iff (hall.imp fun _ _ h => h.2.1)

/-- A scalar that meets its rule is restored. -/
theorem exists_encodeValue_scalar (hscalar : value.IsScalar) (hmeets : r.Meets rule depth value) :
    ∃ json, r.encodeValue owner value (.typed field rule depth) = .ok json ∧
      r.IsRestored rule depth json value ∧ json ≠ .null := by
  cases value with
  | bool b =>
      exact ⟨.bool b, rfl, ⟨.bool b, ⟨.bool b, rfl, hmeets.accepts⟩, rfl⟩, Json.noConfusion⟩
  | string s =>
      have hdate : ¬ (rule = .date ∧ depth = 0) := by
        rintro ⟨rfl, rfl⟩
        cases hmeets with
        | pattern hp => cases hp
      have hread : r.ReadsAs rule depth (.string s) (.string s) :=
        ⟨.string s, Decoding.value_leaf_string hdate, hmeets.accepts⟩
      exact ⟨.string s, rfl, ⟨.string s, hread, rfl⟩, Json.noConfusion⟩
  | number x =>
      obtain ⟨n, hn, hx⟩ := Encoding.exists_number_of_isFinite owner hscalar
      have haccepts : r.Accepts rule depth (.number x.unsigned) (.number x.unsigned) := by
        cases hmeets <;> constructor
      have hread : r.ReadsAs rule depth (.number n) (.number x.unsigned) :=
        ⟨.number x.unsigned, congrArg (Except.ok ∘ Value.number) hx, haccepts⟩
      refine ⟨.number n, hn, ⟨_, hread, ?_⟩, Json.noConfusion⟩
      exact congrArg Value.number x.unsigned_unsigned
  | _ => cases hscalar

/-- A valid value of a field is restored exactly if it is written in objects, if the type that the
rule points at restores the instances in it or the value is a scalar. -/
theorem exists_encodeValue_field
    (htype : ∀ target, rule.typeName? = some target → r.Restores target value)
    (hscalar : rule.typeName? = none → value.IsScalar) (hmeets : r.Meets rule depth value)
    (hsound : value.Sound registries) :
    ∃ json, r.encodeValue owner value (.typed field rule depth) = .ok json ∧
      (r.IsRestored rule depth json value ↔ r.WritesObjects rule value) ∧
      (r.WritesObjects rule value → json ≠ .null) := by
  cases hrule : rule.typeName? with
  | some target => exact exists_encodeValue_reference hrule (htype target hrule) hmeets hsound
  | none =>
      obtain ⟨json, hjson, hrestored, hnull⟩ := exists_encodeValue_scalar (hscalar hrule) hmeets
      refine ⟨json, hjson, ⟨fun _ target htarget => ?_, fun _ => hrestored⟩, fun _ => hnull⟩
      cases hrule.symm.trans (congrArg Rule.typeName? htarget)

/-! ## Restoring records -/

variable {d : TypeDefinition} {declared : Fields}

/-- A field is read as what it was, but for the sign of zero, exactly if its value is written in
objects, if that decides whether the value is restored. -/
theorem exists_readsFieldAs_iff {type : FieldType} {value : Option Value} {json : Option Json}
    (hrel : Option.Rel (fun value json =>
      r.encodeValue owner value (.typed field type.rule type.depth) = .ok json) value json)
    (hoptional : value = none → type.isOptional)
    (h : ∀ present, value = some present → ∃ json,
      r.encodeValue owner present (.typed field type.rule type.depth) = .ok json ∧
        (r.IsRestored type.rule type.depth json present ↔ r.WritesObjects type.rule present) ∧
        (r.WritesObjects type.rule present → json ≠ .null)) :
    (∃ result, r.ReadsFieldAs type json result ∧
      result.map Value.unsigned = value.map Value.unsigned) ↔
      ∀ present, value = some present → r.WritesObjects type.rule present := by
  cases hrel with
  | none =>
      refine ⟨fun _ present hpresent => (nomatch hpresent), fun _ => ?_⟩
      exact ⟨none, .inl ⟨rfl, rfl, hoptional rfl⟩, rfl⟩
  | @some present json hjson =>
      obtain ⟨_, hjson', hrestored, hnull⟩ := h present rfl
      cases hjson.symm.trans hjson'
      have hfilter : json ≠ .null → (some json).filter (!r.readsAsAbsent type ·) = some json := by
        intro hne
        refine Option.filter_eq_some_iff.mpr ⟨rfl, ?_⟩
        cases json with
        | null => exact absurd rfl hne
        | _ => rfl
      constructor
      · intro hread _ hpresent
        cases hpresent
        obtain ⟨result, hread | hread, hunsigned⟩ := hread
        · rw [hread.2.1] at hunsigned
          cases hunsigned
        · obtain ⟨member, normal, hmember, rfl, hnormal⟩ := hread
          cases (Option.filter_eq_some_iff.mp hmember).1
          exact hrestored.mp ⟨normal, hnormal, Option.some.inj hunsigned⟩
      · intro hwrites
        have hpresent := hwrites present rfl
        obtain ⟨normal, hnormal, hunsigned⟩ := hrestored.mpr hpresent
        exact ⟨some normal, .inr ⟨json, normal, hfilter (hnull hpresent), rfl, hnormal⟩,
          congrArg some hunsigned⟩

/-- A record with the standard codec whose fields hold scalars, or instances that their types
restore, can be encoded. It is decoded again, but for the sign of zero, exactly if every instance in
its fields that does not stand in a keyed collection is written as an object. -/
theorem decode_encode_iff_writesObjects (hr : r.IsBuiltWithCodecs)
    (hcodec : r.HasStandardCodec typeName) (hd : r.definition? typeName = some d)
    (hdeclared : d.fieldsOf? none = some declared)
    {i : Instance} (hi : r.IsInstance typeName i) (hsound : (Value.ofInstance i).Sound registries)
    (htypes : ∀ field ∈ declared, ∀ target, field.2.rule.typeName? = some target →
      ∀ value, i.fields.get? field.1 = some value → r.Restores target value)
    (hscalars : ∀ field ∈ declared, field.2.rule.typeName? = none →
      ∀ value, i.fields.get? field.1 = some value → value.IsScalar) :
    ∃ json, r.encode i = .ok json ∧
      ((∃ result, r.decode typeName json = .ok result ∧ result.unsigned = i.unsigned) ↔
        ∀ field ∈ declared, ∀ value, i.fields.get? field.1 = some value →
          r.WritesObjects field.2.rule value) := by
  obtain ⟨tag, variant, fields⟩ := i
  cases hi with
  | @tagged _ d' _ declared' _ hd' hdeclared' hsub hoptional hmeets =>
      cases hd.symm.trans hd'
      obtain rfl : variant = none := by
        obtain ⟨name, _ | variants, idField⟩ := d
        · cases variant with
          | none => rfl
          | some name => cases hdeclared'
        · cases hdeclared
      cases hdeclared.symm.trans hdeclared'
      have hdistinct := (hr.checked.names hd).distinct hdeclared
      have hparts := (Value.everywhere_tagged.mp hsound).2
      have hvalues : ∀ field ∈ declared, ∀ value, fields.get? field.1 = some value → ∃ json,
          r.encodeValue typeName value (.typed field.1 field.2.rule field.2.depth) = .ok json ∧
            (r.IsRestored field.2.rule field.2.depth json value ↔
              r.WritesObjects field.2.rule value) ∧
            (r.WritesObjects field.2.rule value → json ≠ .null) :=
        fun field hfield value hvalue => exists_encodeValue_field
          (fun target htarget => htypes field hfield target htarget value hvalue)
          (fun hrule => hscalars field hfield hrule value hvalue) (hmeets field hfield value hvalue)
          (hparts _ (Entries.mem_of_get? hvalue))
      obtain ⟨json, hjson⟩ := exists_encode hr.checked hcodec hd hdeclared
        fun field hfield value hvalue => (hvalues field hfield value hvalue).imp fun _ h => h.1
      obtain ⟨present, hpresent, hrel, rfl⟩ :=
        (encode_eq_ok hr.checked hcodec hd hdeclared).mp hjson
      refine ⟨_, hjson, ?_⟩
      have hmember : ∀ name, Entries.get? name
          ((Encoding.variantMembers r none).putAll present) = present.get? name := fun name => by
        rw [Entries.get?_putAll (hpresent.nodup hdistinct)]
        exact Option.or_none
      have hfields : ∀ field ∈ declared, (∃ result,
          r.ReadsFieldAs field.2 (present.get? field.1) result ∧
            result.map Value.unsigned = (fields.get? field.1).map Value.unsigned) ↔
          ∀ value, fields.get? field.1 = some value → r.WritesObjects field.2.rule value :=
        fun field hfield => exists_readsFieldAs_iff (hrel field hfield) (hoptional field hfield)
          (hvalues field hfield)
      constructor
      · intro h field hfield
        obtain ⟨result, hresult, hunsigned⟩ := h
        obtain ⟨-, -, -, hread⟩ := (decode_record_eq_ok hr.checked hcodec hd hdeclared).mp hresult
        refine (hfields field hfield).mp ⟨_, hmember field.1 ▸ hread field hfield, ?_⟩
        rw [← Entries.get?_mapValues, ← Entries.get?_mapValues]
        exact congrArg (Entries.get? field.1 ∘ Instance.fields) hunsigned
      · intro h
        obtain ⟨results, hresults, hread⟩ := Entries.exists_present hdistinct
          fun field hfield => (hfields field hfield).mpr (h field hfield)
        refine ⟨⟨r.tag typeName, none, results⟩, (decode_record_eq_ok hr.checked hcodec hd
          hdeclared).mpr ⟨rfl, rfl, hresults, fun field hfield => ?_⟩, ?_⟩
        · rw [hmember]
          exact (hread field hfield).1
        · refine congrArg (Instance.mk _ _) (Entries.eq_of_get?_eq hdistinct ?_ ?_ ?_)
          · rwa [Entries.names_mapValues]
          · rwa [Entries.names_mapValues]
          · intro name hname
            obtain ⟨field, hfield, rfl⟩ := List.mem_map.mp hname
            rw [Entries.get?_mapValues, Entries.get?_mapValues]
            exact (hread field hfield).2

end Registry

/-!
A label is a text, and a task has a label. The codec of labels writes the text in some way; the
task is decoded again if this makes an object of it.
-/

namespace Labels

/-- The fields of a label. -/
def labelFields : Fields :=
  [("text", .ofRule .string)]

/-- The fields of a task. -/
def taskFields : Fields :=
  [("label", .ofRule (.tagged "Label")), ("title", .ofRule .string)]

/-- The codec of labels that writes their text in this way, and reads it in that way. -/
def codec (write read : Json → Json) : Codec where
  encode? := some fun _ standard ↦
    standard.map fun json ↦ write ((json.member? "text").getD .null)
  decode? := some fun services typeName json ↦
    services.fields typeName (.object [("text", read json)])

/-- The declaration of labels with this codec and of tasks. -/
def declarations (codec : Codec) : Declarations :=
  { Declarations.empty .standard with
    definitions := [⟨"Label", .record labelFields, none⟩, ⟨"Task", .record taskFields, none⟩]
    codecs := [("Label", codec)] }

/-- The registry of labels with this codec and of tasks. -/
def registry (codec : Codec) : Registry where
  number := 0
  types := [
    ("Label", ⟨⟨"Label", .record labelFields, none⟩, codec⟩),
    ("Task", ⟨⟨"Task", .record taskFields, none⟩, .standard⟩)]
  patterns := []
  config := .standard

variable {c : Codec}

theorem isDeclared_of_mem_definitions : ∀ d ∈ (declarations c).definitions, d.IsDeclared := by
  intro d hd
  simp only [declarations, List.mem_cons, List.not_mem_nil, or_false] at hd
  rcases hd with rfl | rfl
  · exact @TypeDefinition.IsDeclared.record "Label" labelFields _ (by decide) rfl
  · exact @TypeDefinition.IsDeclared.record "Task" taskFields _ (by decide) rfl

theorem isBuiltWithCodecs_registry : (registry c).IsBuiltWithCodecs :=
  ⟨declarations c, isDeclared_of_mem_definitions, rfl⟩

theorem hasStandardCodec_task : (registry c).HasStandardCodec "Task" := by
  intro entry hentry
  cases hentry
  rfl

/-- The label of this text. -/
def label (text : String) : Instance :=
  ⟨⟨0, "Label"⟩, none, [("text", .string text)]⟩

/-- Every valid label has a text. -/
theorem exists_label {i : Instance} (h : (registry c).IsInstance "Label" i) :
    ∃ text, i = label text := by
  obtain ⟨tag, variant, fields⟩ := i
  cases h with
  | @tagged _ _ _ _ _ hd hdeclared hsub hrequired hmeets =>
      cases hd
      cases variant with
      | some variant => cases hdeclared
      | none =>
          cases hdeclared
          rcases Entries.sublist_cons_cases List.not_mem_nil hsub with
            ⟨hnone, -⟩ | ⟨value, rest, rfl, hrest⟩
          · exact absurd (hrequired _ List.mem_cons_self hnone) nofun
          · have hvalue := hmeets _ List.mem_cons_self value (if_pos rfl)
            rw [List.sublist_nil, Entries.names, List.map_eq_nil_iff] at hrest
            cases hvalue with
            | string text => exact ⟨text, hrest ▸ rfl⟩
            | pattern hp => cases hp

/-- A label is decoded from what it was encoded as, if its text is read as it was written. -/
theorem decode_encode_label {write read : Json → Json} (h : ∀ json, read (write json) = json)
    {i : Instance} (hi : (registry (codec write read)).IsInstance "Label" i) :
    ∃ json, (registry (codec write read)).encode i = .ok json ∧
      (registry (codec write read)).decode "Label" json = .ok i := by
  obtain ⟨text, rfl⟩ := exists_label hi
  have hdecode : ∀ json, (registry (codec write read)).decode "Label" json =
      (registry (codec write read)).decodeFieldsBy
        ((registry (codec write read)).runHook 999) "Label"
        (.object [("text", read json)]) := by
    intro json
    cases json <;> rfl
  refine ⟨write (.string text), rfl, ?_⟩
  rw [hdecode, h]
  rfl

/-- A task with a label. -/
def task : Instance :=
  ⟨⟨0, "Task"⟩, none, [("label", .ofInstance (label "a")), ("title", .string "b")]⟩

theorem isInstance_label : (registry c).IsInstance "Label" (label "a") := by
  refine .tagged rfl rfl (List.Sublist.refl _) (fun field hfield hnone => ?_)
    fun field hfield value hvalue => ?_
  · cases List.mem_singleton.mp hfield
    cases hnone
  · cases List.mem_singleton.mp hfield
    cases hvalue
    exact .string _

theorem isInstance_task : (registry c).IsInstance "Task" task := by
  have hrequired : ∀ field ∈ taskFields, task.fields.get? field.1 = none → field.2.isOptional := by
    intro field hfield hnone
    simp only [taskFields, List.mem_cons, List.not_mem_nil, or_false] at hfield
    rcases hfield with rfl | rfl <;> cases hnone
  refine .tagged rfl rfl (List.Sublist.refl _) hrequired fun field hfield value hvalue => ?_
  simp only [taskFields, List.mem_cons, List.not_mem_nil, or_false] at hfield
  rcases hfield with rfl | rfl <;> cases hvalue
  · exact isInstance_label
  · exact .string _

theorem sound_task : (Value.ofInstance task).Sound [registry c] := by
  refine Value.everywhere_tagged.mpr ⟨⟨_, List.mem_cons_self, "Task", isInstance_task⟩, ?_⟩
  intro field hfield
  simp only [task, List.mem_cons, List.not_mem_nil, or_false] at hfield
  rcases hfield with rfl | rfl
  · refine Value.everywhere_tagged.mpr ⟨⟨_, List.mem_cons_self, "Label", isInstance_label⟩, ?_⟩
    intro field hfield
    cases List.mem_singleton.mp hfield
    exact .of_leaf trivial trivial
  · exact .of_leaf trivial trivial

theorem isScalar_title : ∀ field ∈ taskFields, field.2.rule.typeName? = none →
    ∀ value, task.fields.get? field.1 = some value → value.IsScalar := by
  intro field hfield hrule value hvalue
  simp only [taskFields, List.mem_cons, List.not_mem_nil, or_false] at hfield
  rcases hfield with rfl | rfl
  · cases hrule
  · cases hvalue
    trivial

/-- The text of a label is written as the member of an object. -/
def wrapped : Codec :=
  codec (fun json ↦ .object [("value", json)]) fun json ↦ (json.member? "value").getD .null

/-- The text of a label is written as it is. -/
def bare : Codec :=
  codec id id

/-- A task is decoded again if its label is written as an object. -/
theorem decode_wrapped_task :
    (registry wrapped).IsBuiltWithCodecs ∧ (registry wrapped).HasStandardCodec "Task" ∧
      (registry wrapped).IsInstance "Task" task ∧
      (Value.ofInstance task).Sound [registry wrapped] ∧
      (∀ field ∈ taskFields, ∀ target, field.2.rule.typeName? = some target →
        ∀ value, task.fields.get? field.1 = some value →
          (registry wrapped).Restores target value) ∧
      ∃ json, (registry wrapped).encode task = .ok json ∧
        ∃ result, (registry wrapped).decode "Task" json = .ok result ∧
          result.unsigned = task.unsigned := by
  have htypes : ∀ field ∈ taskFields, ∀ target, field.2.rule.typeName? = some target →
      ∀ value, task.fields.get? field.1 = some value →
        (registry wrapped).Restores target value := by
    intro field hfield target htarget value hvalue i hi
    simp only [taskFields, List.mem_cons, List.not_mem_nil, or_false] at hfield
    rcases hfield with rfl | rfl <;> cases htarget
    cases hvalue
    obtain rfl := hi.eq
    have hlabel : (registry wrapped).IsInstance "Label" (label "a") := isInstance_label
    obtain ⟨json, hjson, hresult⟩ := decode_encode_label (fun _ => rfl) hlabel
    exact ⟨json, _, hjson, hresult, rfl⟩
  have hsound : (Value.ofInstance task).Sound [registry wrapped] := sound_task
  obtain ⟨json, hjson, hiff⟩ := Registry.decode_encode_iff_writesObjects
    isBuiltWithCodecs_registry hasStandardCodec_task rfl rfl isInstance_task hsound htypes
    isScalar_title
  refine ⟨isBuiltWithCodecs_registry, hasStandardCodec_task, isInstance_task, hsound, htypes,
    json, hjson, hiff.mpr fun field hfield value hvalue typeName hrule i hi => ?_⟩
  simp only [taskFields, List.mem_cons, List.not_mem_nil, or_false] at hfield
  rcases hfield with rfl | rfl
  · cases hvalue
    obtain rfl := hi.eq
    exact ⟨_, rfl⟩
  · cases hrule

/-- A record with the standard codec is not always decoded from what it was encoded as, even where
the codecs of the types in its fields restore their instances: a label that is written as a text is
not read where a label is expected. -/
theorem not_forall_decode_encode_record :
    ¬ ∀ (r : Registry) (typeName : String) (d : TypeDefinition) (declared : Fields) (i : Instance)
        (json : Json), r.IsBuiltWithCodecs → r.HasStandardCodec typeName →
      r.definition? typeName = some d → d.fieldsOf? none = some declared →
      (∀ field ∈ declared, ∀ target, field.2.rule.typeName? = some target →
        ∀ j, r.IsInstance target j → ∃ json, r.encode j = .ok json ∧
          r.decode target json = .ok j) →
      (∀ field ∈ declared, field.2.rule.typeName? = none →
        ∀ value, i.fields.get? field.1 = some value → value.IsScalar) →
      r.IsInstance typeName i → (Value.ofInstance i).Sound [r] → r.encode i = .ok json →
      ∃ result, r.decode typeName json = .ok result := by
  intro h
  have htypes : ∀ field ∈ taskFields, ∀ target, field.2.rule.typeName? = some target →
      ∀ j, (registry bare).IsInstance target j → ∃ json, (registry bare).encode j = .ok json ∧
        (registry bare).decode target json = .ok j := by
    intro field hfield target htarget j hj
    simp only [taskFields, List.mem_cons, List.not_mem_nil, or_false] at hfield
    rcases hfield with rfl | rfl <;> cases htarget
    exact decode_encode_label (fun _ => rfl) hj
  obtain ⟨result, hresult⟩ := h (registry bare) "Task" _ taskFields task
    (.object [("label", .string "a"), ("title", .string "b")]) isBuiltWithCodecs_registry
    hasStandardCodec_task rfl rfl htypes isScalar_title isInstance_task sound_task rfl
  cases hresult

end Labels

end RecordSchema
