import RecordSchema.Proofs.Encoded
import RecordSchema.Proofs.Rejections
import RecordSchema.Proofs.Resolution

/-!
# Closed registries

Building a registry checks once that everything its fields refer to is there (`IsBuilt.isClosed`).
The places where coercion, decoding and encoding look a type up are then reached with declared types
only, so none of them fails for a type that is not there. Values need not be valid for that, unless
they are encoded.
-/

namespace RecordSchema

open Outcome

/-! ## Errors that can happen -/

namespace TypeError

/-- The error is that a type is not there, or that something of no known type was rejected. -/
def IsUnresolved : TypeError → Prop
  | unknownType _ => True
  | validationRejected _ _ rejection => rejection.kind = .unresolved
  | _ => False

/-- Errors of codecs are about values and not about types. -/
theorem not_isUnresolved_of_code_eq {e : TypeError} (h : e.code = .codec) : ¬ e.IsUnresolved := by
  cases e <;> simp_all [code, IsUnresolved]

end TypeError

/-- If the computation fails, it is not for a type that is not there. -/
abbrev IsResolved {α : Type} (outcome : Except TypeError α) : Prop :=
  FailsOnlyAs (¬ TypeError.IsUnresolved ·) outcome

namespace Registry

/-! ## What building checks -/

/-- What the rule refers to is there: a type, and the field by which its instances are keyed. -/
def Knows (r : Registry) : Rule → Prop
  | .tagged typeName => ∃ d, r.definition? typeName = some d
  | .keyed typeName idField =>
      ∃ d key, r.definition? typeName = some d ∧ idField = some key ∧ d.hasFieldEverywhere key
  | _ => True

/-- What the fields of the types refer to is there. -/
def IsClosed (r : Registry) : Prop :=
  ∀ entry ∈ r.types, ∀ fields ∈ entry.2.definition.shape.alternatives, ∀ field ∈ fields,
    r.Knows field.2.rule

end Registry

/-- The fields of an instance are among those that instances can have. -/
theorem TypeDefinition.mem_alternatives_of_fieldsOf? {d : TypeDefinition} {variant : Option String}
    {declared : Fields} (h : d.fieldsOf? variant = some declared) :
    declared ∈ d.shape.alternatives := by
  obtain ⟨name, fields | variants, idField⟩ := d
  · cases variant <;> cases h
    exact List.mem_cons_self
  · cases variant with
    | none => cases h
    | some variant => exact List.mem_map_of_mem (Entries.mem_of_get? h)

namespace Declarations

variable {d : Declarations}

/-- Resolving keeps the fields that every instance has. -/
theorem ResolvesDefinition.hasFieldEverywhere {declared resolved : TypeDefinition}
    (h : d.ResolvesDefinition declared resolved) {field : String}
    (hfield : declared.hasFieldEverywhere field) : resolved.hasFieldEverywhere field := by
  refine List.all_eq_true.mpr fun fields hfields => ?_
  obtain ⟨others, hothers, hrelated⟩ := h.shape.exists_alternative hfields
  have hhas := List.all_eq_true.mp hfield others hothers
  rw [Entries.has_iff] at hhas ⊢
  exact hrelated.names_eq ▸ hhas

/-- Every built registry is closed. -/
theorem isClosed_of_build {number : Nat} {r : Registry} (h : d.build number = .ok r) :
    r.IsClosed := by
  obtain ⟨-, -, hall⟩ := build_eq_ok.mp h
  intro entry hentry fields hfields field hfield
  obtain ⟨declared, -, hregisters⟩ := exists_of_mem_right hall hentry
  obtain ⟨others, -, hrelated⟩ := hregisters.definition.shape.exists_alternative hfields
  obtain ⟨other, -, -, htype⟩ := exists_of_mem_right hrelated hfield
  have hrule := htype.rule
  generalize other.2.rule = original, field.2.rule = rule at hrule
  cases hrule with
  | type hname =>
      obtain ⟨target, htarget, rfl⟩ := List.mem_map.mp hname
      obtain ⟨resolved, hresolved, -⟩ := exists_definition?_of_build h target htarget
      exact ⟨resolved, hresolved⟩
  | pattern => trivial
  | keyed htarget hkey =>
      obtain ⟨resolved, hresolved, hdefinition⟩ := exists_definition?_of_build h _ htarget
      exact ⟨resolved, _, hresolved, rfl, hdefinition.hasFieldEverywhere hkey⟩
  | other hreference => cases original <;> simp_all [Rule.isReference, Registry.Knows]

end Declarations

namespace Registry

variable {r : Registry} {rule : Rule} {depth index : Nat} {path : Path} {typeName : String}
  {d : TypeDefinition} {variant : Option String} {declared : Fields}

theorem IsBuilt.isClosed (h : r.IsBuilt) : r.IsClosed := by
  obtain ⟨d, -, hbuild⟩ := h
  exact Declarations.isClosed_of_build hbuild

/-- The rules of the declared fields are known. -/
theorem IsClosed.knows (hr : r.IsClosed) (hd : r.definition? typeName = some d)
    (hdeclared : d.fieldsOf? variant = some declared) {field : String × FieldType}
    (hfield : field ∈ declared) : r.Knows field.2.rule := by
  obtain ⟨entry, hentry, rfl⟩ := Option.map_eq_some_iff.mp hd
  exact hr _ (Entries.mem_of_get? hentry) declared
    (TypeDefinition.mem_alternatives_of_fieldsOf? hdeclared) field hfield

/-- Instances of the type of a known collection are of a known type. -/
theorem Knows.of_keyed {idField : Option String} (h : r.Knows (.keyed typeName idField)) :
    r.Knows (.tagged typeName) := by
  obtain ⟨d, _, hd, -⟩ := h
  exact ⟨d, hd⟩

/-! ## Coercion and construction -/

/-- What is wrong with a value of a known rule is not that its type is unknown. -/
theorem Rejects.kind_ne_unresolved (hr : r.IsClosed) {value : Value} {rejection : Rejection}
    (h : r.Rejects value rule depth path rejection) (hrule : r.Knows rule) :
    rejection.kind ≠ .unresolved := by
  induction h with
  | @atom value rule depth path rejection h =>
      unfold Coercion.atom at h
      split at h
      next =>
          cases h
          simp [Rejection.wrongKind]
      next =>
          split at h
          next typeName =>
              obtain ⟨d, hd⟩ := hrule
              simp only [hd] at h
              split at h
              next heq => cases heq
              next =>
                  split at h
                  · cases h
                  · cases h
                    simp
              next =>
                  cases h
                  simp [Rejection.wrongKind]
          next =>
              obtain ⟨_, _, -, hkey, -⟩ := hrule
              cases hkey
          next =>
              repeat' split at h
              all_goals cases h <;> simp [Rejection.wrongKind, Rejection.patternMismatch]
  | item _ _ ih => exact ih hrule
  | variant _ h => cases h <;> simp [Rejection.missing]
  | absent => simp [Rejection.missing]
  | field hd _ hdeclared hfield _ _ ih => exact ih (hr.knows hd hdeclared hfield)
  | member _ _ ih => exact ih hrule.of_keyed
  | key _ _ h =>
      rw [Coercion.checkKey] at h
      split at h
      · cases h
      · cases h
        simp

/-- Coercion to a known rule fails for other reasons than an unknown type. -/
theorem failsOnlyAs_coerceValue (hr : r.IsClosed) (hrule : r.Knows rule) (value : Value) :
    FailsOnlyAs (·.kind ≠ .unresolved) (r.coerceValue value rule depth path) :=
  fun _ h => (rejects_of_coerceValue h).kind_ne_unresolved hr hrule

/-- A rejection of a known type is reported as such. -/
theorem isResolved_rejected {α : Type} {outcome : Except Rejection α}
    (h : FailsOnlyAs (·.kind ≠ .unresolved) outcome) :
    IsResolved (outcome.mapError (d.rejected variant)) :=
  h.mapError fun _ hkind => hkind

/-- Constructing an instance of a declared type fails for other reasons than an unknown type. -/
theorem isResolved_construct (hr : r.IsClosed) (hd : r.definition? typeName = some d)
    (candidate : String → Option Value) : IsResolved (r.construct typeName variant candidate) := by
  rw [construct, definition_eq_ok.mpr hd]
  refine failsOnlyAs_ok.bind fun _ heq => ?_
  obtain rfl := Except.ok.inj heq
  refine FailsOnlyAs.bind ?_ fun declared hdeclared => (isResolved_rejected ?_).bind ?_
  · unfold fieldsToConstruct
    repeat' split
    all_goals first | exact failsOnlyAs_ok | exact failsOnlyAs_error id
  · rw [fields_eq_collect]
    refine Entries.failsOnlyAs_collect fun field hfield e he => ?_
    rcases field_eq_error he with ⟨-, -, rfl⟩ | ⟨value, -, hvalue⟩
    · simp [Rejection.missing]
    · have hrule := hr.knows hd (fieldsToConstruct_eq_ok.mp hdeclared) hfield
      exact failsOnlyAs_coerceValue hr hrule value _ hvalue
  · exact fun _ _ => failsOnlyAs_ok

/-- Reading an instance of a declared type fails for other reasons than an unknown type. -/
theorem isResolved_adapt (hr : r.IsClosed) (hd : r.definition? typeName = some d) (shape : Value) :
    IsResolved (r.adapt d shape) := by
  have hread : ∀ members : Entries Value,
      IsResolved ((r.coerceShape d members []).mapError (d.rejected none)) := by
    refine fun members => isResolved_rejected fun e he => ?_
    have hrejects := rejects_of_coerceShape hd (fun _ _ => rejects_of_coerceValue) he
    exact hrejects.kind_ne_unresolved hr ⟨d, hd⟩
  unfold adapt
  split
  · exact hread _
  · split
    · exact failsOnlyAs_ok
    · exact hread _
  · exact failsOnlyAs_error (by simp [TypeDefinition.rejected, TypeError.IsUnresolved,
      Rejection.wrongKind])

end Registry

/-! ## Decoding -/

/-- What the reader is asked for, if of a known type, it fails to give for other reasons than an
unknown type. -/
structure ShapeReader.IsResolved (r : Registry) (reader : ShapeReader) : Prop where
  value : ∀ {rule depth path}, r.Knows rule → RecordSchema.IsResolved (reader.value rule depth path)
  decoded : ∀ {typeName d}, r.definition? typeName = some d →
    RecordSchema.IsResolved (reader.decoded typeName)

namespace Decoding

open Registry

variable {r : Registry} {run : HookRunner} {rule : Rule} {depth index : Nat} {path : Path}
  {typeName : String} {d : TypeDefinition}

theorem isUnresolved_moveBelow (path : Path) (e : TypeError) :
    (moveBelow path e).IsUnresolved ↔ e.IsUnresolved := by
  cases e <;> rfl

theorem isUnresolved_reportAgainst (d : TypeDefinition) (variant : Option String)
    (e : TypeError) : (reportAgainst d variant e).IsUnresolved ↔ e.IsUnresolved := by
  cases e <;> rfl

theorem isResolved_nested {reader : ShapeReader} (h : IsResolved (reader.decoded typeName)) :
    IsResolved (nested reader typeName path) :=
  h.mapError fun e he => mt (isUnresolved_moveBelow path e).mp he

theorem isResolved_items {readers : List ShapeReader} (hrule : r.Knows rule)
    (h : ∀ reader ∈ readers, reader.IsResolved r) :
    IsResolved (items rule depth path index readers) := by
  induction readers generalizing index with
  | nil => exact failsOnlyAs_ok
  | cons reader readers ih =>
      obtain ⟨hreader, hreaders⟩ := List.forall_mem_cons.mp h
      refine (hreader.value hrule).bind fun _ _ => ?_
      exact (ih hreaders).bind fun _ _ => failsOnlyAs_ok

theorem isResolved_keyedItems {idField : String} {found : Entries Value}
    {readers : List ShapeReader} (hd : r.definition? typeName = some d)
    (h : ∀ reader ∈ readers, reader.IsResolved r) :
    IsResolved (keyedItems r typeName idField path index found readers) := by
  induction readers generalizing index found with
  | nil => exact failsOnlyAs_ok
  | cons reader readers ih =>
      obtain ⟨hreader, hreaders⟩ := List.forall_mem_cons.mp h
      refine (isResolved_nested (hreader.decoded hd)).bind fun i _ => ?_
      split
      · exact failsOnlyAs_error id
      · split
        · exact failsOnlyAs_error (by simp [duplicateKey, TypeError.IsUnresolved])
        · exact ih hreaders

theorem isResolved_keyedMembers {readers : Entries ShapeReader}
    (hd : r.definition? typeName = some d) (h : ∀ reader ∈ readers, reader.2.IsResolved r) :
    IsResolved (keyedMembers typeName path readers) := by
  induction readers with
  | nil => exact failsOnlyAs_ok
  | cons reader readers ih =>
      obtain ⟨hreader, hreaders⟩ := List.forall_mem_cons.mp h
      refine (isResolved_nested (hreader.decoded hd)).bind fun _ _ => ?_
      exact (ih hreaders).bind fun _ _ => failsOnlyAs_ok

/-- Decoding the fields of a declared type fails for other reasons than an unknown type. -/
theorem isResolved_fields (hr : r.IsClosed) (hd : r.definition? typeName = some d) {shape : Json}
    {readers : Option (Entries ShapeReader)}
    (h : ∀ members ∈ readers, ∀ reader ∈ members, reader.2.IsResolved r) :
    IsResolved (fields r typeName shape readers) := by
  cases readers with
  | none => exact failsOnlyAs_error id
  | some readers =>
      rw [fields, definition_eq_ok.mpr hd]
      refine failsOnlyAs_ok.bind fun _ heq => ?_
      obtain rfl := Except.ok.inj heq
      refine FailsOnlyAs.bind ?_ fun variant _ => FailsOnlyAs.bind ?_ fun declared hdeclared => ?_
      · unfold Decoding.variant
        repeat' split
        all_goals first | exact failsOnlyAs_ok | exact failsOnlyAs_error id
      · rw [declaredFields, definition_eq_ok.mpr hd]
        refine failsOnlyAs_ok.bind fun _ _ => ?_
        repeat' split
        all_goals first | exact failsOnlyAs_ok | exact failsOnlyAs_error id
      · refine FailsOnlyAs.bind ?_ fun _ _ => isResolved_construct hr hd _
        obtain ⟨_, hd', hfields⟩ := declaredFields_eq_ok.mp hdeclared
        cases hd.symm.trans hd'
        rw [members_eq_collect]
        refine Entries.failsOnlyAs_collect fun field hfield => ?_
        have hrule := hr.knows hd hfields hfield
        cases hreader : readers.get? field.1 with
        | none => exact failsOnlyAs_ok
        | some reader =>
            rw [member]
            split
            · exact failsOnlyAs_ok
            · have hreader := h readers rfl _ (Entries.mem_of_get? hreader)
              refine ((hreader.value hrule).mapError fun e he => ?_).map
              exact mt (isUnresolved_reportAgainst ..).mp he

/-- Decoding a declared type fails for other reasons than an unknown type, if it has the standard
codec. -/
theorem isResolved_byCodec (hr : r.IsClosed) (hcodec : r.HasStandardCodec typeName)
    (hd : r.definition? typeName = some d) {shape : Json}
    {readers : Option (Entries ShapeReader)}
    (h : ∀ members ∈ readers, ∀ reader ∈ members, reader.2.IsResolved r) :
    IsResolved (byCodec r run typeName shape readers) := by
  obtain ⟨entry, hentry, -⟩ := Option.map_eq_some_iff.mp hd
  rw [byCodec, lookup, hentry]
  refine failsOnlyAs_ok.bind fun _ heq => ?_
  obtain rfl := Except.ok.inj heq
  rw [hcodec entry hentry]
  exact isResolved_fields hr hd h

/-- No reader fails for an unknown type when it is asked for something of a known one. -/
theorem isResolved_reader (hr : r.IsClosed) (hresolved : r.Resolved) (json : Json) :
    (r.reader run json).IsResolved r := by
  have hdecoded : ∀ {typeName d shape readers}, r.definition? typeName = some d →
      (∀ members ∈ readers, ∀ reader ∈ members, reader.2.IsResolved r) →
      IsResolved (byCodec r run typeName shape readers) :=
    fun hd h => isResolved_byCodec hr (hresolved.hasStandardCodec _) hd h
  induction json using Json.induction with
  | array jsons ih =>
      have hreaders : ∀ reader ∈ r.itemReaders run jsons, reader.IsResolved r := by
        rw [itemReaders_eq_map]
        exact List.forall_mem_map.mpr ih
      refine ⟨fun {rule depth path} hrule => ?_, fun hd => hdecoded hd (by simp)⟩
      cases depth with
      | succ depth => exact (isResolved_items hrule hreaders).map
      | zero =>
          cases rule with
          | keyed typeName idField =>
              obtain ⟨d, hd⟩ := hrule.of_keyed
              exact (isResolved_keyedItems hd hreaders).map
          | _ => exact failsOnlyAs_ok
  | object jsons ih =>
      have hreaders : ∀ reader ∈ r.memberReaders run jsons, reader.2.IsResolved r := by
        rw [memberReaders_eq_mapValues]
        exact List.forall_mem_map.mpr ih
      have hmembers : ∀ members ∈ some (r.memberReaders run jsons), ∀ reader ∈ members,
          reader.2.IsResolved r := by
        rintro _ ⟨⟩
        exact hreaders
      refine ⟨fun {rule depth path} hrule => ?_, fun hd => hdecoded hd hmembers⟩
      cases depth with
      | succ depth => cases rule <;> exact failsOnlyAs_ok
      | zero =>
          cases rule with
          | tagged typeName =>
              obtain ⟨d, hd⟩ := hrule
              refine ((hdecoded hd hmembers).mapError fun e he => ?_).map
              exact mt (isUnresolved_moveBelow path e).mp he
          | keyed typeName idField =>
              obtain ⟨d, hd⟩ := hrule.of_keyed
              exact (isResolved_keyedMembers hd hreaders).map
          | _ => exact failsOnlyAs_ok
  | string s =>
      refine ⟨fun {rule depth path} _ => ?_, fun hd => hdecoded hd (by simp)⟩
      by_cases hdate : rule = .date ∧ depth = 0
      · obtain ⟨rfl, rfl⟩ := hdate
        exact failsOnlyAs_ok
      · have hleaf : (r.reader run (.string s)).value rule depth path = .ok (.string s) :=
          value_leaf_string hdate
        exact hleaf ▸ failsOnlyAs_ok
  | _ => exact ⟨fun _ => failsOnlyAs_ok, fun hd => hdecoded hd (by simp)⟩

end Decoding

namespace Registry

variable {r : Registry} {typeName name : String} {shape : Json}

/-- A type that is not declared is not decoded. -/
theorem decode_of_undeclared (h : r.definition? typeName = none) :
    r.decode typeName shape = .error (.unknownType typeName) := by
  have hnone : r.types.get? typeName = none := Option.map_eq_none_iff.mp h
  cases shape <;> simp [decode, reader, Decoding.leaf, Decoding.array, Decoding.object,
    Decoding.byCodec, lookup, hnone, bind, Except.bind]

/-- Decoding a declared type fails for other reasons than an unknown type. -/
theorem isResolved_decode (hr : r.IsClosed) (hresolved : r.Resolved) {d : TypeDefinition}
    (hd : r.definition? typeName = some d) : IsResolved (r.decode typeName shape) :=
  (Decoding.isResolved_reader hr hresolved shape).decoded hd

/-- Decoding fails for an unknown type exactly if it is asked for one. -/
theorem decode_eq_unknownType_iff (hr : r.IsClosed) (hresolved : r.Resolved) :
    r.decode typeName shape = .error (.unknownType name) ↔
      r.definition? typeName = none ∧ name = typeName := by
  cases hd : r.definition? typeName with
  | some d =>
      simp only [reduceCtorEq, false_and, iff_false]
      exact fun h => isResolved_decode hr hresolved hd _ h trivial
  | none =>
      rw [decode_of_undeclared hd]
      simp [eq_comm]

end Registry

/-! ## Encoding -/

/-- A value outside untyped content is valid for what guides its encoding: the rule of its field, or
some type. -/
def EncodingMode.Fits (r : Registry) (mode : EncodingMode) (value : Value) : Prop :=
  mode.untypedField? = none →
    match mode with
    | .typed _ rule depth => r.Meets rule depth value
    | _ => ∃ typeName, r.Meets (.tagged typeName) 0 value

namespace Registry

variable {r : Registry} {owner typeName : String} {mode : EncodingMode} {P : TypeError → Prop}

theorem failsOnlyAs_encodeItems {items : List Value}
    (h : ∀ item ∈ items, FailsOnlyAs P (r.encodeValue owner item mode)) :
    FailsOnlyAs P (r.encodeItems owner items mode) := by
  induction items with
  | nil => exact failsOnlyAs_ok
  | cons item items ih =>
      obtain ⟨hitem, hitems⟩ := List.forall_mem_cons.mp h
      exact hitem.bind fun _ _ => (ih hitems).bind fun _ _ => failsOnlyAs_ok

theorem failsOnlyAs_encodeMembers {members : Entries Value}
    (h : ∀ member ∈ members, FailsOnlyAs P (r.encodeValue owner member.2 mode)) :
    FailsOnlyAs P (r.encodeMembers owner members mode) := by
  induction members with
  | nil => exact failsOnlyAs_ok
  | cons member members ih =>
      obtain ⟨hmember, hmembers⟩ := List.forall_mem_cons.mp h
      exact hmember.bind fun _ _ => (ih hmembers).bind fun _ _ => failsOnlyAs_ok

/-- Typed content in the wrong place is an error of the codec. -/
theorem failsOnlyAs_typedOnly {kind : String} {encoded : Except TypeError Json}
    (h : mode.untypedField? = none → FailsOnlyAs (·.code = .codec) encoded) :
    FailsOnlyAs (·.code = .codec) (Encoding.typedOnly owner kind mode encoded) := by
  unfold Encoding.typedOnly
  split
  · exact failsOnlyAs_error rfl
  next hmode => exact h hmode

/-- Encoding a valid instance fails only for what is in its fields. -/
theorem failsOnlyAs_encode (hr : r.Resolved) {i : Instance} (hvalid : r.IsInstance typeName i)
    (h : ∀ field ∈ i.fields, ∀ {owner mode}, mode.Fits r field.2 →
      FailsOnlyAs (·.code = .codec) (r.encodeValue owner field.2 mode)) :
    FailsOnlyAs (·.code = .codec) (r.encode i) := by
  obtain ⟨tag, variant, fields⟩ := i
  cases hvalid with
  | @tagged _ d _ declared _ hd hdeclared hsub hrequired hfields =>
      have hencode : r.encode ⟨r.tag typeName, variant, fields⟩ =
          Encoding.fields r typeName variant (r.encoders typeName fields) :=
        Encoding.typedInstance_eq_fields (hr.hasStandardCodec typeName) hd
      change FailsOnlyAs _ (r.encode ⟨r.tag typeName, variant, fields⟩)
      rw [hencode]
      unfold Encoding.fields
      rw [declaredFields_eq_ok.mpr ⟨d, hd, hdeclared⟩]
      refine failsOnlyAs_ok.bind fun _ heq => ?_
      obtain rfl := Except.ok.inj heq
      refine FailsOnlyAs.bind ?_ fun _ _ => failsOnlyAs_ok
      refine failsOnlyAs_foldlM fun ⟨name, type⟩ hfield members => ?_
      dsimp only
      rw [encoders_eq_mapValues, Entries.get?_mapValues]
      cases hvalue : fields.get? name with
      | none => exact failsOnlyAs_ok
      | some value =>
          refine FailsOnlyAs.bind ?_ fun _ _ => failsOnlyAs_ok
          exact h _ (Entries.mem_of_get? hvalue) fun _ => hfields _ hfield value hvalue

/-- Encoding a valid value fails as codecs do, for what the value is. -/
theorem failsOnlyAs_encodeValue (hr : r.Resolved) {value : Value} (h : mode.Fits r value) :
    FailsOnlyAs (·.code = .codec) (r.encodeValue owner value mode) := by
  induction value using Value.induction generalizing owner mode with
  | number x =>
      rw [encodeValue, Encoding.number]
      repeat' split
      all_goals first | exact failsOnlyAs_ok | exact failsOnlyAs_error rfl
  | date i => exact failsOnlyAs_typedOnly fun _ => failsOnlyAs_ok
  | array items ih =>
      refine (failsOnlyAs_encodeItems fun item hitem => ih item hitem fun hmode => ?_).map
      cases huntyped : mode.untypedField? with
      | some field => cases (mode.untypedField?_ofItems huntyped).symm.trans hmode
      | none =>
          have hvalid := h huntyped
          cases mode with
          | typed field rule depth =>
              cases hvalid with
              | any => cases huntyped
              | array hitems => exact hitems item hitem
          | _ =>
              obtain ⟨_, hvalid⟩ := hvalid
              cases hvalid
  | object members ih =>
      have hmembers : FailsOnlyAs (·.code = .codec)
          (r.encodeMembers owner members mode.ofMembers) := by
        refine failsOnlyAs_encodeMembers fun member hmember => ih member hmember fun hmode => ?_
        rw [mode.untypedField?_ofMembers] at hmode
        have hvalid := h hmode
        cases mode with
        | typed field rule depth =>
            cases hvalid with
            | any => cases hmode
            | object => cases hmode
            | keyed hmembers => exact ⟨_, hmembers member hmember⟩
        | _ =>
            obtain ⟨_, hvalid⟩ := hvalid
            cases hvalid
      rw [encodeValue]
      split
      · exact hmembers.map
      · exact hmembers.map
  | tagged tag variant fields ih =>
      refine failsOnlyAs_typedOnly fun hmode => ?_
      have hvalid : ∃ typeName, r.IsInstance typeName ⟨tag, variant, fields⟩ := by
        have hvalid := h hmode
        cases mode with
        | typed field rule depth =>
            cases hvalid with
            | any => cases hmode
            | objectInstance => cases hmode
            | tagged hd hdeclared hsub hrequired hfields =>
                exact ⟨_, .tagged hd hdeclared hsub hrequired hfields⟩
        | _ => exact hvalid
      obtain ⟨typeName, hvalid⟩ := hvalid
      exact failsOnlyAs_encode hr hvalid fun field hfield _ _ => ih field hfield
  | _ => exact failsOnlyAs_ok

/-- Encoding a valid instance fails for other reasons than an unknown type. -/
theorem isResolved_encode (hr : r.Resolved) {i : Instance} (hvalid : r.IsInstance typeName i) :
    IsResolved (r.encode i) := fun e he =>
  TypeError.not_isUnresolved_of_code_eq
    (failsOnlyAs_encode hr hvalid (fun _ _ _ _ => failsOnlyAs_encodeValue hr) e he)

end Registry

end RecordSchema
