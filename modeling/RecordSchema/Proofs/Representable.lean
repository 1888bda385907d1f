import RecordSchema.Proofs.Closed
import RecordSchema.Proofs.Identity

/-!
# What can be encoded

Two things have no JSON that would be read back as them: a number that is not finite, wherever it
is, and a date or an instance in the content of a field that says nothing of what it holds. Where a
field has a rule of its own, dates are written as texts and instances as objects. So an instance is
encoded exactly if all numbers in it are finite and the untyped content in it is plain
(`Registry.exists_encode_iff_of_isInstance`); and `Session.encode_refuses_exactly` says so of
whatever a session is given.
-/

namespace RecordSchema

open Outcome

/-! ## Plain content -/

/-- The value is read back as what it is only where a type is known. -/
def Value.IsTypedOnly : Value → Prop
  | .date _ | .tagged .. => True
  | _ => False

/-- The value is finite if it is a number. -/
def Value.IsFiniteHere : Value → Prop
  | .number x => x.isFinite
  | _ => True

/-- The rule says nothing of what is in its values. -/
def Rule.IsUntyped (rule : Rule) : Prop :=
  rule = .any ∨ rule = .object

theorem Rule.not_isUntyped_tagged {typeName : String} : ¬ (Rule.tagged typeName).IsUntyped := by
  simp [IsUntyped]

theorem Rule.not_isUntyped_keyed {typeName : String} {idField : Option String} :
    ¬ (Rule.keyed typeName idField).IsUntyped := by
  simp [IsUntyped]

/-- In a value of which not all numbers are finite there is one that is not. -/
theorem Value.not_everywhere_isFiniteHere {value : Value} :
    ¬ value.Everywhere (·.IsFiniteHere) ↔ ∃ x, (Value.number x).Inside value ∧ ¬ x.isFinite := by
  simp only [Everywhere, not_forall, exists_prop]
  constructor
  · rintro ⟨part, hpart, hinfinite⟩
    cases part with
    | number x => exact ⟨x, hpart, hinfinite⟩
    | _ => exact absurd trivial hinfinite
  · rintro ⟨x, hx, hinfinite⟩
    exact ⟨.number x, hx, hinfinite⟩

namespace Registry

variable {r : Registry} {owner field typeName : String} {mode : EncodingMode} {rule : Rule}
  {depth : Nat} {value : Value}

/-- The instance has the value in a field of this name that is declared with the type. -/
def HasField (r : Registry) (i : Instance) (name : String) (type : FieldType) (value : Value) :
    Prop :=
  ∃ d declared, r.definition? i.typeName = some d ∧ d.fieldsOf? i.variant = some declared ∧
    (name, type) ∈ declared ∧ i.get? name = some value

/-- `r.NestedIn inner outer` says that `inner` is `outer`, or that it stands where a field of an
instance nested in `outer` takes an instance of a type. -/
inductive NestedIn (r : Registry) (inner : Instance) : Instance → Prop where
  | refl : NestedIn r inner inner
  | field {outer part : Instance} {name type value typeName} : r.HasField outer name type value →
      (Value.ofInstance part).StandsFor typeName type.rule type.depth value →
      NestedIn r inner part → NestedIn r inner outer

/-- The part is in the content of a field whose rule says nothing of it. -/
def HasUntyped (r : Registry) (i : Instance) (part : Value) : Prop :=
  ∃ name type value, r.HasField i name type value ∧ type.rule.IsUntyped ∧ part.Inside value

/-- The untyped content of the instance, and of those nested in it, is plain. -/
def KeepsPlain (r : Registry) (i : Instance) : Prop :=
  ∀ inner, r.NestedIn inner i → ∀ part, r.HasUntyped inner part → ¬ part.IsTypedOnly

/-- Under the rule inside `depth` arrays, the value is plain if it is untyped, and the instances in
it keep untyped content plain. -/
structure KeepsPlainAt (r : Registry) (rule : Rule) (depth : Nat) (value : Value) : Prop where
  untyped : rule.IsUntyped → value.Everywhere (¬ ·.IsTypedOnly)
  nested : ∀ i typeName, (Value.ofInstance i).StandsFor typeName rule depth value → r.KeepsPlain i

/-- An instance keeps untyped content plain if all its fields do. -/
theorem keepsPlain_iff {i : Instance} :
    r.KeepsPlain i ↔ ∀ name type value, r.HasField i name type value →
      r.KeepsPlainAt type.rule type.depth value := by
  constructor
  · intro h name type value hfield
    constructor
    case untyped =>
      exact fun hrule part hpart => h i .refl part ⟨name, type, value, hfield, hrule, hpart⟩
    case nested => exact fun part _ hstands inner hinner => h inner (.field hfield hstands hinner)
  · intro h inner hinner part hpart
    cases hinner with
    | refl =>
        obtain ⟨name, type, value, hfield, hrule, hinside⟩ := hpart
        exact (h name type value hfield).untyped hrule part hinside
    | field hfield hstands hinner =>
        exact (h _ _ _ hfield).nested _ _ hstands inner hinner part hpart

/-- Where a type is expected, an instance has to keep untyped content plain. -/
theorem keepsPlainAt_tagged {i : Instance} :
    r.KeepsPlainAt (.tagged typeName) 0 (.ofInstance i) ↔ r.KeepsPlain i := by
  refine ⟨fun h => h.nested i typeName .single, fun h => ⟨?_, ?_⟩⟩
  · exact fun hrule => absurd hrule Rule.not_isUntyped_tagged
  · intro other name hstands
    generalize hvalue : Value.ofInstance i = value at hstands
    cases hstands
    rwa [← Value.ofInstance_inj.mp hvalue]

/-- An array has to keep untyped content plain item by item. -/
theorem keepsPlainAt_array {items : List Value} :
    r.KeepsPlainAt rule (depth + 1) (.array items) ↔
      ∀ item ∈ items, r.KeepsPlainAt rule depth item := by
  constructor
  · intro h item hitem
    exact ⟨fun hrule => (Value.everywhere_array.mp (h.untyped hrule)).2 item hitem,
      fun i name hstands => h.nested i name (.item hitem hstands)⟩
  · intro h
    constructor
    case untyped =>
      exact fun hrule => Value.everywhere_array.mpr
        ⟨id, fun item hitem => (h item hitem).untyped hrule⟩
    case nested =>
      intro i name hstands
      cases hstands with
      | item hitem hstands => exact (h _ hitem).nested i name hstands

/-- A keyed collection has to keep untyped content plain member by member. -/
theorem keepsPlainAt_keyed {idField : Option String} {members : Entries Value} :
    r.KeepsPlainAt (.keyed typeName idField) 0 (.object members) ↔
      ∀ member ∈ members, r.KeepsPlainAt (.tagged typeName) 0 member.2 := by
  constructor
  · rintro h ⟨key, member⟩ hmember
    constructor
    case untyped => exact fun hrule => absurd hrule Rule.not_isUntyped_tagged
    case nested =>
      intro i name hstands
      cases hstands
      exact h.nested i typeName (.member hmember)
  · intro h
    constructor
    case untyped => exact fun hrule => absurd hrule Rule.not_isUntyped_keyed
    case nested =>
      intro i name hstands
      cases hstands with
      | member hmember => exact (h _ hmember).nested i typeName .single

/-- Untyped content has to be plain, and this is all. -/
theorem keepsPlainAt_of_isUntyped (hrule : rule.IsUntyped) :
    r.KeepsPlainAt rule depth value ↔ value.Everywhere (¬ ·.IsTypedOnly) := by
  refine ⟨fun h => h.untyped hrule, fun h => ⟨fun _ => h, fun i name hstands => ?_⟩⟩
  induction hstands with
  | single => exact absurd hrule Rule.not_isUntyped_tagged
  | member => exact absurd hrule Rule.not_isUntyped_keyed
  | item hitem _ ih => exact ih hrule ((Value.everywhere_array.mp h).2 _ hitem)

/-- There are no instances in a value without parts, so that it has to be plain itself. -/
theorem keepsPlainAt_of_leaf (hleaf : value.IsLeaf)
    (hplain : rule.IsUntyped → ¬ value.IsTypedOnly) : r.KeepsPlainAt rule depth value := by
  refine ⟨fun hrule => .of_leaf hleaf (hplain hrule), fun i name hstands => ?_⟩
  cases hstands <;> cases hleaf

/-! ## Encoding -/

/-- Items are encoded exactly if each of them is. -/
theorem exists_encodeItems_iff {items : List Value} :
    (∃ jsons, r.encodeItems owner items mode = .ok jsons) ↔
      ∀ item ∈ items, ∃ json, r.encodeValue owner item mode = .ok json := by
  simp only [encodeItems_eq_ok]
  constructor
  · rintro ⟨jsons, hall⟩ item hitem
    obtain ⟨json, -, hjson⟩ := exists_of_mem_left hall hitem
    exact ⟨json, hjson⟩
  · exact exists_forall₂

/-- Members are encoded exactly if each of them is. -/
theorem exists_encodeMembers_iff {members : Entries Value} :
    (∃ jsons, r.encodeMembers owner members mode = .ok jsons) ↔
      ∀ member ∈ members, ∃ json, r.encodeValue owner member.2 mode = .ok json := by
  simp only [encodeMembers_eq_ok]
  constructor
  · rintro ⟨jsons, hall⟩ member hmember
    obtain ⟨json, -, -, hjson⟩ := exists_of_mem_left hall hmember
    exact ⟨json.2, hjson⟩
  · intro h
    refine exists_forall₂ fun member hmember => ?_
    obtain ⟨json, hjson⟩ := h member hmember
    exact ⟨(member.1, json), rfl, hjson⟩

/-- An array is encoded exactly if its items are. -/
theorem exists_encodeValue_array_iff {items : List Value} :
    (∃ json, r.encodeValue owner (.array items) mode = .ok json) ↔
      ∀ item ∈ items, ∃ json, r.encodeValue owner item mode.ofItems = .ok json := by
  rw [← exists_encodeItems_iff, encodeValue]
  simpa using exists_map_ok_iff (P := fun _ => True)

/-- An object is encoded exactly if its members are. -/
theorem exists_encodeValue_object_iff {members : Entries Value} :
    (∃ json, r.encodeValue owner (.object members) mode = .ok json) ↔
      ∀ member ∈ members, ∃ json, r.encodeValue owner member.2 mode.ofMembers = .ok json := by
  rw [← exists_encodeMembers_iff, encodeValue]
  split <;> simpa using exists_map_ok_iff (P := fun _ => True)

/-- A number is encoded exactly if it is finite. -/
theorem exists_number_iff {x : Binary64} :
    (∃ json, Encoding.number owner x = .ok json) ↔ x.isFinite := by
  constructor
  · rintro ⟨json, hjson⟩
    by_contra hx
    rw [Encoding.number, if_neg hx] at hjson
    cases hjson
  · intro hx
    obtain ⟨n, hn, -⟩ := Encoding.exists_number_of_isFinite owner hx
    exact ⟨_, hn⟩

/-- Untyped content is encoded exactly if it is plain and all numbers in it are finite. -/
theorem exists_encodeValue_iff_of_untyped (hmode : mode.untypedField? = some field) :
    (∃ json, r.encodeValue owner value mode = .ok json) ↔
      value.Everywhere (·.IsFiniteHere) ∧ value.Everywhere (¬ ·.IsTypedOnly) := by
  -- The mode of the parts is untyped again, which carries the induction.
  induction value using Value.induction generalizing mode with
  | number x =>
      refine exists_number_iff.trans ⟨fun hx => ?_, fun h => h.1.here⟩
      exact ⟨.of_leaf trivial hx, .of_leaf trivial id⟩
  | date i =>
      refine iff_of_false ?_ fun h => h.2.here trivial
      rintro ⟨json, hjson⟩
      cases hmode.symm.trans (Encoding.typedOnly_eq_ok.mp hjson).1
  | tagged tag variant fields =>
      refine iff_of_false ?_ fun h => h.2.here trivial
      rintro ⟨json, hjson⟩
      cases hmode.symm.trans (Encoding.typedOnly_eq_ok.mp hjson).1
  | array items ih =>
      rw [exists_encodeValue_array_iff, Value.everywhere_array, Value.everywhere_array]
      simp only [Value.IsFiniteHere, Value.IsTypedOnly, not_false_eq_true, true_and]
      rw [← forall₂_and]
      exact forall₂_congr fun item hitem => ih item hitem (mode.untypedField?_ofItems hmode)
  | object members ih =>
      rw [exists_encodeValue_object_iff, Value.everywhere_object, Value.everywhere_object]
      simp only [Value.IsFiniteHere, Value.IsTypedOnly, not_false_eq_true, true_and]
      rw [← forall₂_and]
      exact forall₂_congr fun member hmember =>
        ih member hmember (mode.untypedField?_ofMembers.trans hmode)
  | _ => exact iff_of_true ⟨_, rfl⟩ ⟨.of_leaf trivial trivial, .of_leaf trivial id⟩

section Instances

variable {d : TypeDefinition} {variant : Option String} {declared : Fields} {fields : Entries Value}

/-- An instance of the registry has what its declared fields are found to have. -/
theorem hasField_iff (hd : r.definition? typeName = some d)
    (hdeclared : d.fieldsOf? variant = some declared) {name : String} {type : FieldType} :
    r.HasField ⟨r.tag typeName, variant, fields⟩ name type value ↔
      (name, type) ∈ declared ∧ fields.get? name = some value := by
  constructor
  · rintro ⟨d', declared', hd', hdeclared', h⟩
    cases hd.symm.trans hd'
    cases hdeclared.symm.trans hdeclared'
    exact h
  · exact fun h => ⟨d, declared, hd, hdeclared, h⟩

/-- An instance of the registry is encoded exactly if the values of its fields are. -/
theorem exists_encode_iff (hr : r.Resolved) (hd : r.definition? typeName = some d)
    (hdeclared : d.fieldsOf? variant = some declared) :
    (∃ json, r.encode ⟨r.tag typeName, variant, fields⟩ = .ok json) ↔
      ∀ name type value, r.HasField ⟨r.tag typeName, variant, fields⟩ name type value →
        ∃ json, r.encodeValue typeName value (.typed name type.rule type.depth) = .ok json := by
  have hcodec := hr.hasStandardCodec typeName
  simp only [hasField_iff hd hdeclared]
  constructor
  · rintro ⟨json, hjson⟩ name type value ⟨hfield, hvalue⟩
    obtain ⟨present, -, hpresent, -⟩ := (encode_eq_ok hr.checked hcodec hd hdeclared).mp hjson
    have hencoded := hpresent _ hfield
    rw [hvalue] at hencoded
    generalize Entries.get? name present = encoded at hencoded
    cases hencoded with
    | some hencoded => exact ⟨_, hencoded⟩
  · intro h
    exact exists_encode hr.checked hcodec hd hdeclared fun field hfield value hvalue =>
      h field.1 field.2 value ⟨hfield, hvalue⟩

/-- A property holds everywhere in an instance of the registry if it holds of it and everywhere in
its declared fields. -/
theorem everywhere_iff_of_sublist {P : Value → Prop} (hr : r.Checked)
    (hd : r.definition? typeName = some d) (hdeclared : d.fieldsOf? variant = some declared)
    (hsub : fields.names.Sublist declared.names) :
    (Value.tagged (r.tag typeName) variant fields).Everywhere P ↔
      P (.tagged (r.tag typeName) variant fields) ∧ ∀ name type value,
        r.HasField ⟨r.tag typeName, variant, fields⟩ name type value → value.Everywhere P := by
  rw [Value.everywhere_tagged]
  simp only [hasField_iff hd hdeclared]
  refine and_congr_right fun _ => ⟨fun h name type value hvalue => ?_, fun h field hfield => ?_⟩
  · exact h _ (Entries.mem_of_get? hvalue.2)
  · obtain ⟨type, htype, hget⟩ :=
      Entries.exists_of_mem_of_sublist ((hr.names hd).distinct hdeclared) hsub hfield
    exact h field.1 type field.2 ⟨htype, hget⟩

/-- An instance of the registry is encoded exactly if all numbers in it are finite and the untyped
content in it is plain, if this holds of its fields. -/
theorem exists_encode_iff_of_fields (hr : r.Resolved) (hd : r.definition? typeName = some d)
    (hdeclared : d.fieldsOf? variant = some declared)
    (hsub : fields.names.Sublist declared.names)
    (h : ∀ name type value, r.HasField ⟨r.tag typeName, variant, fields⟩ name type value →
      ((∃ json, r.encodeValue typeName value (.typed name type.rule type.depth) = .ok json) ↔
        value.Everywhere (·.IsFiniteHere) ∧ r.KeepsPlainAt type.rule type.depth value)) :
    (∃ json, r.encode ⟨r.tag typeName, variant, fields⟩ = .ok json) ↔
      (Value.tagged (r.tag typeName) variant fields).Everywhere (·.IsFiniteHere) ∧
        r.KeepsPlain ⟨r.tag typeName, variant, fields⟩ := by
  rw [exists_encode_iff hr hd hdeclared, everywhere_iff_of_sublist hr.checked hd hdeclared hsub,
    keepsPlain_iff]
  constructor
  · intro hall
    exact ⟨⟨trivial, fun name type value hfield => ((h _ _ _ hfield).mp (hall _ _ _ hfield)).1⟩,
      fun name type value hfield => ((h _ _ _ hfield).mp (hall _ _ _ hfield)).2⟩
  · rintro ⟨⟨-, hfinite⟩, hplain⟩ name type value hfield
    exact (h _ _ _ hfield).mpr ⟨hfinite _ _ _ hfield, hplain _ _ _ hfield⟩

end Instances

/-- A valid value of a field is encoded exactly if all numbers in it are finite and the untyped
content in it is plain. -/
theorem exists_encodeValue_iff (hr : r.Resolved) (h : r.Meets rule depth value) :
    (∃ json, r.encodeValue owner value (.typed field rule depth) = .ok json) ↔
      value.Everywhere (·.IsFiniteHere) ∧ r.KeepsPlainAt rule depth value := by
  have huntyped : ∀ {owner field rule depth value}, Rule.IsUntyped rule →
      ((∃ json, r.encodeValue owner value (.typed field rule depth) = .ok json) ↔
        value.Everywhere (·.IsFiniteHere) ∧ r.KeepsPlainAt rule depth value) := by
    intro owner field rule depth value hrule
    rw [keepsPlainAt_of_isUntyped hrule]
    rcases hrule with rfl | rfl <;> exact exists_encodeValue_iff_of_untyped rfl
  induction value using Value.induction generalizing owner field rule depth with
  | array items ih =>
      cases h with
      | any => exact huntyped (.inl rfl)
      | array hitems =>
          rw [exists_encodeValue_array_iff, Value.everywhere_array, keepsPlainAt_array]
          simp only [Value.IsFiniteHere, true_and]
          rw [← forall₂_and]
          exact forall₂_congr fun item hitem => ih item hitem (hitems item hitem)
  | object members ih =>
      cases h with
      | any => exact huntyped (.inl rfl)
      | object => exact huntyped (.inr rfl)
      | @keyed typeName _ _ hmembers =>
          rw [exists_encodeValue_object_iff, Value.everywhere_object, keepsPlainAt_keyed]
          simp only [Value.IsFiniteHere, true_and]
          rw [← forall₂_and]
          refine forall₂_congr fun member hmember => ?_
          -- Members are instances, which are encoded in the plain mode as where a type is expected.
          obtain ⟨i, hi, -⟩ := (hmembers member hmember).isInstance
          refine Iff.trans ?_ (@ih member hmember owner field _ _ (hmembers member hmember))
          rw [hi]
          simp only [encodeValue_ofInstance_eq_ok]
          rfl
  | tagged tag variant fields ih =>
      cases h with
      | any => exact huntyped (.inl rfl)
      | objectInstance => exact huntyped (.inr rfl)
      | @tagged typeName d _ declared _ hd hdeclared hsub _ hfields =>
          have hinstance : Value.tagged (r.tag typeName) variant fields =
              .ofInstance ⟨r.tag typeName, variant, fields⟩ := rfl
          rw [hinstance, keepsPlainAt_tagged]
          simp only [encodeValue_ofInstance_eq_ok, EncodingMode.untypedField?, true_and]
          refine exists_encode_iff_of_fields hr hd hdeclared hsub fun name type value hfield => ?_
          obtain ⟨hfield, hvalue⟩ := (hasField_iff hd hdeclared).mp hfield
          exact ih _ (Entries.mem_of_get? hvalue) (hfields _ hfield value hvalue)
  | number x =>
      refine exists_number_iff.trans ⟨fun hx => ?_, fun h => h.1.here⟩
      exact ⟨.of_leaf trivial hx, keepsPlainAt_of_leaf trivial fun _ => id⟩
  | date i =>
      cases h with
      | any => exact huntyped (.inl rfl)
      | date =>
          refine iff_of_true ⟨_, rfl⟩ ⟨.of_leaf trivial trivial, keepsPlainAt_of_leaf trivial ?_⟩
          simp [Rule.IsUntyped]
  | _ =>
      exact iff_of_true ⟨_, rfl⟩
        ⟨.of_leaf trivial trivial, keepsPlainAt_of_leaf trivial fun _ => id⟩

/-- A valid instance is encoded exactly if all numbers in it are finite and the untyped content in
it is plain. -/
theorem exists_encode_iff_of_isInstance (hr : r.Resolved) {i : Instance}
    (hi : r.IsInstance typeName i) :
    (∃ json, r.encode i = .ok json) ↔
      (Value.ofInstance i).Everywhere (·.IsFiniteHere) ∧ r.KeepsPlain i := by
  have hencode := @exists_encodeValue_iff r typeName "" _ _ _ hr hi
  rw [keepsPlainAt_tagged] at hencode
  simpa only [encodeValue_ofInstance_eq_ok, EncodingMode.untypedField?, true_and] using hencode

end Registry

/-- Encoding refuses exactly what cannot be represented: of all instances that a session is given,
those in which some number is not finite, or a date or an instance is in the untyped content of the
instance or of one nested in it. Whatever is refused is an error of the codec. -/
theorem Session.encode_refuses_exactly {s : Session} (hs : s.Reachable) {p : Production}
    (hp : p ∈ s.produced) :
    ((∃ error, p.call.registry.encode p.result = .error error) ↔
      (∃ x, (Value.number x).Inside (.ofInstance p.result) ∧ ¬ x.isFinite) ∨
      ∃ i part, p.call.registry.NestedIn i p.result ∧ p.call.registry.HasUntyped i part ∧
        part.IsTypedOnly) ∧
    ∀ error, p.call.registry.encode p.result = .error error → error.code = .codec := by
  have hr := (hs.isSound.built _ (hs.isSound.registered p hp)).resolved
  have hi := isInstance_of_mem_produced hs hp
  have hencode := Registry.exists_encode_iff_of_isInstance hr hi
  constructor
  · rw [exists_error_iff, hencode, not_and_or, Value.not_everywhere_isFiniteHere]
    simp only [Registry.KeepsPlain, not_forall, not_not, exists_prop]
    refine or_congr_right (exists_congr fun i => ?_)
    simp only [← exists_and_left]
  · intro error herror
    exact Registry.failsOnlyAs_encode hr hi (fun _ _ _ _ => Registry.failsOnlyAs_encodeValue hr)
      error herror

namespace Boards

/-- A board with a date in a list as its note. -/
def datedBoard : Instance :=
  ⟨registry.tag "Board", none,
    [("tasks", .object []), ("events", .array []), ("note", .array [.null, .date newYear])]⟩

/-- Constructing the board with a date in its note. -/
def constructDated : Call :=
  .constructRecord ⟨registry, "Board", _, _, definition?_board, shape_boardDefinition⟩
    [some (.object []), some (.array []), some (.array [.null, .date newYear])]

/-- The session in which the board was constructed. -/
def datedSession : Session :=
  ⟨[registry], [⟨constructDated, datedBoard⟩]⟩

theorem reachable_datedSession : datedSession.Reachable := by
  have hbuild : Session.Step .empty ⟨[registry], []⟩ :=
    .build isStandard_declarations build_declarations
  have hconstruct : Session.Step ⟨[registry], []⟩ datedSession := by
    refine .call List.mem_cons_self ?_ (by simp [constructDated, Call.shapes]) rfl
    simp only [constructDated, Call.values, List.filterMap_cons, id, List.filterMap_nil,
      List.forall_mem_cons]
    refine ⟨.object List.nodup_nil (List.forall_mem_nil _), .array (List.forall_mem_nil _),
      .array ?_, List.forall_mem_nil _⟩
    simpa using ⟨.null, .date _⟩
  exact (Relation.ReflTransGen.single hbuild).tail hconstruct

/-- The date is in untyped content, so that the board cannot be encoded. -/
theorem encode_datedBoard :
    datedSession.Reachable ∧ ⟨constructDated, datedBoard⟩ ∈ datedSession.produced ∧
      ∃ error, registry.encode datedBoard = .error error ∧ error.code = .codec := by
  have hmem : ⟨constructDated, datedBoard⟩ ∈ datedSession.produced := List.mem_cons_self
  have hnote : registry.HasField datedBoard "note"
      { FieldType.ofRule .any with isOptional := true } (.array [.null, .date newYear]) :=
    ⟨_, _, rfl, rfl, List.mem_cons_of_mem _ (List.mem_cons_of_mem _ List.mem_cons_self), rfl⟩
  have hdate : registry.HasUntyped datedBoard (.date newYear) :=
    ⟨_, _, _, hnote, .inl rfl, .item (List.mem_cons_of_mem _ List.mem_cons_self) .refl⟩
  obtain ⟨hiff, hcode⟩ := Session.encode_refuses_exactly reachable_datedSession hmem
  obtain ⟨error, herror⟩ := hiff.mpr (.inr ⟨datedBoard, .date newYear, .refl, hdate, trivial⟩)
  exact ⟨reachable_datedSession, hmem, error, herror, hcode error herror⟩

end Boards

end RecordSchema
