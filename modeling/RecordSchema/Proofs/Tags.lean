import RecordSchema.Proofs.Session

/-!
# Tags of instances

Whatever way an instance comes about, it carries the tag of the type that was asked for. This holds
for decoding too, if the hooks that types have for it do what they are asked: they give an instance
of the type that is named, as long as what they ask for themselves does the same
(`DecodeHook.KeepsTypes`). The main statement is about the calls of a session
(`Call.tag_eq_of_outcome`); `Call.variant_eq_of_outcome` is the same for variants.
-/

namespace RecordSchema

open Outcome

/-- What a hook can ask for gives instances of the types asked for. -/
structure DecodingServices.KeepTypes (services : DecodingServices) (r : Registry) : Prop where
  fields : ∀ {typeName shape i}, services.fields typeName shape = .ok i → i.tag = r.tag typeName
  shape : ∀ {typeName shape i}, services.shape typeName shape = .ok i → i.tag = r.tag typeName

/-- The hook decodes instances of the type that it is asked for, as long as it is given instances of
the types that it asks for itself. -/
def DecodeHook.KeepsTypes (hook : DecodeHook) (r : Registry) : Prop :=
  ∀ {services typeName shape i}, DecodingServices.KeepTypes services r →
    hook services typeName shape = .ok i → i.tag = r.tag typeName

/-- The codec has no hook for decoding, or one that decodes instances of the type asked for. -/
def Codec.KeepsTypes (codec : Codec) (r : Registry) : Prop :=
  ∀ hook, codec.decode? = some hook → hook.KeepsTypes r

/-- The standard codec has no hook. -/
theorem Codec.keepsTypes_standard (r : Registry) : Codec.standard.KeepsTypes r :=
  fun _ h => nomatch h

namespace Registry

/-- All codecs of the registry decode instances of the types asked for. -/
def KeepsTypes (r : Registry) : Prop :=
  ∀ entry ∈ r.types, entry.2.codec.KeepsTypes r

/-- A registry keeps types if the codecs that it was built with do. -/
theorem keepsTypes_of_build {d : Declarations} {r : Registry}
    (hdeclared : ∀ definition ∈ d.definitions, definition.IsDeclared)
    (hcodecs : ∀ entry ∈ d.codecs, entry.2.KeepsTypes r) (h : d.build r.number = .ok r) :
    r.KeepsTypes :=
  forall_codec_of_build (P := (·.KeepsTypes r)) (Codec.keepsTypes_standard r) hdeclared hcodecs h

variable {r : Registry} {typeName : String} {i : Instance}

/-- What is constructed is an instance of the type and the variant that are asked for. -/
theorem tag_of_construct {variant : Option String} {candidate : String → Option Value}
    (h : r.construct typeName variant candidate = .ok i) :
    i.tag = r.tag typeName ∧ i.variant = variant := by
  obtain ⟨_, -, h⟩ := bind_eq_ok.mp h
  obtain ⟨_, -, h⟩ := bind_eq_ok.mp h
  obtain ⟨_, -, h⟩ := bind_eq_ok.mp h
  rw [← pure_eq_ok.mp h]
  exact ⟨rfl, rfl⟩

/-- What is read from a shape is an instance of the type that it is read as. -/
theorem tag_of_adapt {d : TypeDefinition} {shape : Value} (h : r.adapt d shape = .ok i) :
    i.tag = r.tag d.name := by
  have hread : ∀ {members : Entries Value},
      (r.coerceShape d members []).mapError (d.rejected none) = .ok i → i.tag = r.tag d.name := by
    intro members h
    obtain ⟨_, -, -, htag, -⟩ := coerceShape_eq_ok.mp (mapError_eq_ok.mp h)
    exact htag
  cases shape with
  | object members => exact hread h
  | tagged tag variant fields =>
      rw [adapt] at h
      split at h
      next howns =>
          cases h
          exact of_decide_eq_true howns
      next => exact hread h
  | _ => cases h

/-! ## Decoding -/

/-- The runner gives instances of the types asked for, for the hooks of the registry. -/
def RunsTyped (r : Registry) (run : HookRunner) : Prop :=
  ∀ {typeName hook shape i}, DecodeHook.KeepsTypes hook r → run typeName hook shape = .ok i →
    i.tag = r.tag typeName

/-- Fields are decoded to an instance of the type that has them. -/
theorem tag_of_decodeFieldsBy {run : HookRunner} {shape : Json}
    (h : r.decodeFieldsBy run typeName shape = .ok i) : i.tag = r.tag typeName := by
  rw [decodeFieldsBy] at h
  cases hreaders : shape.members?.map (r.memberReaders run) with
  | none =>
      rw [hreaders] at h
      cases h
  | some readers =>
      rw [hreaders] at h
      obtain ⟨_, -, h⟩ := bind_eq_ok.mp h
      obtain ⟨_, -, h⟩ := bind_eq_ok.mp h
      obtain ⟨_, -, h⟩ := bind_eq_ok.mp h
      obtain ⟨_, -, h⟩ := bind_eq_ok.mp h
      exact (tag_of_construct h).1

/-- Whatever a JSON value is, it is decoded by the codec of the type. -/
theorem decoded_reader (run : HookRunner) (typeName : String) (shape : Json) :
    (r.reader run shape).decoded typeName =
      Decoding.byCodec r run typeName shape (shape.members?.map (r.memberReaders run)) := by
  cases shape <;> rfl

/-- A shape is decoded to an instance of the type asked for. -/
theorem tag_of_decoded (hr : r.KeepsTypes) {run : HookRunner} (hrun : r.RunsTyped run)
    {shape : Json} (h : (r.reader run shape).decoded typeName = .ok i) :
    i.tag = r.tag typeName := by
  rw [decoded_reader] at h
  obtain ⟨entry, hentry, h⟩ := bind_eq_ok.mp h
  split at h
  next hook hhook =>
      exact hrun (hr _ (Entries.mem_of_get? (lookup_eq_ok.mp hentry)) hook hhook) h
  next => exact tag_of_decodeFieldsBy h

/-- Hooks that call each other up to some depth give instances of the types asked for. -/
theorem runsTyped_runHook (hr : r.KeepsTypes) (depth : Nat) : r.RunsTyped (r.runHook depth) := by
  -- What a hook asks for is decoded with one level less.
  induction depth with
  | zero => exact fun _ h => nomatch h
  | succ depth ih => exact fun hhook h => hhook ⟨tag_of_decodeFieldsBy, tag_of_decoded hr ih⟩ h

/-- What is decoded is an instance of the type asked for. -/
theorem tag_of_decode (hr : r.KeepsTypes) {shape : Json} (h : r.decode typeName shape = .ok i) :
    i.tag = r.tag typeName :=
  tag_of_decoded hr (runsTyped_runHook hr _) h

end Registry

/-! ## Calls -/

/-- A variant reads shapes as its own instances. -/
theorem VariantHandle.tag_of_fromShape {h : VariantHandle} {shape : Value} {i : Instance}
    (hi : h.fromShape shape = .ok i) :
    i.tag = h.union.registry.tag h.union.name ∧ i.variant = some h.name := by
  cases shape with
  | object members => exact Registry.tag_of_construct hi
  | tagged tag variant fields =>
      rw [VariantHandle.fromShape] at hi
      split at hi
      next howns =>
          cases hi
          rw [VariantHandle.owns, Bool.and_eq_true, beq_iff_eq] at howns
          exact ⟨of_decide_eq_true howns.1, howns.2⟩
      next => exact Registry.tag_of_construct hi
  | _ => cases hi

/-- A variant updates its own instances. -/
theorem VariantHandle.tag_of_update {h : VariantHandle} {i result : Instance}
    {changes : List (String × Option Value)} (hresult : h.update i changes = .ok result) :
    result.tag = h.union.registry.tag h.union.name ∧ result.variant = some h.name := by
  rw [VariantHandle.update] at hresult
  split at hresult
  · cases hresult
  · obtain ⟨merged, -, hresult⟩ := bind_eq_ok.mp hresult
    exact Registry.tag_of_construct hresult

/-- An instance of a union is updated by the variant that it is of. -/
theorem UnionHandle.tag_of_update {h : UnionHandle} {i result : Instance}
    {changes : List (String × Option Value)} (hresult : h.update i changes = .ok result) :
    result.tag = h.registry.tag h.name ∧ result.variant = some (i.variant.getD "") := by
  obtain ⟨owned, howned, hresult⟩ := bind_eq_ok.mp hresult
  obtain ⟨variant, hvariant, hresult⟩ := bind_eq_ok.mp hresult
  rw [UnionHandle.eq_of_owned howned, UnionHandle.variant] at hvariant
  split at hvariant
  · cases hvariant
    exact VariantHandle.tag_of_update hresult
  · cases hvariant

namespace Call

/-- The variant that is asked for: that of the handle, that of the instance to be updated, or the
one that a shape names. -/
def variant? : Call → Option String
  | constructVariant h _ | readVariant h _ | updateVariant h _ _ => some h.name
  | updateUnion _ i _ => i.variant
  | readUnion h (.object members) => (h.registry.shapeVariant? h.definition members).join
  | _ => none

variable {call : Call} {i : Instance}

/-- The type that is asked for is declared. -/
theorem exists_definition (call : Call) :
    ∃ d, call.registry.definition? call.typeName = some d := by
  cases call with
  | constructRecord h | readRecord h | updateRecord h | decodeRecord h => exact ⟨_, h.is_declared⟩
  | readUnion h | updateUnion h | decodeUnion h => exact ⟨_, h.is_declared⟩
  | constructVariant h | readVariant h | updateVariant h => exact ⟨_, h.union.is_declared⟩

/-- A call gives an instance of the type that it asks for. -/
theorem tag_eq_of_outcome (hchecked : call.registry.Checked) (hcodecs : call.registry.KeepsTypes)
    (hi : call.outcome = .ok i) : i.tag = call.registry.tag call.typeName := by
  cases call with
  | constructRecord h arguments =>
      obtain ⟨candidate, -, hi⟩ := bind_eq_ok.mp hi
      exact (Registry.tag_of_construct hi).1
  | readRecord h shape =>
      rw [Registry.tag_of_adapt hi, hchecked.name_eq h.is_declared]
      rfl
  | updateRecord h i changes =>
      obtain ⟨owned, -, hi⟩ := bind_eq_ok.mp hi
      obtain ⟨merged, -, hi⟩ := bind_eq_ok.mp hi
      exact (Registry.tag_of_construct hi).1
  | decodeRecord h shape => exact Registry.tag_of_decode hcodecs hi
  | readUnion h shape =>
      rw [Registry.tag_of_adapt hi, hchecked.name_eq h.is_declared]
      rfl
  | updateUnion h i changes => exact (UnionHandle.tag_of_update hi).1
  | decodeUnion h shape => exact Registry.tag_of_decode hcodecs hi
  | constructVariant h arguments =>
      obtain ⟨candidate, -, hi⟩ := bind_eq_ok.mp hi
      exact (Registry.tag_of_construct hi).1
  | readVariant h shape => exact (VariantHandle.tag_of_fromShape hi).1
  | updateVariant h i changes => exact (VariantHandle.tag_of_update hi).1

/-- A call that asks for a variant gives an instance of it. -/
theorem variant_eq_of_outcome {variant : String} (hvariant : call.variant? = some variant)
    (hi : call.outcome = .ok i) : i.variant = some variant := by
  cases call with
  | readUnion h shape =>
      cases shape with
      | object members =>
          obtain ⟨_, hshape, -⟩ := Registry.coerceShape_eq_ok.mp (mapError_eq_ok.mp hi)
          rw [variant?, hshape, Option.join_some] at hvariant
          exact hvariant
      | _ => cases hvariant
  | updateUnion h i changes =>
      have hold : i.variant = some variant := hvariant
      rw [(UnionHandle.tag_of_update hi).2, hold, Option.getD_some]
  | constructVariant h arguments =>
      obtain ⟨candidate, -, hi⟩ := bind_eq_ok.mp hi
      exact (Registry.tag_of_construct hi).2.trans hvariant
  | readVariant h shape => exact (VariantHandle.tag_of_fromShape hi).2.trans hvariant
  | updateVariant h i changes => exact (VariantHandle.tag_of_update hi).2.trans hvariant
  | _ => cases hvariant

end Call

end RecordSchema
