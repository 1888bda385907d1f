import RecordSchema.Construction
import RecordSchema.Proofs.Validity

/-!
# Constructed instances

What constructing an instance from candidates and adapting a shape come to (`construct_eq_ok`,
`adapt_object_eq_ok`), and that both give valid instances when what they are given is sound.
-/

namespace RecordSchema

open Outcome

/-- Arguments in order of declaration are the only candidates. -/
theorem mem_of_positional {typeName : String} {declared : Fields} {arguments : List (Option Value)}
    {candidate : String → Option Value}
    (h : positional typeName declared arguments = .ok candidate) {name : String} {value : Value}
    (hvalue : candidate name = some value) : some value ∈ arguments := by
  rw [positional] at h
  split at h
  · cases h
  · cases h
    exact (List.of_mem_zip (Entries.mem_of_get? (Option.join_eq_some_iff.mp hvalue))).2

/-- Merged fields are those that were present and those that changes give. -/
theorem mem_of_mergeChanges {typeName : String} {declared : Fields} {present merged : Entries Value}
    {changes : List (String × Option Value)}
    (h : mergeChanges typeName declared present changes = .ok merged) {entry : String × Value}
    (hentry : entry ∈ merged) : entry ∈ present ∨ (entry.1, some entry.2) ∈ changes := by
  induction changes generalizing present with
  | nil =>
      cases h
      exact .inl hentry
  | cons change changes ih =>
      obtain ⟨field, change⟩ := change
      unfold mergeChanges at h
      split at h
      · cases change with
        | some value =>
            rcases ih h with hput | hchange
            · rcases Entries.mem_of_mem_put hput with rfl | hpresent
              · exact .inr List.mem_cons_self
              · exact .inl hpresent
            · exact .inr (List.mem_cons_of_mem _ hchange)
        | none =>
            rcases ih h with herased | hchange
            · exact .inl (Entries.mem_of_mem_erase herased)
            · exact .inr (List.mem_cons_of_mem _ hchange)
      · cases h

namespace Registry

variable {r : Registry} {typeName : String} {d : TypeDefinition} {i : Instance}

/-- The fields to construct are those of the variant of the definition. -/
theorem fieldsToConstruct_eq_ok {variant : Option String} {declared : Fields} :
    fieldsToConstruct d variant = .ok declared ↔ d.fieldsOf? variant = some declared := by
  obtain ⟨name, _ | variants, idField⟩ := d
  · cases variant <;>
      simp [fieldsToConstruct, TypeDefinition.fieldsOf?, TypeDefinition.fields?, Shape.fields?,
        TypeDefinition.variant?, TypeDefinition.variants?, Shape.variants?]
  · cases variant with
    | none =>
        simp [fieldsToConstruct, TypeDefinition.fieldsOf?, TypeDefinition.fields?, Shape.fields?]
    | some variant =>
        cases hget : variants.get? variant <;>
          simp [fieldsToConstruct, TypeDefinition.fieldsOf?, TypeDefinition.variant?,
            TypeDefinition.variants?, Shape.variants?, hget]

/-- An instance is constructed when every declared field takes its candidate, and has the normal
forms as its fields. -/
theorem construct_eq_ok (hr : r.Checked) {variant : Option String}
    {candidate : String → Option Value} :
    r.construct typeName variant candidate = .ok i ↔
      ∃ d declared, r.definition? typeName = some d ∧ d.fieldsOf? variant = some declared ∧
        i.tag = r.tag typeName ∧ i.variant = variant ∧ i.fields.names.Sublist declared.names ∧
        ∀ field ∈ declared, r.AcceptsField field.2 (candidate field.1) (i.fields.get? field.1) := by
  have hfields : ∀ {d : TypeDefinition} {declared : Fields} {present : Entries Value},
      r.definition? typeName = some d → d.fieldsOf? variant = some declared →
      (Coercion.fields (fun name ↦ (candidate name).map r.coerceValue) [] declared = .ok present ↔
        present.names.Sublist declared.names ∧
          ∀ field ∈ declared,
            r.AcceptsField field.2 (candidate field.1) (present.get? field.1)) := by
    intro d declared present hd hdeclared
    rw [fields_eq_ok ((hr.names hd).distinct hdeclared)]
    simp only [field_eq_ok fun value _ path normal => coerceValue_eq_ok hr path]
  constructor
  · intro h
    obtain ⟨d, hd, h⟩ := bind_eq_ok.mp h
    obtain ⟨declared, hdeclared, h⟩ := bind_eq_ok.mp h
    obtain ⟨present, hpresent, h⟩ := bind_eq_ok.mp h
    rw [definition_eq_ok] at hd
    rw [fieldsToConstruct_eq_ok] at hdeclared
    obtain ⟨hsub, hpresent⟩ := (hfields hd hdeclared).mp (mapError_eq_ok.mp hpresent)
    rw [← pure_eq_ok.mp h]
    exact ⟨d, declared, hd, hdeclared, rfl, rfl, hsub, hpresent⟩
  · intro h
    obtain ⟨d, declared, hd, hdeclared, htag, hvariant, hsub, hpresent⟩ := h
    refine bind_eq_ok.mpr ⟨d, definition_eq_ok.mpr hd, ?_⟩
    refine bind_eq_ok.mpr ⟨declared, fieldsToConstruct_eq_ok.mpr hdeclared, ?_⟩
    refine bind_eq_ok.mpr ⟨i.fields, mapError_eq_ok.mpr ?_, ?_⟩
    · exact (hfields hd hdeclared).mpr ⟨hsub, hpresent⟩
    · rw [← htag, ← hvariant]
      rfl

/-- An object is adapted when it is accepted where the type is expected. -/
theorem adapt_object_eq_ok (hr : r.Checked) (hd : r.definition? typeName = some d)
    {members : Entries Value} :
    r.adapt d (.object members) = .ok i ↔
      r.Accepts (.tagged typeName) 0 (.object members) (.ofInstance i) := by
  rw [adapt, mapError_eq_ok, ← coerceValue_eq_ok hr [], coerceValue, hd, map_eq_ok]
  simp only [Value.ofInstance_inj, exists_eq_right]
  rfl

section Sound

variable {registries : List Registry}

/-- What is constructed from sound candidates is valid and sound. -/
theorem isInstance_of_construct (hr : r.Checked) (hmem : r ∈ registries)
    (hnumbers : ∀ other ∈ registries, other.number = r.number → other = r)
    {variant : Option String} {candidate : String → Option Value}
    (hsound : ∀ name, ∀ value ∈ candidate name, value.Sound registries)
    (h : r.construct typeName variant candidate = .ok i) :
    r.IsInstance typeName i ∧ (Value.ofInstance i).Sound registries := by
  obtain ⟨tag, variant, fields⟩ := i
  obtain ⟨d, declared, hd, hdeclared, rfl, rfl, hsub, hfields⟩ := (construct_eq_ok hr).mp h
  refine meets_of_fields hr hmem hd hdeclared hsub (valid_of_acceptsField ?_ hfields)
  intro name value hvalue rule depth normal haccepts
  exact haccepts.meets hr hmem hnumbers (hsound name value hvalue)

/-- The fields of a sound instance are sound as the members of an object. -/
theorem sound_object_of_sound_tagged (hchecked : ∀ other ∈ registries, other.Checked)
    {tag : TypeTag} {variant : Option String} {fields : Entries Value}
    (h : (Value.tagged tag variant fields).Sound registries) :
    (Value.object fields).Sound registries := by
  obtain ⟨⟨other, hother, name, hvalid⟩, hfields⟩ := Value.everywhere_tagged.mp h
  refine Value.everywhere_object.mpr ⟨?_, hfields⟩
  cases hvalid with
  | tagged hd hdeclared hsub =>
      exact hsub.nodup (((hchecked other hother).names hd).distinct hdeclared)

/-- What is adapted from a sound shape is valid and sound. -/
theorem isInstance_of_adapt (hchecked : ∀ other ∈ registries, other.Checked)
    (hmem : r ∈ registries) (hnumbers : ∀ other ∈ registries, other.number = r.number → other = r)
    (hd : r.definition? typeName = some d) {shape : Value} (hsound : shape.Sound registries)
    (h : r.adapt d shape = .ok i) :
    r.IsInstance typeName i ∧ (Value.ofInstance i).Sound registries := by
  have hr := hchecked r hmem
  have hobject : ∀ {members : Entries Value}, (Value.object members).Sound registries →
      r.adapt d (.object members) = .ok i →
      r.IsInstance typeName i ∧ (Value.ofInstance i).Sound registries :=
    fun hsound h => ((adapt_object_eq_ok hr hd).mp h).meets hr hmem hnumbers hsound
  cases shape with
  | object members => exact hobject hsound h
  | tagged tag variant fields =>
      rw [adapt] at h
      split at h
      next howns =>
          cases h
          obtain rfl : tag = r.tag d.name := of_decide_eq_true howns
          rw [hr.name_eq hd] at hsound ⊢
          exact ⟨isInstance_of_sound hnumbers hsound, hsound⟩
      next => exact hobject (sound_object_of_sound_tagged hchecked hsound) h
  | _ => cases h

end Sound

end Registry

end RecordSchema
