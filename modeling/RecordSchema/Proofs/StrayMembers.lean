import RecordSchema.Proofs.NormalForms
import RecordSchema.Proofs.Reading
import RecordSchema.Proofs.WaysToBuild

/-!
# Members that do not matter

A shape is looked up by the names of declared fields, so the order of its members does not matter,
and neither do members that are neither declared nor name the variant. `Registry.Reshapes` is one
such change, at any place of a shape where a record or a union is expected, and leaves untyped
content alone. It is the same relation for plain values and for JSON values, which are both made of
arrays and objects (`ShapeForm`), and what is read from shapes of either kind is read alike if parts
that are read alike make wholes that are (`Registry.ReadsByParts`). So one step changes nothing of
what is read (`Reshapes.readsAlike`), and then no number of steps does
(`Registry.only_declared_members_matter`).
-/

namespace RecordSchema

open Outcome

/-- The instance is of a variant of the type, and its present fields are in order of declaration. -/
def TypeDefinition.OrdersFields (d : TypeDefinition) (i : Instance) : Prop :=
  ∃ declared, d.fieldsOf? i.variant = some declared ∧ i.fields.names.Sublist declared.names

/-! ## Reshaping -/

/-- Shapes of one kind: the arrays and objects that are made of them, and the plain value that each
of them is. -/
structure ShapeForm (α : Type) where
  array : List α → α
  object : Entries α → α
  plain : α → Value
  array_has_parts : ∀ items, ¬ (plain (array items)).IsLeaf
  object_has_parts : ∀ members, ¬ (plain (object members)).IsLeaf

/-- Plain values as shapes. -/
def ShapeForm.values : ShapeForm Value :=
  ⟨.array, .object, id, fun _ => id, fun _ => id⟩

/-- JSON values as shapes. -/
def ShapeForm.jsons : ShapeForm Json :=
  ⟨.array, .object, .ofJson, fun _ => id, fun _ => id⟩

namespace Registry

variable {α : Type}

/-- The variant that a shape of the type names, if it is a shape of a union. -/
def variantNamed? (r : Registry) (form : ShapeForm α) (d : TypeDefinition) (members : Entries α) :
    Option (Option String) :=
  r.shapeVariant? d (members.mapValues form.plain)

/-- A member of this name does not matter for shapes of the type that have these members: it does
not name the variant of a union, and it is no field of the record or of the variant that is named.
-/
structure IsStray (r : Registry) (form : ShapeForm α) (d : TypeDefinition) (members : Entries α)
    (name : String) : Prop where
  ne_variantKey : d.isUnion → r.config.codec.variantKey ≠ name
  undeclared : ∀ variant declared, r.variantNamed? form d members = some variant →
    d.fieldsOf? variant = some declared → name ∉ declared.names

/-- `r.Reshapes form rule depth shape other` says that `other` is `shape`, under the rule and inside
`depth` arrays, with the members of one object in another order or with a stray member more. The
object stands where a type is expected: at the top, in a field of such an object, in an array or in
a keyed collection. -/
inductive Reshapes (r : Registry) (form : ShapeForm α) : Rule → Nat → α → α → Prop where
  | permute {typeName d} {members others : Entries α} : r.definition? typeName = some d →
      members.names.Nodup → members.Perm others →
      Reshapes r form (.tagged typeName) 0 (form.object members) (form.object others)
  | stray {typeName d name part} {before after : Entries α} : r.definition? typeName = some d →
      (Entries.names (before ++ (name, part) :: after)).Nodup →
      r.IsStray form d (before ++ after) name →
      Reshapes r form (.tagged typeName) 0 (form.object (before ++ after))
        (form.object (before ++ (name, part) :: after))
  | field {typeName d variant declared name type part other} {before after : Entries α} :
      r.definition? typeName = some d →
      (Entries.names (before ++ (name, part) :: after)).Nodup →
      r.variantNamed? form d (before ++ (name, part) :: after) = some variant →
      d.fieldsOf? variant = some declared → (name, type) ∈ declared →
      Reshapes r form type.rule type.depth part other →
      Reshapes r form (.tagged typeName) 0 (form.object (before ++ (name, part) :: after))
        (form.object (before ++ (name, other) :: after))
  | item {rule depth part other before after} : Reshapes r form rule depth part other →
      Reshapes r form rule (depth + 1) (form.array (before ++ part :: after))
        (form.array (before ++ other :: after))
  | keyedItem {typeName idField part other before after} :
      Reshapes r form (.tagged typeName) 0 part other →
      Reshapes r form (.keyed typeName idField) 0 (form.array (before ++ part :: after))
        (form.array (before ++ other :: after))
  | keyedMember {typeName idField key part other} {before after : Entries α} :
      Reshapes r form (.tagged typeName) 0 part other →
      Reshapes r form (.keyed typeName idField) 0 (form.object (before ++ (key, part) :: after))
        (form.object (before ++ (key, other) :: after))

/-- What is read from shapes under a rule inside `depth` arrays. -/
abbrev Reading (α : Type) := Rule → Nat → α → Value → Prop

/-- The same is read from both shapes. -/
def ReadsAlike (reads : Reading α) (rule : Rule) (depth : Nat) (part other : α) : Prop :=
  ∀ value, reads rule depth part value ↔ reads rule depth other value

/-- The same is read from both shapes for a field of the type, and both are null or none is. -/
structure ReadsAlikeFor (form : ShapeForm α) (reads : Reading α) (type : FieldType)
    (part other : α) : Prop where
  null_iff : form.plain part = .null ↔ form.plain other = .null
  alike : ReadsAlike reads type.rule type.depth part other

/-- What is read from shapes depends on their parts as it should: wholes are read alike if parts in
the same places are, where only declared fields are parts of a shape of a type. -/
structure ReadsByParts (r : Registry) (form : ShapeForm α) (reads : Reading α) : Prop where
  array : ∀ {rule depth items others}, List.Forall₂ (ReadsAlike reads rule depth) items others →
    ReadsAlike reads rule (depth + 1) (form.array items) (form.array others)
  keyedItems : ∀ {typeName idField items others},
    List.Forall₂ (ReadsAlike reads (.tagged typeName) 0) items others →
    ReadsAlike reads (.keyed typeName idField) 0 (form.array items) (form.array others)
  keyedMembers : ∀ {typeName idField} {members others : Entries α},
    List.Forall₂ (fun member other => member.1 = other.1 ∧
      ReadsAlike reads (.tagged typeName) 0 member.2 other.2) members others →
    ReadsAlike reads (.keyed typeName idField) 0 (form.object members) (form.object others)
  shape : ∀ {typeName d} {members others : Entries α}, r.definition? typeName = some d →
    members.names.Nodup → others.names.Nodup →
    r.variantNamed? form d members = r.variantNamed? form d others →
    (∀ variant declared, r.variantNamed? form d members = some variant →
      d.fieldsOf? variant = some declared → ∀ field ∈ declared,
        Option.Rel (ReadsAlikeFor form reads field.2) (members.get? field.1)
          (others.get? field.1)) →
    ReadsAlike reads (.tagged typeName) 0 (form.object members) (form.object others)

section Steps

variable {r : Registry} {form : ShapeForm α} {reads : Reading α} {rule : Rule} {depth : Nat}
  {part other : α} {d : TypeDefinition} {members others : Entries α}

/-- The variant is named by the member under the variant key only. -/
theorem variantNamed?_congr (h : d.isUnion → members.get? r.config.codec.variantKey =
    others.get? r.config.codec.variantKey) :
    r.variantNamed? form d members = r.variantNamed? form d others := by
  obtain ⟨name, _ | variants, idField⟩ := d
  · rfl
  · simp only [variantNamed?, shapeVariant?, Entries.get?_mapValues, h rfl]

/-- Only what has parts is reshaped. -/
theorem Reshapes.has_parts (h : r.Reshapes form rule depth part other) :
    ¬ (form.plain part).IsLeaf ∧ ¬ (form.plain other).IsLeaf := by
  cases h with
  | item | keyedItem => exact ⟨form.array_has_parts _, form.array_has_parts _⟩
  | _ => exact ⟨form.object_has_parts _, form.object_has_parts _⟩

/-- What has parts does not name a variant. -/
theorem variantNamed?_of_has_parts (hunion : d.isUnion) (hpart : ¬ (form.plain part).IsLeaf)
    (hmember : members.get? r.config.codec.variantKey = some part) :
    r.variantNamed? form d members = none := by
  obtain ⟨name, _ | variants, idField⟩ := d
  · cases hunion
  · simp only [variantNamed?, shapeVariant?, Entries.get?_mapValues, hmember, Option.map_some]
    cases hplain : form.plain part with
    | string => exact absurd (hplain ▸ trivial) hpart
    | _ => rfl

/-- A member is read for a field as itself. -/
theorem readsAlikeFor_self {type : FieldType} (part? : Option α) :
    Option.Rel (ReadsAlikeFor form reads type) part? part? := by
  cases part? with
  | none => exact .none
  | some part => exact .some ⟨Iff.rfl, fun _ => Iff.rfl⟩

section Shapes

variable {typeName name : String} {before after : Entries α}

/-- The order of members does not matter. -/
theorem ReadsByParts.readsAlike_of_perm (hreads : r.ReadsByParts form reads)
    (hd : r.definition? typeName = some d) (hdistinct : members.names.Nodup)
    (hperm : members.Perm others) :
    ReadsAlike reads (.tagged typeName) 0 (form.object members) (form.object others) := by
  have hget := Entries.get?_perm hperm hdistinct
  refine hreads.shape hd hdistinct ((hperm.map _).nodup_iff.mp hdistinct)
    (variantNamed?_congr fun _ => hget _) fun _ _ _ _ field _ => ?_
  rw [hget]
  exact readsAlikeFor_self _

/-- A stray member does not matter. -/
theorem ReadsByParts.readsAlike_of_isStray (hreads : r.ReadsByParts form reads)
    (hd : r.definition? typeName = some d)
    (hdistinct : (Entries.names (before ++ (name, part) :: after)).Nodup)
    (hstray : r.IsStray form d (before ++ after) name) :
    ReadsAlike reads (.tagged typeName) 0 (form.object (before ++ after))
      (form.object (before ++ (name, part) :: after)) := by
  have hdistinct' : (Entries.names (before ++ after)).Nodup := by
    simp only [Entries.names_append, Entries.names_cons] at hdistinct ⊢
    exact hdistinct.sublist ((List.sublist_cons_self _ _).append_left _)
  refine hreads.shape hd hdistinct' hdistinct (variantNamed?_congr fun hunion => ?_)
    fun variant declared hvariant hdeclared field hfield => ?_
  · exact (Entries.get?_append_cons_of_ne (hstray.ne_variantKey hunion).symm).symm
  · have hne : name ≠ field.1 := fun heq =>
      hstray.undeclared variant declared hvariant hdeclared (heq ▸ List.mem_map_of_mem hfield)
    rw [Entries.get?_append_cons_of_ne hne]
    exact readsAlikeFor_self _

/-- Shapes are read alike that have in a declared field what is read alike and has parts. -/
theorem ReadsByParts.readsAlike_of_field (hr : r.Checked) (hreads : r.ReadsByParts form reads)
    {variant : Option String} {declared : Fields} {type : FieldType}
    (hd : r.definition? typeName = some d)
    (hdistinct : (Entries.names (before ++ (name, part) :: after)).Nodup)
    (hvariant : r.variantNamed? form d (before ++ (name, part) :: after) = some variant)
    (hdeclared : d.fieldsOf? variant = some declared) (htype : (name, type) ∈ declared)
    (hpart : ¬ (form.plain part).IsLeaf) (hother : ¬ (form.plain other).IsLeaf)
    (halike : ReadsAlike reads type.rule type.depth part other) :
    ReadsAlike reads (.tagged typeName) 0 (form.object (before ++ (name, part) :: after))
      (form.object (before ++ (name, other) :: after)) := by
  have hdistinct' : (Entries.names (before ++ (name, other) :: after)).Nodup := by
    simpa using hdistinct
  have hmember := Entries.get?_append_cons_self hdistinct
  refine hreads.shape hd hdistinct hdistinct' (variantNamed?_congr fun hunion => ?_)
    fun variant' declared' hvariant' hdeclared' field hfield => ?_
  · have hne : name ≠ r.config.codec.variantKey := by
      rintro rfl
      cases hvariant.symm.trans (variantNamed?_of_has_parts hunion hpart hmember)
    rw [Entries.get?_append_cons_of_ne hne, Entries.get?_append_cons_of_ne hne]
  · cases hvariant.symm.trans hvariant'
    cases hdeclared.symm.trans hdeclared'
    by_cases hname : name = field.1
    · have hnames := (hr.names hd).distinct hdeclared
      have hsame := (Entries.get?_of_mem hnames htype).symm.trans
        (hname ▸ Entries.get?_of_mem hnames hfield)
      obtain rfl : type = field.2 := Option.some.inj hsame
      rw [← hname, hmember, Entries.get?_append_cons_self hdistinct']
      refine .some ⟨iff_of_false ?_ ?_, halike⟩
      · exact fun hnull => hpart (hnull ▸ trivial)
      · exact fun hnull => hother (hnull ▸ trivial)
    · rw [Entries.get?_append_cons_of_ne hname, Entries.get?_append_cons_of_ne hname]
      exact readsAlikeFor_self _

end Shapes

/-- One step changes nothing of what is read. -/
theorem Reshapes.readsAlike (hr : r.Checked) (hreads : r.ReadsByParts form reads)
    (h : r.Reshapes form rule depth part other) : ReadsAlike reads rule depth part other := by
  have hrefl : ∀ {rule depth} (part : α), ReadsAlike reads rule depth part part :=
    fun _ _ => Iff.rfl
  induction h with
  | permute hd hdistinct hperm => exact hreads.readsAlike_of_perm hd hdistinct hperm
  | stray hd hdistinct hstray => exact hreads.readsAlike_of_isStray hd hdistinct hstray
  | field hd hdistinct hvariant hdeclared htype hstep ih =>
      obtain ⟨hpart, hother⟩ := hstep.has_parts
      exact hreads.readsAlike_of_field hr hd hdistinct hvariant hdeclared htype hpart hother ih
  | item hstep ih => exact hreads.array (forall₂_replace hrefl ih _ _)
  | keyedItem hstep ih => exact hreads.keyedItems (forall₂_replace hrefl ih _ _)
  | keyedMember hstep ih =>
      refine hreads.keyedMembers (forall₂_replace (fun member => ?_) ⟨rfl, ih⟩ _ _)
      exact ⟨rfl, hrefl member.2⟩

end Steps

/-! ## Values and JSON values -/

section Values

variable {r : Registry} {typeName : String} {d : TypeDefinition} {name : String}

/-- The variant that a shape names among plain values. -/
theorem variantNamed?_values (members : Entries Value) :
    r.variantNamed? .values d members = r.shapeVariant? d members :=
  congrArg _ (List.map_id members)

/-- Where each key stands once, a field is looked up under its name unless it has that of the
variant key. -/
theorem get?_fieldMembers_of_nodup {members : Entries Value} (hdistinct : members.names.Nodup) :
    (r.fieldMembers d members).get? name =
      if d.isUnion ∧ r.config.codec.variantKey = name then none else members.get? name := by
  rw [fieldMembers]
  split
  next hunion =>
      split
      next hkey => rw [← hkey.2, Entries.get?_erase_self hdistinct]
      next hkey => exact Entries.get?_erase_of_ne (fun heq => hkey ⟨hunion, heq⟩) members
  next hrecord => rw [if_neg fun hkey => hrecord hkey.1]

/-- A field is taken from one candidate as from another that is read alike. -/
theorem acceptsField_congr {type : FieldType} {candidate other result : Option Value}
    (h : Option.Rel (ReadsAlikeFor .values r.Accepts type) candidate other) :
    r.AcceptsField type candidate result ↔ r.AcceptsField type other result := by
  rw [acceptsField_iff, acceptsField_iff]
  cases h with
  | none => rfl
  | some h => simp [h.alike _]

/-- A plain object is accepted where a type is expected if the variant that it names is declared and
has fields that take its members. -/
theorem accepts_shape_iff {members : Entries Value} {normal : Value}
    (hd : r.definition? typeName = some d) :
    r.Accepts (.tagged typeName) 0 (.object members) normal ↔
      ∃ variant declared, r.shapeVariant? d members = some variant ∧
        d.fieldsOf? variant = some declared ∧ ∃ fields : Entries Value,
        normal = .tagged (r.tag typeName) variant fields ∧ fields.names.Sublist declared.names ∧
        ∀ field ∈ declared, r.AcceptsField field.2 ((r.fieldMembers d members).get? field.1)
          (fields.get? field.1) := by
  constructor
  · intro h
    cases h with
    | @shape _ _ variant declared _ fields hd' hvariant hdeclared hsub hfields =>
        cases hd.symm.trans hd'
        exact ⟨variant, declared, hvariant, hdeclared, fields, rfl, hsub, hfields⟩
  · rintro ⟨variant, declared, hvariant, hdeclared, fields, rfl, hsub, hfields⟩
    exact .shape hd hvariant hdeclared hsub hfields

/-- Plain values are accepted by their parts. -/
theorem readsByParts_accepts : r.ReadsByParts .values r.Accepts where
  array h value := by
    refine accepts_array_iff.trans (Iff.trans ?_ accepts_array_iff.symm)
    exact exists_congr fun normals => and_congr_right fun _ => forall₂_iff_of_alike h normals
  keyedItems h value := iff_of_false (fun h => nomatch h) fun h => nomatch h
  keyedMembers {typeName idField members others} h value := by
    cases idField with
    | none => exact iff_of_false (fun h => nomatch h) fun h => nomatch h
    | some idField =>
        refine accepts_keyed_iff.trans (Iff.trans ?_ accepts_keyed_iff.symm)
        refine exists_congr fun normals => and_congr_right fun _ => and_congr_left fun _ => ?_
        refine forall₂_iff_of_alike (h.imp fun member other hmember normal => ?_) normals
        rw [hmember.1, hmember.2]
  shape {typeName d members others} hd hmembers hothers hvariant hfields value := by
    simp only [variantNamed?_values] at hvariant hfields
    refine (accepts_shape_iff hd).trans (Iff.trans ?_ (accepts_shape_iff hd).symm)
    rw [← hvariant]
    refine exists_congr fun variant => exists_congr fun declared => and_congr_right fun hnamed =>
      and_congr_right fun hdeclared => exists_congr fun fields => and_congr_right fun _ =>
      and_congr_right fun _ => forall₂_congr fun field hfield => acceptsField_congr ?_
    rw [get?_fieldMembers_of_nodup hmembers, get?_fieldMembers_of_nodup hothers]
    split
    · exact .none
    · exact hfields variant declared hnamed hdeclared field hfield

/-- The variant that a shape names among JSON values. -/
theorem variantNamed?_jsons (members : Entries Json) :
    r.variantNamed? .jsons d members = r.shapeVariant? d (Value.ofJsonMembers members) := by
  rw [Value.ofJsonMembers_eq_mapValues]
  rfl

/-- Only a null reads as absent. -/
theorem readsAsAbsent_of_ne_null {type : FieldType} {json : Json} (h : Value.ofJson json ≠ .null) :
    r.readsAsAbsent type json = false := by
  cases json with
  | null => exact absurd rfl h
  | _ => rfl

/-- A field is decoded from one member as from another that is read alike. -/
theorem decodesField_congr {type : FieldType} {members others : Entries Json}
    {result : Option Value} (h : Option.Rel (ReadsAlikeFor .jsons r.Decodes type)
      (members.get? name) (others.get? name)) :
    r.DecodesField type (r.memberFor? type members name) result ↔
      r.DecodesField type (r.memberFor? type others name) result := by
  rw [memberFor?, memberFor?]
  generalize members.get? name = part? at h
  generalize others.get? name = other? at h
  cases h with
  | none => rfl
  | @some part other h =>
      have habsent : r.readsAsAbsent type part = r.readsAsAbsent type other := by
        by_cases hnull : Value.ofJson part = .null
        · have hnull' : Value.ofJson other = .null := h.null_iff.mp hnull
          cases part <;> cases hnull
          cases other <;> cases hnull'
          rfl
        · have hnull' : Value.ofJson other ≠ .null := mt h.null_iff.mpr hnull
          rw [readsAsAbsent_of_ne_null hnull, readsAsAbsent_of_ne_null hnull']
      rw [Option.filter_some, Option.filter_some, habsent]
      split
      · rw [decodesField_iff, decodesField_iff]
        simp [h.alike _]
      · rfl

/-- An object is decoded where a type is expected if the variant that it names is declared and has
fields that are decoded from its members. -/
theorem decodes_shape_iff_exists {members : Entries Json} {value : Value}
    (hd : r.definition? typeName = some d) :
    r.Decodes (.tagged typeName) 0 (.object members) value ↔
      ∃ variant declared, r.shapeVariant? d (Value.ofJsonMembers members) = some variant ∧
        d.fieldsOf? variant = some declared ∧ ∃ fields : Entries Value,
        value = .tagged (r.tag typeName) variant fields ∧ fields.names.Sublist declared.names ∧
        ∀ field ∈ declared, r.DecodesField field.2 (r.memberFor? field.2 members field.1)
          (fields.get? field.1) := by
  constructor
  · intro h
    cases h with
    | @shape _ _ variant declared _ fields hd' hvariant hdeclared hsub hfields =>
        cases hd.symm.trans hd'
        exact ⟨variant, declared, hvariant, hdeclared, fields, rfl, hsub, hfields⟩
  · rintro ⟨variant, declared, hvariant, hdeclared, h⟩
    exact (decodes_tagged_iff hd hvariant hdeclared).mpr h

/-- JSON values are decoded by their parts. -/
theorem readsByParts_decodes : r.ReadsByParts .jsons r.Decodes where
  array h value := by
    refine decodes_array_iff.trans (Iff.trans ?_ decodes_array_iff.symm)
    exact exists_congr fun values => and_congr_right fun _ => forall₂_iff_of_alike h values
  keyedItems {typeName idField items others} h value := by
    cases idField with
    | none => exact iff_of_false (fun h => nomatch h) fun h => nomatch h
    | some idField =>
        refine decodes_keyedItems_iff.trans (Iff.trans ?_ decodes_keyedItems_iff.symm)
        refine exists_congr fun members => and_congr_right fun _ => and_congr_left fun _ => ?_
        refine forall₂_iff_of_alike (h.imp fun item other hitem member => ?_) members
        exact hitem member.2
  keyedMembers {typeName idField members others} h value := by
    cases idField with
    | none => exact iff_of_false (fun h => nomatch h) fun h => nomatch h
    | some idField =>
        refine decodes_keyedMembers_iff.trans (Iff.trans ?_ decodes_keyedMembers_iff.symm)
        refine exists_congr fun values => and_congr_right fun _ => and_congr_left fun _ => ?_
        refine forall₂_iff_of_alike (h.imp fun member other hmember value => ?_) values
        rw [hmember.1, hmember.2]
  shape {typeName d members others} hd hmembers hothers hvariant hfields value := by
    simp only [variantNamed?_jsons] at hvariant hfields
    refine (decodes_shape_iff_exists hd).trans (Iff.trans ?_ (decodes_shape_iff_exists hd).symm)
    rw [← hvariant]
    refine exists_congr fun variant => exists_congr fun declared => and_congr_right fun hnamed =>
      and_congr_right fun hdeclared => exists_congr fun fields => and_congr_right fun _ =>
      and_congr_right fun _ => forall₂_congr fun field hfield => decodesField_congr ?_
    exact hfields variant declared hnamed hdeclared field hfield

end Values

/-! ## Shapes that differ in what does not matter -/

/-- The shapes of a type differ, if at all, only in the order of members and in stray members, where
records and unions are expected. -/
def SameShape (r : Registry) (form : ShapeForm α) (typeName : String) : α → α → Prop :=
  Relation.EqvGen (r.Reshapes form (.tagged typeName) 0)

/-- The same is read from shapes that differ only in what does not matter. -/
theorem SameShape.readsAlike {r : Registry} {form : ShapeForm α} {reads : Reading α}
    (hr : r.Checked) (hreads : r.ReadsByParts form reads) {typeName : String} {shape other : α}
    (h : r.SameShape form typeName shape other) :
    ReadsAlike reads (.tagged typeName) 0 shape other := by
  induction h with
  | rel _ _ hstep => exact hstep.readsAlike hr hreads
  | refl _ => exact fun _ => Iff.rfl
  | symm _ _ _ ih => exact fun value => (ih value).symm
  | trans _ _ _ _ _ ih ih' => exact fun value => (ih value).trans (ih' value)

section Results

variable {r : Registry} {typeName : String} {d : TypeDefinition} {i : Instance}

/-- Plain shapes that differ only in what does not matter are adapted alike. -/
theorem SameShape.adapt_iff (hr : r.Checked) (hd : r.definition? typeName = some d)
    {shape other : Value} (h : r.SameShape .values typeName shape other) :
    r.adapt d shape = .ok i ↔ r.adapt d other = .ok i := by
  induction h with
  | rel shape other hstep =>
      have halike := hstep.readsAlike hr readsByParts_accepts (.ofInstance i)
      -- Both shapes are objects.
      cases hstep <;>
        exact (adapt_object_eq_ok hr hd).trans (halike.trans (adapt_object_eq_ok hr hd).symm)
  | refl _ => rfl
  | symm _ _ _ ih => exact ih.symm
  | trans _ _ _ _ _ ih ih' => exact ih.trans ih'

/-- JSON shapes that differ only in what does not matter are decoded alike. -/
theorem SameShape.decode_iff (hr : r.Resolved) {shape other : Json}
    (h : r.SameShape .jsons typeName shape other) :
    r.decode typeName shape = .ok i ↔ r.decode typeName other = .ok i := by
  rw [decode_eq_ok hr, decode_eq_ok hr]
  exact h.readsAlike hr.checked readsByParts_decodes _

/-- What is adapted from a plain shape has its fields in order of declaration. -/
theorem ordersFields_of_adapt (hr : r.Resolved) (hd : r.definition? typeName = some d)
    {shape : Value} (hplain : shape.instance? = none) (h : r.adapt d shape = .ok i) :
    d.OrdersFields i := by
  have haccepts := (adapt_eq_ok_of_plain hr hd hplain).mp h
  obtain ⟨tag, variant, fields⟩ := i
  cases haccepts with
  | owned => cases hplain
  | @shape _ _ _ declared _ _ hd' _ hdeclared hsub =>
      cases hd.symm.trans hd'
      exact ⟨declared, hdeclared, hsub⟩

/-- What is decoded has its fields in order of declaration. -/
theorem ordersFields_of_decode (hr : r.Resolved) (hd : r.definition? typeName = some d)
    {shape : Json} (h : r.decode typeName shape = .ok i) : d.OrdersFields i := by
  have hdecodes := (decode_eq_ok hr).mp h
  obtain ⟨tag, variant, fields⟩ := i
  cases hdecodes with
  | @shape _ _ _ declared _ _ hd' _ hdeclared hsub =>
      cases hd.symm.trans hd'
      exact ⟨declared, hdeclared, hsub⟩

end Results

/-- A type reads its shapes, plain values and JSON values, by the members that it declares: shapes
that differ only in what does not matter give the same instance or none, and fields are in order of
declaration whatever order a shape has them in. -/
structure ReadsDeclared (r : Registry) (typeName : String) (d : TypeDefinition)
    (fromShape : Value → Except TypeError Instance) (decode : Json → Except TypeError Instance) :
    Prop where
  fromShape_iff : ∀ {shape other}, r.SameShape .values typeName shape other → ∀ i,
    fromShape shape = .ok i ↔ fromShape other = .ok i
  decode_iff : ∀ {shape other}, r.SameShape .jsons typeName shape other → ∀ i,
    decode shape = .ok i ↔ decode other = .ok i
  fromShape_order : ∀ {shape i}, shape.instance? = none → fromShape shape = .ok i →
    d.OrdersFields i
  decode_order : ∀ {shape i}, decode shape = .ok i → d.OrdersFields i

/-- Types of a resolved registry read their shapes by the members that they declare. -/
theorem readsDeclared {r : Registry} (hr : r.Resolved) {typeName : String} {d : TypeDefinition}
    (hd : r.definition? typeName = some d) :
    r.ReadsDeclared typeName d (r.adapt d) (r.decode typeName) where
  fromShape_iff h _ := h.adapt_iff hr.checked hd
  decode_iff h _ := h.decode_iff hr
  fromShape_order hplain h := ordersFields_of_adapt hr hd hplain h
  decode_order h := ordersFields_of_decode hr hd h

/-- In every built registry, only declared members matter, in any order: all records and unions read
shapes of theirs by the members that they declare. -/
theorem only_declared_members_matter {r : Registry} (hr : r.IsBuilt) :
    (∀ h : RecordHandle, h.registry = r →
      r.ReadsDeclared h.name h.definition h.fromShape h.decode) ∧
    ∀ h : UnionHandle, h.registry = r →
      r.ReadsDeclared h.name h.definition h.fromShape h.decode := by
  refine ⟨fun h hregistry => ?_, fun h hregistry => ?_⟩
  · subst hregistry
    exact readsDeclared hr.resolved h.is_declared
  · subst hregistry
    exact readsDeclared hr.resolved h.is_declared

end Registry

namespace Boards

/-- Access to boards. -/
def boardRecord : RecordHandle :=
  ⟨registry, "Board", _, _, definition?_board, shape_boardDefinition⟩

/-- The event that a task was opened, as it comes from a file. -/
def openedJson : Json :=
  .object [("@tag", .string "Opened"), ("task", .object [("id", .string "c")])]

/-- The same with a member that only other events have. -/
def countedJson : Json :=
  .object [("@tag", .string "Opened"), ("count", .number (.integer 1)),
    ("task", .object [("id", .string "c")])]

theorem reshapes_openedJson :
    registry.Reshapes .jsons (.tagged "Event") 0 openedJson countedJson := by
  have hstray : registry.IsStray .jsons eventDefinition
      ([("@tag", .string "Opened")] ++ [("task", .object [("id", .string "c")])]) "count" := by
    constructor
    case ne_variantKey => exact fun _ => by decide
    case undeclared =>
      rintro _ _ ⟨⟩ ⟨⟩
      decide
  exact @Registry.Reshapes.stray _ _ .jsons _ _ _ _ _ _ definition?_event (by decide) hstray

/-- The board as it comes from a file, in another order and with the member in one of its events. -/
def shuffledShape : Json :=
  .object [
    ("note", .object [("z", .null)]),
    ("tasks", .array [
      .object [("id", .string "a"), ("due", .string "2024-01-01T00:00:00Z")],
      .object [("id", .string "b"), ("due", .null)]]),
    ("events", .array [countedJson,
      .object [("@tag", .string "Closed"), ("count", .number (.integer 2))]])]

theorem sameShape_shuffledShape : registry.SameShape .jsons "Board" shape shuffledShape := by
  refine .trans _ _ _ (.rel _ _ (@Registry.Reshapes.permute _ _ .jsons _ _ _ _
    boardRecord.is_declared (by decide) (@List.perm_append_comm _ [_, _] [_]))) (.rel _ _ ?_)
  exact @Registry.Reshapes.field _ _ .jsons _ _ _ _ "events" _ _ _ [_, _] []
    boardRecord.is_declared (by decide) rfl rfl (List.mem_cons_of_mem _ List.mem_cons_self)
    (@Registry.Reshapes.item _ _ .jsons _ _ _ _ [] [_] reshapes_openedJson)

/-- The shape of the event that the task `c` was opened, without the member that is no field. -/
def tidyShape : Value :=
  .object [("@tag", .string "Opened"), ("task", .object [("id", .string "c")])]

theorem sameShape_tidyShape : registry.SameShape .values "Event" openedShape tidyShape := by
  have hstray : registry.IsStray .values eventDefinition
      ([("task", .object [("id", .string "c")])] ++ [("@tag", .string "Opened")]) "more" := by
    constructor
    case ne_variantKey => exact fun _ => by decide
    case undeclared =>
      rintro _ _ ⟨⟩ ⟨⟩
      decide
  refine .trans _ _ _ (.symm _ _ (.rel _ _ (@Registry.Reshapes.stray _ _ .values _ _ _ _ _ _
    definition?_event (by decide) hstray))) (.rel _ _ ?_)
  exact @Registry.Reshapes.permute _ _ .values _ _ _ _ definition?_event (by decide)
    (@List.perm_append_comm _ [_] [_])

/-- The board and the event are read as without the members that do not matter. -/
theorem decode_shuffledShape :
    registry.IsBuilt ∧ registry.SameShape .jsons "Board" shape shuffledShape ∧
      registry.SameShape .values "Event" openedShape tidyShape ∧
      boardRecord.decode shuffledShape = .ok board ∧
      event.fromShape tidyShape = .ok (opened (task "c")) := by
  obtain ⟨hrecords, hunions⟩ := Registry.only_declared_members_matter isBuilt_registry
  exact ⟨isBuilt_registry, sameShape_shuffledShape, sameShape_tidyShape,
    ((hrecords boardRecord rfl).decode_iff sameShape_shuffledShape board).mp rfl,
    ((hunions event rfl).fromShape_iff sameShape_tidyShape (opened (task "c"))).mp rfl⟩

end Boards

end RecordSchema
