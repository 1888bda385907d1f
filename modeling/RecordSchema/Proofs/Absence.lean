import RecordSchema.Proofs.DependencyOrder
import RecordSchema.Proofs.Reading
import RecordSchema.Proofs.RejectedCalls
import RecordSchema.Proofs.Unambiguous
import RecordSchema.Proofs.UniquePlaces

/-!
# What rejections say they found

A rejection says in its last part what stands at its path, or that it is absent. The text of a value
is never the word for what is absent (`Value.text_ne_absent`), so a rejection that quotes what it
found says that there is something. The word is used where a field or a variant is missing, and
where a member of a keyed collection has no key. `Registry.Overlooks` tells when something stands
there all the same: the identity field has a value that cannot be a key, or a shape that is read as
a union names its variant there. In all other cases the word is true (`Call.says_absent_iff`).
-/

namespace RecordSchema

open Outcome

/-! ## The word for what is absent -/

/-- A group is written between its delimiters. -/
theorem Layout.opening_subset_chars (config : LayoutConfig) (indent column trailing : Nat)
    (opening closing : List Char) (entries : List (List Char × Layout)) :
    opening ⊆ (group opening closing entries).chars config indent column trailing := by
  rw [chars]
  split <;> simp only [List.append_assoc] <;> exact List.subset_append_left _ _

/-- A text that has a character which the word does not have is another one. -/
theorem Rejection.ofList_ne_absent {text : List Char} {c : Char} (hmem : c ∈ text)
    (hc : c ∉ absent.toList) : String.ofList text ≠ absent := by
  rintro heq
  rw [← heq, String.toList_ofList] at hc
  exact hc hmem

/-- A text without a character of the word is another one. -/
theorem Rejection.ne_absent_of_forall {text : String} (h : ∀ c ∈ text.toList, c ≠ 'b') :
    text ≠ absent := by
  rintro rfl
  exact h 'b' (by decide) rfl

/-- A text in quotes is not the word for what is absent. -/
theorem Text.quote_ne_absent (text : String) : quote text ≠ Rejection.absent :=
  Rejection.ofList_ne_absent List.mem_cons_self (by decide)

/-- No value is written as the word for what is absent. -/
theorem Value.text_ne_absent (value : Value) : value.text ≠ Rejection.absent := by
  have hdigit : ∀ c : Char, c.isDigit → c ≠ 'b' := by
    rintro _ hc rfl
    cases hc
  cases value with
  | null => decide
  | bool b => cases b <;> decide
  | number x =>
      refine Rejection.ne_absent_of_forall ?_
      simpa [text, layout, Layout.text, Layout.chars]
        using forall_mem_valueText hdigit (by decide) x
  | string s => exact Text.quote_ne_absent s
  | date i =>
      refine Rejection.ne_absent_of_forall ?_
      simpa [text, layout, Layout.text, Layout.chars]
        using forall_mem_textChars hdigit (by decide) i
  | array items =>
      exact Rejection.ofList_ne_absent (c := '[')
        (Layout.opening_subset_chars _ _ _ _ _ _ _ List.mem_cons_self) (by decide)
  | object members =>
      exact Rejection.ofList_ne_absent (c := '{')
        (Layout.opening_subset_chars _ _ _ _ _ _ _ List.mem_cons_self) (by decide)
  | tagged tag variant fields =>
      exact Rejection.ofList_ne_absent (c := '(')
        (Layout.opening_subset_chars _ _ _ _ _ _ _ List.mem_concat_self) (by decide)

namespace Registry

/-! ## What stands where something is said to be absent -/

section Statement

variable (r : Registry) (root : Value) (start : Place)

/-- The path leads to the name of the variant in a shape that is read as a union. An instance of the
union itself is not read. -/
inductive VariantNamedAt : Path → Prop where
  | mk {path d part} : r.Governs (.ofValue r root) start path (.shape d) →
      d.isUnion → root.at? path = some part →
      (∀ i, part.instance? = some i → ¬ r.owns d.name i) →
      VariantNamedAt (path.field r.config.codec.variantKey)

/-- Something stands at the path of the rejection, but is not looked at: the identity field of a
member of a keyed collection has a value that cannot be a key, or what is looked for has the name of
the variant key, and names the variant. -/
inductive Overlooks : Rejection → Prop where
  | noKey {rejection value} : rejection.kind = .keyMismatch →
      root.at? rejection.path = some value → value.keyText? = none → Overlooks rejection
  | hidden {rejection} : rejection.kind = .missing ∨ rejection.kind = .keyMismatch →
      VariantNamedAt r root start rejection.path → Overlooks rejection

/-- What a rejection of the value reports: the text of what stands at its path, that nothing stands
there, or the key of a member of a keyed collection. -/
inductive Reports : Rejection → Prop where
  | found {path kind expected value} : root.at? path = some value →
      kind ≠ .missing → kind ≠ .keyMismatch → Reports ⟨path, kind, expected, value.text⟩
  | missing {path expected} : root.at? path = none ∨ VariantNamedAt r root start path →
      Reports (.missing path expected)
  | misfiled {path typeName idField key member expected} {i : Instance} :
      r.Governs (.ofValue r root) start path (.value (.keyed typeName (some idField)) 0) →
      root.at? (path.key key) = some member → member.HasDistinctKeys →
      r.Accepts (.tagged typeName) 0 member (.ofInstance i) →
      Reports ⟨(path.key key).field idField, .keyMismatch, expected,
        ((i.keyText? idField).map Text.quote).getD Rejection.absent⟩

end Statement

variable {r : Registry} {root value : Value} {start : Place} {path : Path} {rejection : Rejection}
  {d : TypeDefinition} {members : Entries Value} {name : String}

/-! ## What coercion reports -/

/-- Fields are looked up under the names of the members, but for that of the variant of a union. -/
theorem get?_fieldMembers_eq (hkeys : members.names.Nodup) :
    (r.fieldMembers d members).get? name =
      if d.isUnion ∧ name = r.config.codec.variantKey then none else members.get? name := by
  rw [fieldMembers]
  split
  next hunion =>
      simp only [hunion, true_and]
      split
      next hname => rw [hname, Entries.get?_erase_self hkeys]
      next hname => exact Entries.get?_erase_of_ne (Ne.symm hname) members
  next hunion => simp [hunion]

/-- A value that is rejected without a look into it is reported by its text. -/
theorem reports_of_atom {rule : Rule} {depth : Nat} (hat : root.at? path = some value)
    (hkind : rejection.kind ≠ .unresolved)
    (h : Coercion.atom r value rule depth path = .error rejection) :
    r.Reports root start rejection := by
  obtain ⟨hkinds, hpath, hactual⟩ := shape_of_atom h hkind
  obtain ⟨_, kind, expected, _⟩ := rejection
  obtain rfl := hpath
  obtain rfl := hactual
  refine .found hat ?_ ?_ <;> rintro rfl <;> simp at hkinds

/-- The variant of a shape is reported as it stands there. -/
theorem reports_of_variant (hat : root.at? path = some value) (hvalue : value.named? = some members)
    (h : r.RejectsVariant d members path rejection) : r.Reports root start rejection := by
  have hstep : root.at? (path.field r.config.codec.variantKey) =
      members.get? r.config.codec.variantKey :=
    (Value.at?_append hat _).trans (step?_field hvalue _)
  cases h with
  | missing _ hnone => exact .missing (.inl (hstep.trans hnone))
  | unknown _ hnamed _ => exact .found (hstep.trans hnamed) nofun nofun

/-- Where a field of a shape finds nothing, nothing stands, or the name of the variant does. -/
theorem reports_of_absent (hat : root.at? path = some value) (hvalue : value.named? = some members)
    (hforeign : ∀ i, value.instance? = some i → ¬ r.owns d.name i)
    (hgoverns : r.Governs (.ofValue r root) start path (.shape d))
    (hnone : (r.fieldMembers d members).get? name = none) (expected : String) :
    r.Reports root start (.missing (path.field name) expected) := by
  refine .missing ?_
  by_cases habsent : members.get? name = none
  · exact .inl ((Value.at?_append hat _).trans ((step?_field hvalue _).trans habsent))
  · obtain ⟨variants, hshape, rfl⟩ := exists_union_of_hidden hnone habsent
    have hunion : d.isUnion := by
      rw [TypeDefinition.isUnion, TypeDefinition.variants?, hshape]
      rfl
    exact .inr (.mk hgoverns hunion hat hforeign)

/-- The candidate for a field stands where the name of the field leads. -/
theorem at?_of_fieldMembers (hat : root.at? path = some value)
    (hvalue : value.named? = some members) (hkeys : members.names.Nodup) {candidate : Value}
    (hcandidate : (r.fieldMembers d members).get? name = some candidate) :
    root.at? (path.field name) = some candidate := by
  have hmember := mem_of_mem_fieldMembers (Entries.mem_of_get? hcandidate)
  exact (Value.at?_append hat _).trans
    ((step?_field hvalue _).trans (Entries.get?_of_mem hkeys hmember))

/-- What is wrong with a value is reported where it is. -/
theorem Rejects.reports (hr : r.Checked) {rule : Rule} {depth : Nat}
    (hkeys : value.Everywhere Value.HasDistinctKeys) (hat : root.at? path = some value)
    (hgoverns : r.Governs (.ofValue r root) start path (.value rule depth))
    (hkind : rejection.kind ≠ .unresolved) (h : r.Rejects value rule depth path rejection) :
    r.Reports root start rejection := by
  induction h with
  | atom h => exact reports_of_atom hat hkind h
  | item hitem _ ih =>
      have hitems := (Value.everywhere_array.mp hkeys).2 _ (List.mem_of_getElem? hitem)
      exact ih hitems ((Value.at?_append hat _).trans hitem) (hgoverns.item _) hkind
  | variant _ h => exact reports_of_variant hat rfl h
  | absent hd _ _ _ hnone _ =>
      exact reports_of_absent hat rfl nofun (hgoverns.shape hd hat) hnone _
  | field hd hvariant hdeclared hfield hcandidate _ ih =>
      obtain ⟨hdistinct, hmembers⟩ := Value.everywhere_object.mp hkeys
      have hmember := mem_of_mem_fieldMembers (Entries.mem_of_get? hcandidate)
      have hplace := ((hgoverns.shape hd hat).fields hat rfl hvariant hdeclared).field hfield
      exact ih (hmembers _ hmember) (at?_of_fieldMembers hat rfl hdistinct hcandidate)
        hplace.candidate hkind
  | member hmember _ ih =>
      obtain ⟨hdistinct, hmembers⟩ := Value.everywhere_object.mp hkeys
      have hthere := (Value.at?_append hat (.key _)).trans (Entries.get?_of_mem hdistinct hmember)
      exact ih (hmembers _ hmember) hthere (hgoverns.member _) hkind
  | key hmember hnormal hkey =>
      obtain ⟨hdistinct, hmembers⟩ := Value.everywhere_object.mp hkeys
      have hthere := (Value.at?_append hat (.key _)).trans (Entries.get?_of_mem hdistinct hmember)
      have haccepts := (coerceValue_eq_ok hr _).mp hnormal
      obtain ⟨i, rfl⟩ := exists_instance_of_accepts haccepts
      rw [Coercion.checkKey] at hkey
      split at hkey <;> cases hkey
      exact .misfiled hgoverns hthere (hmembers _ hmember).here haccepts

/-- Candidates for fields are reported where they are, or as what is not there. -/
theorem reports_of_construct (hr : r.Checked) (hclosed : r.IsClosed) {typeName : String}
    {variant : Option String} {declared : Fields} (hd : r.definition? typeName = some d)
    (hdeclared : d.fieldsOf? variant = some declared) (hroot : root.named? = some members)
    (hkeys : ∀ member ∈ members, member.2.Everywhere Value.HasDistinctKeys) {error : TypeError}
    (h : r.construct typeName variant members.get? = .error error)
    (hrejection : error.rejection? = some rejection) :
    r.Reports root (.fields declared) rejection := by
  have hkind : rejection.kind ≠ .unresolved := by
    have hresolved := isResolved_construct hclosed hd members.get? error h
    cases error <;> cases hrejection
    exact hresolved
  obtain ⟨_, hrejected, rfl⟩ := (construct_eq_error hd hdeclared).mp h
  cases hrejection
  obtain ⟨⟨name, type⟩, hmem, hfield⟩ := exists_field_of_fields_eq_error hrejected
  have hroot' : root.at? [] = some root := rfl
  have hstep : root.at? (Path.field [] name) = members.get? name :=
    (Value.at?_append hroot' (.field name)).trans (step?_field hroot name)
  rcases hfield with ⟨hnone, -, rfl⟩ | ⟨value, hvalue, hrejected⟩
  · exact .missing (.inl (hstep.trans hnone))
  · exact (rejects_of_coerceValue hrejected).reports hr (hkeys _ (Entries.mem_of_get? hvalue))
      (hstep.trans hvalue) (Governs.start.field hmem).candidate hkind

/-- What is wrong in a shape is reported where it is. -/
theorem reports_of_coerceShape (hr : r.Checked) (hat : root.at? path = some value)
    (hvalue : value.named? = some members)
    (hforeign : ∀ i, value.instance? = some i → ¬ r.owns d.name i) (hdistinct : members.names.Nodup)
    (hkeys : ∀ member ∈ members, member.2.Everywhere Value.HasDistinctKeys)
    (hgoverns : r.Governs (.ofValue r root) start path (.shape d))
    (hkind : rejection.kind ≠ .unresolved) (h : r.coerceShape d members path = .error rejection) :
    r.Reports root start rejection := by
  rcases coerceShape_eq_error h with hvariant | ⟨variant, declared, hvariant, hdeclared, hfields⟩
  · exact reports_of_variant hat hvalue hvariant
  obtain ⟨⟨name, type⟩, hmem, hfield⟩ := exists_field_of_fields_eq_error hfields
  rcases hfield with ⟨hnone, -, rfl⟩ | ⟨candidate, hcandidate, hrejected⟩
  · exact reports_of_absent hat hvalue hforeign hgoverns hnone _
  · have hmember := mem_of_mem_fieldMembers (Entries.mem_of_get? hcandidate)
    have hplace := (hgoverns.fields hat hvalue hvariant hdeclared).field hmem
    exact (rejects_of_coerceValue hrejected).reports hr (hkeys _ hmember)
      (at?_of_fieldMembers hat hvalue hdistinct hcandidate) hplace.candidate hkind

/-- A shape is reported if it is none, or what is wrong in it is. -/
theorem reports_of_adapt (hr : r.Checked) (hclosed : r.IsClosed) {typeName : String}
    (hd : r.definition? typeName = some d) (hnames : root.Everywhere Value.HasDistinctNames)
    {error : TypeError} (h : r.adapt d root = .error error)
    (hrejection : error.rejection? = some rejection) : r.Reports root (.shape d) rejection := by
  have hkind : rejection.kind ≠ .unresolved := by
    have hresolved := isResolved_adapt hclosed hd root error h
    cases error <;> cases hrejection
    exact hresolved
  have hread : ∀ members : Entries Value, root.named? = some members →
      (∀ i, root.instance? = some i → ¬ r.owns d.name i) →
      (∀ member ∈ members, member.2.Everywhere Value.HasDistinctNames) →
      (r.coerceShape d members []).mapError (d.rejected none) = .error error →
      r.Reports root (.shape d) rejection := by
    intro members hroot hforeign hmembers hfails
    obtain ⟨_, hrejected, rfl⟩ := mapError_eq_error.mp hfails
    cases hrejection
    have hkeys : ∀ member ∈ members, member.2.Everywhere Value.HasDistinctKeys :=
      fun member hmember => (hmembers member hmember).imp fun _ => Value.HasDistinctNames.keys
    exact reports_of_coerceShape hr rfl hroot hforeign (hnames.here members hroot) hkeys .start
      hkind hrejected
  cases root with
  | object members =>
      refine hread members rfl ?_ (Value.everywhere_object.mp hnames).2 h
      rintro _ ⟨⟩
  | tagged tag variant fields =>
      rw [adapt] at h
      split at h
      · cases h
      next hforeign =>
          refine hread fields rfl ?_ (Value.everywhere_tagged.mp hnames).2 h
          rintro _ ⟨⟩
          exact hforeign
  | _ =>
      cases h
      cases hrejection
      exact .found rfl (by decide) (by decide)

/-! ## The keys of members -/

/-- The types tell whether a shape names its variant where a field of it is looked for. -/
theorem variantNamedAt_field_iff (hr : r.Checked) (hclosed : r.IsClosed)
    (hstart : r.IsSoundStart start) (hgoverns : r.Governs (.ofValue r root) start path (.shape d))
    (hat : root.at? path = some value) (name : String) :
    r.VariantNamedAt root start (path.field name) ↔
      (d.isUnion ∧ name = r.config.codec.variantKey) ∧
        ∀ i, value.instance? = some i → ¬ r.owns d.name i := by
  constructor
  · generalize hpath : path.field name = whole
    rintro ⟨hother, hunion, hthere, hforeign⟩
    obtain ⟨rfl, hname⟩ := Path.step_inj hpath
    obtain rfl := Place.shape.inj (hgoverns.unique hr hclosed hstart hother rfl)
    obtain rfl := Option.some.inj (hat.symm.trans hthere)
    exact ⟨⟨hunion, PathSegment.field.inj hname⟩, hforeign⟩
  · rintro ⟨⟨hunion, rfl⟩, hforeign⟩
    exact .mk hgoverns hunion hat hforeign

/-- An instance that a shape becomes has, in each of its fields, the key of what the field finds. -/
theorem keyText?_of_acceptsField {type : FieldType} {candidate result : Option Value}
    (h : r.AcceptsField type candidate result) :
    result.bind (·.keyText?) = candidate.bind (·.keyText?) := by
  rcases acceptsField_iff.mp h with ⟨rfl, rfl, -⟩ | ⟨_, _, rfl, rfl, haccepts⟩
  · rfl
  · exact haccepts.keyText?_eq.symm

/-- The key of a member of a keyed collection is that of what stands at its identity field. Where
the variant is named there, it has no key. -/
theorem keyText?_of_member (hr : r.Checked) (hclosed : r.IsClosed) (hstart : r.IsSoundStart start)
    {typeName idField key : String} {member : Value} {i : Instance}
    (hgoverns : r.Governs (.ofValue r root) start path (.value (.keyed typeName (some idField)) 0))
    (hat : root.at? (path.key key) = some member) (hkeys : member.HasDistinctKeys)
    (haccepts : r.Accepts (.tagged typeName) 0 member (.ofInstance i)) :
    (¬ r.VariantNamedAt root start ((path.key key).field idField) ∧
      i.keyText? idField = (root.at? ((path.key key).field idField)).bind (·.keyText?)) ∨
    (r.VariantNamedAt root start ((path.key key).field idField) ∧ i.keyText? idField = none) := by
  obtain ⟨d, _, hd, ⟨⟩, hhas⟩ : r.Knows (.keyed typeName (some idField)) :=
    hgoverns.knowsPlace hclosed hstart.known
  have hnames :=
    variantNamedAt_field_iff hr hclosed hstart ((hgoverns.member key).shape hd hat) hat idField
  have hthere : ∀ {members : Entries Value}, member.named? = some members →
      root.at? ((path.key key).field idField) = members.get? idField := fun hnamed =>
    (Value.at?_append hat (.field idField)).trans (step?_field hnamed idField)
  obtain ⟨tag, variant, fields⟩ := i
  generalize hnormal : Value.ofInstance ⟨tag, variant, fields⟩ = normal at haccepts
  cases haccepts with
  | pattern hp => cases hp
  | owned =>
      cases hnormal
      refine .inl ⟨fun h => ?_, ?_⟩
      · refine (hnames.mp h).2 _ rfl ?_
        rw [hr.name_eq hd]
        exact decide_eq_true rfl
      · rw [hthere rfl]
        rfl
  | @shape _ d' _ declared members _ hd' hvariant hdeclared hsub hfields =>
      cases hnormal
      obtain rfl := Option.some.inj (hd.symm.trans hd')
      have hdeclares : Entries.has idField declared :=
        List.all_eq_true.mp hhas _ (TypeDefinition.mem_alternatives_of_fieldsOf? hdeclared)
      obtain ⟨type, htype⟩ := Entries.exists_mem_of_mem_names (Entries.has_iff.mp hdeclares)
      have hkey : (fields.get? idField).bind (·.keyText?) =
          ((r.fieldMembers d members).get? idField).bind (·.keyText?) :=
        keyText?_of_acceptsField (hfields _ htype)
      rw [get?_fieldMembers_eq hkeys] at hkey
      by_cases hhidden : d.isUnion ∧ idField = r.config.codec.variantKey
      · rw [if_pos hhidden] at hkey
        exact .inr ⟨hnames.mpr ⟨hhidden, nofun⟩, hkey⟩
      · rw [if_neg hhidden, ← hthere rfl] at hkey
        exact .inl ⟨fun h => hhidden (hnames.mp h).1, hkey⟩

/-- A rejection that reports what it found says that it is absent exactly if nothing stands there,
or what stands there is overlooked. -/
theorem Reports.actual_eq_absent_iff (hr : r.Checked) (hclosed : r.IsClosed)
    (hstart : r.IsSoundStart start) (h : r.Reports root start rejection) :
    rejection.actual = Rejection.absent ↔
      root.at? rejection.path = none ∨ r.Overlooks root start rejection := by
  cases h with
  | @found path kind expected value hat hmissing hmismatch =>
      refine iff_of_false value.text_ne_absent ?_
      rintro (hnone | ⟨hkind, -, -⟩ | ⟨hkind, -⟩)
      · cases hat.symm.trans hnone
      · exact hmismatch hkind
      · exact hkind.elim hmissing hmismatch
  | missing hplace =>
      refine iff_of_true rfl (hplace.imp_right fun hnames => ?_)
      exact .hidden (.inl rfl) hnames
  | @misfiled path typeName idField key member expected i hgoverns hat hkeys haccepts =>
      have hactual : ((i.keyText? idField).map Text.quote).getD Rejection.absent =
          Rejection.absent ↔ i.keyText? idField = none := by
        cases i.keyText? idField with
        | none => exact iff_of_true rfl rfl
        | some key => exact iff_of_false (Text.quote_ne_absent key) nofun
      rw [hactual]
      rcases keyText?_of_member hr hclosed hstart hgoverns hat hkeys haccepts with
        ⟨hvisible, hkey⟩ | ⟨hnames, hkey⟩
      · rw [hkey, Option.bind_eq_none_iff]
        constructor
        · intro hnone
          cases hthere : root.at? ((path.key key).field idField) with
          | none => exact .inl rfl
          | some value => exact .inr (.noKey rfl hthere (hnone value hthere))
        · rintro (hnone | ⟨-, hthere, hnone⟩ | ⟨-, hnames⟩) value hvalue
          · cases hnone.symm.trans hvalue
          · obtain rfl := Option.some.inj (hthere.symm.trans hvalue)
            exact hnone
          · exact absurd hnames hvisible
      · exact iff_of_true hkey (.inr (.hidden (.inr rfl) hnames))

end Registry

/-- Arguments are reported where they are, or as what is not there. -/
theorem Registry.reports_of_positional {r : Registry} (hr : r.Checked) (hclosed : r.IsClosed)
    {typeName : String} {d : TypeDefinition} {variant : Option String} {declared : Fields}
    (hd : r.definition? typeName = some d) (hdeclared : d.fieldsOf? variant = some declared)
    {qualifiedName : String} {arguments : List (Option Value)}
    (hnames : ∀ value ∈ arguments.filterMap id, value.Everywhere Value.HasDistinctNames)
    {error : TypeError} {rejection : Rejection}
    (h : (positional qualifiedName declared arguments >>= r.construct typeName variant)
      = .error error)
    (hrejection : error.rejection? = some rejection) :
    r.Reports (.object (givenArguments declared arguments)) (.fields declared) rejection :=
  reports_of_construct hr hclosed hd hdeclared rfl
    (fun _ hmember =>
      (hnames _ (mem_of_mem_givenArguments hmember)).imp fun _ => Value.HasDistinctNames.keys)
    (construct_of_positional hr hd hdeclared h hrejection) hrejection

/-- A shape that a variant reads is reported if it is none, or what is wrong in it is. -/
theorem VariantHandle.reports_of_fromShape {h : VariantHandle} (hr : h.union.registry.Checked)
    (hclosed : h.union.registry.IsClosed) {root : Value}
    (hnames : root.Everywhere Value.HasDistinctNames) {error : TypeError} {rejection : Rejection}
    (hfails : h.fromShape root = .error error) (hrejection : error.rejection? = some rejection) :
    h.union.registry.Reports root (.fields h.fields) rejection := by
  have hread : ∀ members : Entries Value, root.named? = some members →
      (∀ member ∈ members, member.2.Everywhere Value.HasDistinctNames) →
      h.constructFrom (fun field ↦ members.get? field) = .error error →
      h.union.registry.Reports root (.fields h.fields) rejection :=
    fun members hroot hmembers hfails => Registry.reports_of_construct hr hclosed
      h.union.is_declared h.fieldsOf?_eq hroot
      (fun member hmember => (hmembers member hmember).imp fun _ => Value.HasDistinctNames.keys)
      hfails hrejection
  cases root with
  | object members => exact hread members rfl (Value.everywhere_object.mp hnames).2 hfails
  | tagged tag variant fields =>
      rw [VariantHandle.fromShape] at hfails
      split at hfails
      · cases hfails
      · exact hread fields rfl (Value.everywhere_tagged.mp hnames).2 hfails
  | _ =>
      cases hfails
      cases hrejection
      exact .found rfl (by decide) (by decide)

namespace Call

/-- The value that is checked by a call which constructs an instance or reads one from a shape, and
what is expected of it. -/
def candidate? : Call → Option (Value × Place)
  | constructRecord h arguments =>
      some (.object (givenArguments h.fields arguments), .fields h.fields)
  | constructVariant h arguments =>
      some (.object (givenArguments h.fields arguments), .fields h.fields)
  | readRecord h shape => some (shape, .shape h.definition)
  | readUnion h shape => some (shape, .shape h.definition)
  | readVariant h shape => some (shape, .fields h.fields)
  | decodeRecord .. | decodeUnion .. | updateRecord .. | updateUnion .. | updateVariant .. => none

variable {call : Call} {root : Value} {start : Place} {error : TypeError} {rejection : Rejection}

/-- What a call expects of its candidate is known. -/
theorem isSoundStart (hr : call.registry.Checked) (hclosed : call.registry.IsClosed)
    (hcandidate : call.candidate? = some (root, start)) : call.registry.IsSoundStart start := by
  cases call with
  | constructRecord h arguments =>
      cases hcandidate
      exact Registry.isSoundStart_fields hr hclosed h.is_declared h.fieldsOf?_eq
  | constructVariant h arguments | readVariant h shape =>
      cases hcandidate
      exact Registry.isSoundStart_fields hr hclosed h.union.is_declared h.fieldsOf?_eq
  | readRecord h shape | readUnion h shape =>
      cases hcandidate
      exact Registry.isSoundStart_shape h.is_declared
  | _ => cases hcandidate

/-- A call that is rejected reports what it found. -/
theorem reports_of_rejected (hr : call.registry.Checked) (hclosed : call.registry.IsClosed)
    (hnames : ∀ value ∈ call.values, value.Everywhere Value.HasDistinctNames)
    (hcandidate : call.candidate? = some (root, start)) (hfails : call.outcome = .error error)
    (hrejection : error.rejection? = some rejection) :
    call.registry.Reports root start rejection := by
  cases call with
  | constructRecord h arguments =>
      cases hcandidate
      exact Registry.reports_of_positional hr hclosed h.is_declared h.fieldsOf?_eq hnames hfails
        hrejection
  | constructVariant h arguments =>
      cases hcandidate
      exact Registry.reports_of_positional hr hclosed h.union.is_declared h.fieldsOf?_eq hnames
        hfails hrejection
  | readRecord h shape | readUnion h shape =>
      cases hcandidate
      exact Registry.reports_of_adapt hr hclosed h.is_declared (hnames _ List.mem_cons_self) hfails
        hrejection
  | readVariant h shape =>
      cases hcandidate
      exact h.reports_of_fromShape hr hclosed (hnames _ List.mem_cons_self) hfails hrejection
  | _ => cases hcandidate

/-- A call that constructs an instance or reads one from a shape and is rejected says that something
is absent exactly if nothing stands at the path of the rejection, or what stands there is
overlooked. -/
theorem says_absent_iff (hr : call.registry.IsBuiltWithCodecs)
    (hnames : ∀ value ∈ call.values, value.Everywhere Value.HasDistinctNames)
    (hcandidate : call.candidate? = some (root, start)) (hfails : call.outcome = .error error)
    (hrejection : error.rejection? = some rejection) :
    rejection.actual = Rejection.absent ↔
      root.at? rejection.path = none ∨ call.registry.Overlooks root start rejection := by
  have hsound := isSoundStart hr.checked hr.isClosed hcandidate
  have hreports := reports_of_rejected hr.checked hr.isClosed hnames hcandidate hfails hrejection
  exact hreports.actual_eq_absent_iff hr.checked hr.isClosed hsound

end Call

/-! ## Panels

A panel has flags, which are keyed by whether they are on.
-/

namespace Panels

/-- A flag is on or off. -/
def flag : TypeDefinition :=
  ⟨"Flag", .record [("on", .ofRule .boolean)], some "on"⟩

/-- The fields of a panel. -/
def panelFields : Fields :=
  [("flags", .ofRule (.keyed "Flag" (some "on")))]

/-- Panels have a collection of flags. -/
def panel : TypeDefinition :=
  ⟨"Panel", .record panelFields, none⟩

/-- The registry of panels and flags. -/
def registry : Registry :=
  ⟨0, [("Flag", ⟨flag, .standard⟩), ("Panel", ⟨panel, .standard⟩)], [], .standard⟩

theorem isBuiltWithCodecs_registry : registry.IsBuiltWithCodecs := by
  refine ⟨{ Declarations.empty .standard with definitions := [flag, panel] }, fun d hd => ?_, rfl⟩
  simp only [List.mem_cons, List.not_mem_nil, or_false] at hd
  rcases hd with rfl | rfl
  · exact .withIdField
      (@TypeDefinition.IsDeclared.record "Flag" [("on", .ofRule .boolean)] _ (by decide) rfl)
  · exact @TypeDefinition.IsDeclared.record "Panel" panelFields _ (by decide) rfl

/-- A panel with one flag, which is on. -/
def shape : Value :=
  .object [("flags", .object [("true", .object [("on", .bool true)])])]

/-- Reading the panel. -/
def readPanel : Call :=
  .readRecord ⟨registry, "Panel", panel, panelFields, rfl, rfl⟩ shape

/-- The flag is said not to have the field that says that it is on. -/
def wrongKey : Rejection :=
  ⟨[.field "flags", .key "true", .field "on"], .keyMismatch, "\"true\"", "absent"⟩

theorem outcome_readPanel : readPanel.outcome = .error (panel.rejected none wrongKey) := rfl

/-- The flag has the field. -/
theorem at?_wrongKey : shape.at? wrongKey.path = some (.bool true) := rfl

/-- An object with one member has distinct names if the member does. -/
theorem hasDistinctNames_member {name : String} {member : Value}
    (h : member.Everywhere Value.HasDistinctNames) :
    (Value.object [(name, member)]).Everywhere Value.HasDistinctNames := by
  refine Value.everywhere_object.mpr ⟨?_, List.forall_mem_singleton.mpr h⟩
  rintro _ ⟨⟩
  exact List.nodup_singleton name

theorem hasDistinctNames_values : ∀ value ∈ readPanel.values,
    value.Everywhere Value.HasDistinctNames :=
  List.forall_mem_singleton.mpr (hasDistinctNames_member (hasDistinctNames_member
    (hasDistinctNames_member (.of_leaf trivial nofun))))

end Panels

/-- The word for what is absent is said of a field with a value that cannot be a key. -/
theorem Panels.overlooks_on :
    Panels.readPanel.outcome = .error (Panels.panel.rejected none Panels.wrongKey) ∧
      Panels.shape.at? Panels.wrongKey.path = some (.bool true) ∧
      Panels.registry.Overlooks Panels.shape (.shape Panels.panel) Panels.wrongKey := by
  have hsays := (@Call.says_absent_iff readPanel _ _ _ _ isBuiltWithCodecs_registry
    hasDistinctNames_values rfl outcome_readPanel rfl).mp rfl
  refine ⟨outcome_readPanel, at?_wrongKey, hsays.resolve_left ?_⟩
  rw [at?_wrongKey]
  exact Option.some_ne_none _

/-- Not only what is absent is said to be absent. -/
theorem Panels.not_forall_says_absent_iff :
    ¬ ∀ (call : Call) (root : Value) (start : Place) (error : TypeError) (rejection : Rejection),
      call.registry.IsBuiltWithCodecs →
      (∀ value ∈ call.values, value.Everywhere Value.HasDistinctNames) →
      call.candidate? = some (root, start) → call.outcome = .error error →
      error.rejection? = some rejection →
      (rejection.actual = Rejection.absent ↔ root.at? rejection.path = none) := by
  intro h
  have hnone := (h readPanel shape (.shape panel) _ wrongKey isBuiltWithCodecs_registry
    hasDistinctNames_values rfl outcome_readPanel rfl).mp rfl
  cases at?_wrongKey.symm.trans hnone

end RecordSchema
