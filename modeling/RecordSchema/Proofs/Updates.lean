import RecordSchema.Proofs.Identity
import RecordSchema.Proofs.RejectedCalls
import RecordSchema.Proofs.SoundCodecs

/-!
# Updates

An update merges changes into the fields of an instance and constructs the instance anew. After the
changes, a field has what its last change gives it, or what it had (`get?_of_mergeChanges`). A
normal form is its own normal form (`Accepts.of_normal`), so that a field that is validated twice is
as if it had been validated once, and one that no change names stays as it is. So updates compose,
whichever handle makes them, for all that a session is given (`Session.updates_compose`).
-/

namespace RecordSchema

open Outcome

namespace Entries

variable {α : Type} {name other : String} {entries : Entries α}

/-- Sets the entry of this name, or takes it out. -/
def change (name : String) (value : Option α) (entries : Entries α) : Entries α :=
  match value with
  | some value => entries.put name value
  | none => entries.erase name

theorem nodup_names_change (hdistinct : entries.names.Nodup) (value : Option α) :
    (entries.change name value).names.Nodup := by
  cases value with
  | some value => exact nodup_names_put hdistinct
  | none => exact names_erase_sublist.nodup hdistinct

/-- A change is found under its name, and changes nothing else. -/
theorem get?_change (hdistinct : entries.names.Nodup) (value : Option α) :
    (entries.change name value).get? other =
      if name = other then value else entries.get? other := by
  split
  next heq =>
      subst heq
      cases value with
      | some value => exact get?_put_self ..
      | none => exact get?_erase_self hdistinct
  next hne =>
      cases value with
      | some value => exact get?_put_of_ne hne ..
      | none => exact get?_erase_of_ne hne ..

end Entries

/-! ## Merged fields -/

section Merging

variable {typeName : String} {declared : Fields} {present merged : Entries Value}
  {changes : List (String × Option Value)} {error : TypeError}

/-- Changes to declared fields are made one after the other, and no others. -/
theorem mergeChanges_cons {change : String × Option Value} :
    mergeChanges typeName declared present (change :: changes) =
      if change.1 ∈ declared.names then
        mergeChanges typeName declared (present.change change.1 change.2) changes
      else .error (.unknownField typeName change.1) := by
  obtain ⟨field, value⟩ := change
  simp only [mergeChanges, Entries.has_iff]
  cases value <;> rfl

/-- Changes fail for a field that is not declared. -/
theorem code_of_mergeChanges (h : mergeChanges typeName declared present changes = .error error) :
    error.code = .unknownField := by
  induction changes generalizing present with
  | nil => cases h
  | cons change changes ih =>
      rw [mergeChanges_cons] at h
      split at h
      · exact ih h
      · cases h
        rfl

/-- Changes can be made exactly if all fields that they name are declared. -/
theorem exists_mergeChanges_iff :
    (∃ merged, mergeChanges typeName declared present changes = .ok merged) ↔
      ∀ change ∈ changes, change.1 ∈ declared.names := by
  induction changes generalizing present with
  | nil => simp [mergeChanges]
  | cons change changes ih =>
      rw [mergeChanges_cons, List.forall_mem_cons]
      split
      next hdeclared => rw [ih, and_iff_right hdeclared]
      next hunknown => simp [hunknown]

/-- After the changes, a field has what its last change gives it, or else what it had. -/
theorem get?_of_mergeChanges (hdistinct : present.names.Nodup)
    (h : mergeChanges typeName declared present changes = .ok merged) (name : String) :
    merged.get? name = (Entries.get? name changes.reverse).getD (present.get? name) := by
  induction changes generalizing present with
  | nil =>
      cases h
      rfl
  | cons change changes ih =>
      rw [mergeChanges_cons] at h
      split at h
      · rw [ih (Entries.nodup_names_change hdistinct _) h, Entries.get?_change hdistinct,
          List.reverse_cons, Entries.get?_append, Entries.get?_cons]
        cases Entries.get? name changes.reverse with
        | some last => rfl
        | none => split <;> rfl
      · cases h

end Merging

/-! ## Validation of what is valid -/

namespace Registry

variable {r : Registry} {rule : Rule} {depth : Nat} {value normal : Value}

/-- A normal form is its own normal form. -/
theorem Accepts.of_normal (h : r.Accepts rule depth value normal) :
    r.Accepts rule depth normal normal := by
  induction value using Value.induction generalizing rule depth normal with
  | array items ih =>
      cases depth with
      | zero =>
          cases h with
          | any => exact .any _
      | succ depth =>
          obtain ⟨normals, rfl, hall⟩ := accepts_array_iff.mp h
          refine accepts_array_iff.mpr
            ⟨normals, rfl, List.forall₂_same.mpr fun normal hnormal => ?_⟩
          obtain ⟨item, hitem, haccepts⟩ := exists_of_mem_right hall hnormal
          exact ih item hitem haccepts
  | object members ih =>
      cases h with
      | any => exact .any _
      | object => exact .object _
      | shape hd => exact .owned hd
      | @keyed typeName _ _ normals hnames hall hkeys =>
          obtain ⟨_, heq, hall, hkeys⟩ := accepts_keyed_iff.mp (.keyed hnames hall hkeys)
          cases heq
          refine accepts_keyed_iff.mpr ⟨normals, rfl, List.forall₂_same.mpr ?_, hkeys⟩
          intro member hmember
          obtain ⟨original, horiginal, -, haccepts⟩ := exists_of_mem_right hall hmember
          exact ⟨rfl, ih original horiginal haccepts⟩
  | tagged tag variant fields =>
      cases h with
      | any => exact .any _
      | objectInstance => exact .objectInstance _ _ _
      | owned hd => exact .owned hd
  | string s =>
      cases h with
      | any => exact .any _
      | string => exact .string _
      | pattern hp hmatch => exact .pattern hp hmatch
  | _ => cases h <;> constructor

section Fields

variable {type : FieldType} {candidate result other : Option Value}

/-- A field has one normal form for its candidate. -/
theorem AcceptsField.unique (hr : r.Checked) (h : r.AcceptsField type candidate result)
    (hother : r.AcceptsField type candidate other) : result = other := by
  cases h with
  | absent => cases hother; rfl
  | present haccepts =>
      cases hother with
      | present hother => exact congrArg some (haccepts.unique hr hother)

/-- What a field was found to have is its own normal form. -/
theorem AcceptsField.of_normal (h : r.AcceptsField type candidate result) :
    r.AcceptsField type result result := by
  cases h with
  | absent hoptional => exact .absent hoptional
  | present haccepts => exact .present haccepts.of_normal

end Fields

/-- The fields of a valid instance follow the declaration, and are their own normal forms. -/
theorem IsInstance.acceptsField {typeName : String} {i : Instance} (h : r.IsInstance typeName i) :
    ∃ d declared, r.definition? typeName = some d ∧ d.fieldsOf? i.variant = some declared ∧
      i.fields.names.Sublist declared.names ∧ ∀ field ∈ declared,
        r.AcceptsField field.2 (i.fields.get? field.1) (i.fields.get? field.1) := by
  obtain ⟨tag, variant, fields⟩ := i
  cases h with
  | tagged hd hdeclared hsub hrequired hfields =>
      refine ⟨_, _, hd, hdeclared, hsub, fun field hfield => ?_⟩
      cases hget : Entries.get? field.1 fields with
      | none => exact .absent (hrequired field hfield hget)
      | some value => exact .present (hfields field hfield value hget).accepts

end Registry

/-! ## Updates -/

/-- Updates of the instance compose and touch only what they name: no changes change nothing, what
two updates come to is one update with all changes, fields that no change names stay as they are,
and updates fail for unknown fields exactly if some change names a field that is not declared. -/
structure UpdatesWell (declared : Fields)
    (update : Instance → List (String × Option Value) → Except TypeError Instance)
    (i : Instance) : Prop where
  nothing : update i [] = .ok i
  append : ∀ {changes more first second}, update i changes = .ok first →
    update first more = .ok second → update i (changes ++ more) = .ok second
  keeps : ∀ {changes result}, update i changes = .ok result →
    (∀ name ∉ Entries.names changes, result.get? name = i.get? name) ∧
    result.tag = i.tag ∧ result.variant = i.variant ∧
    result.fields.names.Sublist declared.names
  unknown_field : ∀ changes, (∃ error, update i changes = .error error ∧
    error.code = .unknownField) ↔ ∃ change ∈ changes, change.1 ∉ declared.names

/-- Updates that are the same for the instance and all that are of its type and variant are
alike. -/
theorem UpdatesWell.congr {declared : Fields}
    {update other : Instance → List (String × Option Value) → Except TypeError Instance}
    {i : Instance} (h : UpdatesWell declared update i)
    (hother : ∀ j, j.tag = i.tag → j.variant = i.variant → other j = update j) :
    UpdatesWell declared other i where
  nothing := hother i rfl rfl ▸ h.nothing
  append hfirst hsecond := by
    rw [hother i rfl rfl] at hfirst ⊢
    obtain ⟨-, htag, hvariant, -⟩ := h.keeps hfirst
    rw [hother _ htag hvariant] at hsecond
    exact h.append hfirst hsecond
  keeps hresult := h.keeps (hother i rfl rfl ▸ hresult)
  unknown_field changes := hother i rfl rfl ▸ h.unknown_field changes

namespace Registry

/-- The instance with changes to its fields, constructed anew. -/
def updateFields (r : Registry) (typeName : String) (variant : Option String) (name : String)
    (declared : Fields) (i : Instance) (changes : List (String × Option Value)) :
    Except TypeError Instance := do
  let merged ← mergeChanges name declared i.fields changes
  r.construct typeName variant merged.get?

variable {r : Registry} {typeName name : String} {d : TypeDefinition} {variant : Option String}
  {declared : Fields} {i result : Instance} {changes : List (String × Option Value)}

/-- An instance is updated if the changes name declared fields and every field takes what its last
change gives it, or what it has. -/
theorem updateFields_eq_ok (hr : r.Checked) (hd : r.definition? typeName = some d)
    (hdeclared : d.fieldsOf? variant = some declared) (hdistinct : i.fields.names.Nodup) :
    r.updateFields typeName variant name declared i changes = .ok result ↔
      (∀ change ∈ changes, change.1 ∈ declared.names) ∧
      result.tag = r.tag typeName ∧ result.variant = variant ∧
      result.fields.names.Sublist declared.names ∧
      ∀ field ∈ declared, r.AcceptsField field.2
        ((Entries.get? field.1 changes.reverse).getD (i.fields.get? field.1))
        (result.fields.get? field.1) := by
  have hconstruct : ∀ {merged : Entries Value},
      r.construct typeName variant merged.get? = .ok result ↔
        result.tag = r.tag typeName ∧ result.variant = variant ∧
        result.fields.names.Sublist declared.names ∧ ∀ field ∈ declared,
          r.AcceptsField field.2 (merged.get? field.1) (result.fields.get? field.1) := by
    intro merged
    rw [construct_eq_ok hr]
    constructor
    · rintro ⟨d', declared', hd', hdeclared', h⟩
      cases hd.symm.trans hd'
      cases hdeclared.symm.trans hdeclared'
      exact h
    · intro h
      exact ⟨d, declared, hd, hdeclared, h⟩
  rw [updateFields, bind_eq_ok, ← @exists_mergeChanges_iff name _ i.fields]
  constructor
  · rintro ⟨merged, hmerged, h⟩
    refine ⟨⟨merged, hmerged⟩, ?_⟩
    simpa only [get?_of_mergeChanges hdistinct hmerged] using hconstruct.mp h
  · rintro ⟨⟨merged, hmerged⟩, h⟩
    refine ⟨merged, hmerged, hconstruct.mpr ?_⟩
    simpa only [get?_of_mergeChanges hdistinct hmerged] using h

/-- An update fails for an unknown field exactly if a change names one. -/
theorem updateFields_eq_unknownField (hd : r.definition? typeName = some d)
    (hdeclared : d.fieldsOf? variant = some declared) :
    (∃ error, r.updateFields typeName variant name declared i changes = .error error ∧
      error.code = .unknownField) ↔ ∃ change ∈ changes, change.1 ∉ declared.names := by
  cases hmerged : mergeChanges name declared i.fields changes with
  | error error =>
      have hunknown : ¬ ∀ change ∈ changes, change.1 ∈ declared.names := by
        rw [← @exists_mergeChanges_iff name _ i.fields, hmerged]
        simp
      simp only [not_forall, exists_prop] at hunknown
      refine iff_of_true ⟨error, ?_, code_of_mergeChanges hmerged⟩ hunknown
      rw [updateFields, hmerged]
      rfl
  | ok merged =>
      have hknown := exists_mergeChanges_iff.mp ⟨merged, hmerged⟩
      refine iff_of_false ?_ fun h => ?_
      · rintro ⟨error, herror, hcode⟩
        rw [updateFields, hmerged] at herror
        obtain ⟨rejection, -, rfl⟩ := (construct_eq_error hd hdeclared).mp herror
        cases hcode
      · obtain ⟨change, hchange, hunknown⟩ := h
        exact hunknown (hknown change hchange)

/-- Updates of a valid instance compose and touch only what they name. -/
theorem IsInstance.updatesWell (hr : r.Checked) (hi : r.IsInstance typeName i)
    (hd : r.definition? typeName = some d) (hdeclared : d.fieldsOf? i.variant = some declared)
    (name : String) :
    UpdatesWell declared (r.updateFields typeName i.variant name declared) i := by
  obtain ⟨_, _, hd', hdeclared', hsub, hfields⟩ := hi.acceptsField
  cases hd.symm.trans hd'
  cases hdeclared.symm.trans hdeclared'
  have hdistinct : declared.names.Nodup := (hr.names hd).distinct hdeclared
  have hupdate : ∀ {j result : Instance} {changes}, j.fields.names.Sublist declared.names →
      (r.updateFields typeName i.variant name declared j changes = .ok result ↔ _) :=
    fun hj => updateFields_eq_ok hr hd hdeclared (hj.nodup hdistinct)
  constructor
  case nothing =>
    exact (hupdate hsub).mpr ⟨List.forall_mem_nil _, hi.tag_eq, rfl, hsub, hfields⟩
  case append =>
    intro changes more first second hfirst hsecond
    obtain ⟨hknown, htag, hvariant, hfirstSub, hfirst⟩ := (hupdate hsub).mp hfirst
    obtain ⟨hmore, htag, hvariant, hsecondSub, hsecond⟩ := (hupdate hfirstSub).mp hsecond
    refine (hupdate hsub).mpr ⟨List.forall_mem_append.mpr ⟨hknown, hmore⟩, htag, hvariant,
      hsecondSub, fun field hfield => ?_⟩
    have hafter := hsecond field hfield
    rw [List.reverse_append, Entries.get?_append]
    cases hlast : Entries.get? field.1 more.reverse with
    | some last => rwa [hlast] at hafter
    | none =>
        -- The second update finds what the first one made of the field, and leaves it so.
        rw [hlast] at hafter
        have hbefore := hfirst field hfield
        rwa [Option.none_or, ← hbefore.of_normal.unique hr hafter]
  case keeps =>
    intro changes result hresult
    obtain ⟨-, htag, hvariant, hresultSub, hresult⟩ := (hupdate hsub).mp hresult
    refine ⟨fun field hfield => ?_, htag.trans hi.tag_eq.symm, hvariant, hresultSub⟩
    by_cases hmem : field ∈ declared.names
    · obtain ⟨type, htype⟩ := Entries.exists_mem_of_mem_names hmem
      have hnone : Entries.get? field changes.reverse = none :=
        Entries.get?_eq_none_iff.mpr fun h => hfield (by simpa [Entries.names] using h)
      have hafter := hresult _ htype
      rw [hnone] at hafter
      exact (hfields _ htype).unique hr hafter |>.symm
    · rw [Instance.get?, Instance.get?, Entries.get?_eq_none_iff.mpr fun h => hmem (hsub.subset h),
        Entries.get?_eq_none_iff.mpr fun h => hmem (hresultSub.subset h)]
  case unknown_field => exact fun changes => updateFields_eq_unknownField hd hdeclared

end Registry

/-- A record updates its instances by their fields. -/
theorem RecordHandle.update_of_tag_eq {h : RecordHandle} {i : Instance}
    (hi : i.tag = h.registry.tag h.name) :
    h.update i = h.registry.updateFields h.name none h.name h.fields i := by
  have howned : h.owned i = .ok i := if_pos (decide_eq_true hi)
  funext changes
  rw [update, howned]
  rfl

/-- A variant updates its instances by their fields. -/
theorem VariantHandle.update_of_tag_eq {h : VariantHandle} {i : Instance}
    (hi : i.tag = h.union.registry.tag h.union.name) (hvariant : i.variant = some h.name) :
    h.update i = h.union.registry.updateFields h.union.name (some h.name) h.qualifiedName
      h.fields i := by
  have howns : h.owns i = true := by
    rw [owns, Bool.and_eq_true]
    exact ⟨decide_eq_true hi, beq_iff_eq.mpr hvariant⟩
  funext changes
  rw [update, howns]
  rfl

/-- A union updates its instances as the variant does that they are of. -/
theorem UnionHandle.update_of_tag_eq {h : UnionHandle} {v : VariantHandle} (hv : v.union = h)
    {i : Instance} (hi : i.tag = h.registry.tag h.name) (hvariant : i.variant = some v.name) :
    h.update i = v.update i := by
  subst hv
  have howned : v.union.owned (.ofInstance i) = .ok i := if_pos (decide_eq_true hi)
  have hhandle : v.union.variant v.name = .ok v := by
    rw [UnionHandle.variant]
    split
    next fields hfields =>
        obtain rfl : v.fields = fields := Option.some.inj (v.is_variant.symm.trans hfields)
        rfl
    next hnone => cases v.is_variant.symm.trans hnone
  funext changes
  rw [update, howned]
  change (v.union.variant (i.variant.getD "") >>= _) = _
  rw [hvariant, Option.getD_some, hhandle]
  rfl

/-- Records update their instances well. -/
theorem RecordHandle.updatesWell {h : RecordHandle} (hr : h.registry.Checked) {i : Instance}
    (hi : h.registry.IsInstance h.name i) : UpdatesWell h.fields h.update i := by
  obtain ⟨d, declared, hd, hdeclared, -⟩ := hi.acceptsField
  cases hd.symm.trans h.is_declared
  obtain ⟨hvariant, rfl⟩ : i.variant = none ∧ declared = h.fields := by
    cases hvariant : i.variant with
    | none => simpa [hvariant, TypeDefinition.fieldsOf?, h.is_record, eq_comm] using hdeclared
    | some variant => simp [hvariant, TypeDefinition.fieldsOf?, h.is_record] at hdeclared
  have hwell := hi.updatesWell hr hd hdeclared h.name
  rw [hvariant] at hwell
  exact hwell.congr fun j htag _ => h.update_of_tag_eq (htag.trans hi.tag_eq)

/-- Variants update their instances well. -/
theorem VariantHandle.updatesWell {h : VariantHandle} (hr : h.union.registry.Checked) {i : Instance}
    (hi : h.union.registry.IsInstance h.union.name i) (hvariant : i.variant = some h.name) :
    UpdatesWell h.fields h.update i := by
  have hdeclared : h.union.definition.fieldsOf? i.variant = some h.fields := by
    rw [hvariant, h.fieldsOf?_eq]
  have hwell := hi.updatesWell hr h.union.is_declared hdeclared h.qualifiedName
  rw [hvariant] at hwell
  exact hwell.congr fun j htag hj =>
    h.update_of_tag_eq (htag.trans hi.tag_eq) (hj.trans hvariant)

/-- The fields of an instance of a union are those of one of its variants. -/
theorem UnionHandle.exists_variant_of_fieldsOf? {h : UnionHandle} {variant : Option String}
    {declared : Fields} (hdeclared : h.definition.fieldsOf? variant = some declared) :
    ∃ name, variant = some name ∧ h.variants.get? name = some declared := by
  cases variant with
  | none => simp [TypeDefinition.fieldsOf?, h.is_union] at hdeclared
  | some name => simpa [TypeDefinition.fieldsOf?, h.is_union] using hdeclared

/-- Unions update their instances well, each as the variant that it is. -/
theorem UnionHandle.updatesWell {h : UnionHandle} (hr : h.registry.Checked) {i : Instance}
    (hi : h.registry.IsInstance h.name i) :
    ∃ declared, h.definition.fieldsOf? i.variant = some declared ∧
      UpdatesWell declared h.update i := by
  obtain ⟨d, declared, hd, hdeclared, -⟩ := hi.acceptsField
  cases hd.symm.trans h.is_declared
  obtain ⟨variant, hvariant, hfields⟩ := h.exists_variant_of_fieldsOf? hdeclared
  let v : VariantHandle := ⟨h, variant, declared, hfields⟩
  have hv : UpdatesWell declared v.update i := v.updatesWell hr hi hvariant
  refine ⟨declared, hdeclared, hv.congr fun j htag hj => ?_⟩
  exact UnionHandle.update_of_tag_eq (v := v) rfl (htag.trans hi.tag_eq) (hj.trans hvariant)

/-- Updates of an instance that a session can offer compose and touch only what they name, whichever
handle makes them that knows the instance: that of its record, of its union, or of its variant. -/
theorem Session.updates_compose {s : Session} (hs : s.ReachableWithSoundCodecs) {i : Instance}
    (hi : Offered s.instances (.ofInstance i)) :
    (∀ h : RecordHandle, h.registry ∈ s.registries → h.is (.ofInstance i) →
      UpdatesWell h.fields h.update i) ∧
    (∀ h : UnionHandle, h.registry ∈ s.registries → h.is (.ofInstance i) →
      ∃ declared, h.definition.fieldsOf? i.variant = some declared ∧
        UpdatesWell declared h.update i) ∧
    ∀ h : VariantHandle, h.union.registry ∈ s.registries → h.is (.ofInstance i) →
      UpdatesWell h.fields h.update i := by
  have hchecked := hs.givesSound.checked
  refine ⟨fun h hmem his => ?_, fun h hmem his => ?_, fun h hmem his => ?_⟩
  · exact h.updatesWell (hchecked _ hmem) (hs.isInstance_of_owns hmem hi his)
  · exact h.updatesWell (hchecked _ hmem) (hs.isInstance_of_owns hmem hi his)
  · obtain ⟨howns, hvariant⟩ := Bool.and_eq_true_iff.mp his
    exact h.updatesWell (hchecked _ hmem) (hs.isInstance_of_owns hmem hi howns)
      (beq_iff_eq.mp hvariant)

namespace Labels

/-- The definition of tasks. -/
def taskDefinition : TypeDefinition :=
  ⟨"Task", .record taskFields, none⟩

theorem definition?_task : (registry wrapped).definition? "Task" = some taskDefinition := rfl

theorem shape_taskDefinition : taskDefinition.shape = .record taskFields := rfl

/-- Tasks. -/
def taskRecord : RecordHandle :=
  ⟨registry wrapped, "Task", _, _, definition?_task, shape_taskDefinition⟩

/-- The codec of labels has an instance made of the text that it finds. -/
theorem givesSound_wrapped (registries : List Registry) : wrapped.GivesSound registries := by
  rintro _ ⟨⟩ all services typeName shape i - hservices hshape hi
  have htext : ((shape.member? "value").getD .null).WellFormed := by
    cases hmember : shape.member? "value" with
    | none => exact .null
    | some json => exact hshape.of_member? hmember
  exact hservices.fields (.object (by simp) (by simpa using htext)) hi

theorem reachableWithSoundCodecs_session : session.ReachableWithSoundCodecs := by
  have hcodecs : ∀ registries, ∀ entry ∈ (declarations wrapped).codecs,
      entry.2.GivesSound registries := by
    intro registries entry hentry
    obtain rfl := List.mem_singleton.mp hentry
    exact givesSound_wrapped registries
  have hbuild : Session.StepWithSoundCodecs .empty ⟨[registry wrapped], []⟩ :=
    .build isDeclared_of_mem_definitions rfl (hcodecs _)
  have htwin :
      Session.StepWithSoundCodecs ⟨[registry wrapped], []⟩ ⟨[registry wrapped, twin], []⟩ :=
    .build isDeclared_of_mem_definitions rfl (hcodecs _)
  have hdecode : Session.StepWithSoundCodecs ⟨[registry wrapped, twin], []⟩ session :=
    .call List.mem_cons_self (by simp [decodeTask, Call.values])
      (by simp [decodeTask, Call.shapes]) rfl
  exact ((Relation.ReflTransGen.single hbuild).tail htwin).tail hdecode

/-- The task with another title. -/
def titled (title : String) : Instance :=
  ⟨⟨0, "Task"⟩, none, [("label", .ofInstance (label "a")), ("title", .string title)]⟩

end Labels

/-- A task whose label has a codec of its own can be given another title twice, one after the other
or both at once. -/
theorem Labels.update_titled : session.ReachableWithSoundCodecs ∧
    Offered session.instances (.ofInstance task) ∧ taskRecord.registry ∈ session.registries ∧
    taskRecord.is (.ofInstance task) ∧
    taskRecord.update task [("title", some (.string "c"))] = .ok (titled "c") ∧
    taskRecord.update (titled "c") [("title", some (.string "d"))] = .ok (titled "d") ∧
    taskRecord.update task [("title", some (.string "c")), ("title", some (.string "d"))] =
      .ok (titled "d") := by
  have hi : Offered session.instances (.ofInstance task) := .inside List.mem_cons_self .refl
  have hmem : taskRecord.registry ∈ session.registries := List.mem_cons_self
  have hfirst : taskRecord.update task [("title", some (.string "c"))] = .ok (titled "c") := rfl
  have hsecond : taskRecord.update (titled "c") [("title", some (.string "d"))] =
    .ok (titled "d") := rfl
  obtain ⟨hrecord, -, -⟩ := Session.updates_compose reachableWithSoundCodecs_session hi
  have hboth := (hrecord taskRecord hmem rfl).append hfirst hsecond
  exact ⟨reachableWithSoundCodecs_session, hi, hmem, rfl, hfirst, hsecond, hboth⟩

end RecordSchema
