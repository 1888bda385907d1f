import RecordSchema.Proofs.Entries
import RecordSchema.Proofs.Outcome
import RecordSchema.Registry.Build

/-!
# Built registries

What a registry is known to be because it was built. `Declarations.IsStandard` says that the types
were declared through `TypeDefinition.record` and `TypeDefinition.union` and that none has a codec
of its own; `Registry.IsBuilt` that a registry was built from such declarations. What later proofs
use of one is in `Registry.Resolved`. `Registry.IsBuiltWithCodecs` leaves the codecs open, and
`Registry.Checked` is what is left of `Registry.Resolved` then.
-/

namespace RecordSchema

open Outcome

namespace TypeDefinition

/-- The fields that an instance of this variant has, or of the record if there is no variant. -/
def fieldsOf? (d : TypeDefinition) (variant : Option String) : Option Fields :=
  match variant, d.shape with
  | none, .record fields => some fields
  | some variant, .union variants => variants.get? variant
  | _, _ => none

/-- The definition of a record or of a union. Fields and variants are declared under distinct
names. -/
inductive IsDeclared : TypeDefinition → Prop where
  | record {name fields d} : fields.names.Nodup → record name fields = .ok d → IsDeclared d
  | union {name variants d} : variants.names.Nodup →
      (∀ variant ∈ variants, (Entries.names variant.2).Nodup) → union name variants = .ok d →
      IsDeclared d
  | withIdField {d field} : IsDeclared d → IsDeclared (d.withIdField field)

/-- The fields of each instance have distinct names, and variants are named by identifiers. -/
structure HasCheckedNames (d : TypeDefinition) : Prop where
  distinct : ∀ {variant declared}, d.fieldsOf? variant = some declared → declared.names.Nodup
  identifier : ∀ {variant declared}, d.fieldsOf? (some variant) = some declared →
    Text.isIdentifier variant

/-- A record that passes its checks has the fields that were given. -/
theorem eq_of_record {name : String} {fields : Fields} {d : TypeDefinition}
    (h : record name fields = .ok d) : d = ⟨name, .record fields, none⟩ := by
  obtain ⟨_, _, h⟩ := bind_eq_ok.mp h
  obtain ⟨_, _, h⟩ := bind_eq_ok.mp h
  exact (pure_eq_ok.mp h).symm

/-- A union that passes its checks has the variants that were given, named by identifiers. -/
theorem eq_of_union {name : String} {variants : Entries Fields} {d : TypeDefinition}
    (h : union name variants = .ok d) :
    d = ⟨name, .union variants, none⟩ ∧ ∀ variant ∈ variants, Text.isIdentifier variant.1 := by
  obtain ⟨_, _, h⟩ := bind_eq_ok.mp h
  split at h
  · cases h
  obtain ⟨_, hchecks, h⟩ := bind_eq_ok.mp h
  refine ⟨(pure_eq_ok.mp h).symm, fun variant hmem => ?_⟩
  obtain ⟨_, hcheck, _⟩ := bind_eq_ok.mp (eq_ok_of_forM hchecks variant hmem)
  by_contra hname
  simp [checkVariant, hname] at hcheck

/-- Declared types have checked names. -/
theorem IsDeclared.hasCheckedNames {d : TypeDefinition} (h : d.IsDeclared) :
    d.HasCheckedNames := by
  induction h with
  | record hdistinct hd =>
      obtain rfl := eq_of_record hd
      constructor
      · rintro (_ | variant) declared hfields
        · cases hfields
          exact hdistinct
        · cases hfields
      · intro variant declared hfields
        cases hfields
  | union _ hdistinct hd =>
      obtain ⟨rfl, hnames⟩ := eq_of_union hd
      constructor
      · rintro (_ | variant) declared hfields
        · cases hfields
        · exact hdistinct _ (Entries.mem_of_get? hfields)
      · intro variant declared hfields
        exact hnames _ (Entries.mem_of_get? hfields)
  | withIdField _ ih => exact ⟨ih.distinct, ih.identifier⟩

end TypeDefinition

namespace Declarations

/-- The types are declared as records and unions, and keep the standard codec. -/
structure IsStandard (d : Declarations) : Prop where
  declared : ∀ definition ∈ d.definitions, definition.IsDeclared
  codecs : ∀ entry ∈ d.codecs, entry.2 = .standard

/-- Definitions are filed under their names. -/
theorem mem_of_mem_declared {patterns : PatternLibrary} {found types : Entries TypeDefinition}
    {definitions : List TypeDefinition} (h : declared patterns found definitions = .ok types)
    {entry : String × TypeDefinition} (hmem : entry ∈ types) :
    entry ∈ found ∨ (entry.2 ∈ definitions ∧ entry.2.name = entry.1) := by
  induction definitions generalizing found with
  | nil =>
      cases h
      exact .inl hmem
  | cons d rest ih =>
      rw [declared] at h
      split at h
      · cases h
      · rcases ih h with hfound | ⟨hrest, hname⟩
        · rcases List.mem_append.mp hfound with hfound | hnew
          · exact .inl hfound
          · cases List.mem_singleton.mp hnew
            exact .inr ⟨List.mem_cons_self, rfl⟩
        · exact .inr ⟨List.mem_cons_of_mem _ hrest, hname⟩

/-- Resolving the types of fields keeps their names. -/
theorem names_of_mapTypes {resolve : String → FieldType → Except TypeError FieldType}
    {label : String} {fields resolved : Fields} (h : fields.mapTypes resolve label = .ok resolved) :
    fields.names = resolved.names := by
  refine (Entries.forall₂_iff (R := fun _ _ => True) |>.mp ?_).1
  refine (mapM_eq_ok.mp h).imp fun field result hfield => ⟨?_, trivial⟩
  obtain ⟨type, _, hresult⟩ := bind_eq_ok.mp hfield
  have heq : (field.1, type) = result := pure_eq_ok.mp hresult
  rw [← heq]

/-- A resolved definition has, for each of its variants, the fields of the definition. -/
theorem fieldsOf?_of_resolve {types : Entries TypeDefinition} {patterns : PatternLibrary}
    {d resolved : TypeDefinition} (h : resolve types patterns d = .ok resolved)
    {variant : Option String} {fields : Fields}
    (hfields : resolved.fieldsOf? variant = some fields) :
    ∃ declared, d.fieldsOf? variant = some declared ∧ declared.names = fields.names := by
  obtain ⟨shape, hshape, hresolved⟩ := bind_eq_ok.mp h
  obtain rfl := pure_eq_ok.mp hresolved
  obtain ⟨name, _ | variants, idField⟩ := d
  · obtain ⟨others, hothers, rfl⟩ := map_eq_ok.mp hshape
    cases variant with
    | none =>
        cases hfields
        exact ⟨_, rfl, names_of_mapTypes hothers⟩
    | some variant => cases hfields
  · obtain ⟨others, hothers, hshape⟩ := bind_eq_ok.mp hshape
    obtain rfl := pure_eq_ok.mp hshape
    cases variant with
    | none => cases hfields
    | some variant =>
        refine Entries.get?_of_forall₂
          (R := fun (left right : Fields) => left.names = right.names) ?_ hfields
        refine (mapM_eq_ok.mp hothers).imp fun entry result hentry => ?_
        obtain ⟨fields, hfields, hresult⟩ := bind_eq_ok.mp hentry
        obtain rfl := pure_eq_ok.mp hresult
        exact ⟨rfl, names_of_mapTypes hfields⟩

/-- Resolving keeps the name of a definition. -/
theorem name_of_resolve {types : Entries TypeDefinition} {patterns : PatternLibrary}
    {d resolved : TypeDefinition} (h : resolve types patterns d = .ok resolved) :
    resolved.name = d.name := by
  obtain ⟨shape, _, hresolved⟩ := bind_eq_ok.mp h
  rw [← pure_eq_ok.mp hresolved]

end Declarations

/-- Resolving keeps names checked. -/
theorem TypeDefinition.HasCheckedNames.of_resolve {types : Entries TypeDefinition}
    {patterns : PatternLibrary} {d resolved : TypeDefinition} (hd : d.HasCheckedNames)
    (h : Declarations.resolve types patterns d = .ok resolved) : resolved.HasCheckedNames := by
  constructor
  · intro variant fields hfields
    obtain ⟨declared, hdeclared, hnames⟩ := Declarations.fieldsOf?_of_resolve h hfields
    exact hnames ▸ hd.distinct hdeclared
  · intro variant fields hfields
    obtain ⟨declared, hdeclared, -⟩ := Declarations.fieldsOf?_of_resolve h hfields
    exact hd.identifier hdeclared

/-- The type is filed under its name and has checked names. -/
structure RegisteredType.IsChecked (name : String) (entry : RegisteredType) : Prop where
  name_eq : entry.definition.name = name
  names : entry.definition.HasCheckedNames

/-- The type is filed under its name, has checked names and the standard codec. -/
structure RegisteredType.IsSound (name : String) (entry : RegisteredType) : Prop where
  name_eq : entry.definition.name = name
  names : entry.definition.HasCheckedNames
  codec : entry.codec = .standard

/-- Sound types are checked. -/
theorem RegisteredType.IsSound.isChecked {name : String} {entry : RegisteredType}
    (h : entry.IsSound name) : entry.IsChecked name :=
  ⟨h.name_eq, h.names⟩

namespace Declarations

/-- Giving types their codecs keeps what holds of them with either codec. -/
theorem forall_of_withCodecs {P : String → RegisteredType → Prop}
    {types result : Entries RegisteredType} {codecs : List (String × Codec)}
    (h : withCodecs types codecs = .ok result)
    (hcodecs : ∀ given ∈ codecs, ∀ entry,
      P given.1 entry → P given.1 { entry with codec := given.2 })
    (htypes : ∀ entry ∈ types, P entry.1 entry.2) : ∀ entry ∈ result, P entry.1 entry.2 := by
  induction codecs generalizing types with
  | nil =>
      cases h
      exact htypes
  | cons first rest ih =>
      rw [withCodecs] at h
      split at h
      next old hold =>
          refine ih h (fun given hmem => hcodecs given (List.mem_cons_of_mem _ hmem)) ?_
          intro entry hmem
          rcases Entries.mem_of_mem_put hmem with rfl | hmem
          · exact hcodecs _ List.mem_cons_self _ (htypes _ (Entries.mem_of_get? hold))
          · exact htypes entry hmem
      next => cases h

/-- Types are sound when they are built, before they are given codecs. -/
theorem isSound_of_build {d : Declarations} {r : Registry}
    (hdeclared : ∀ definition ∈ d.definitions, definition.IsDeclared)
    (h : d.build r.number = .ok r) : ∃ resolved : Entries RegisteredType,
      (∀ entry ∈ resolved, entry.2.IsSound entry.1) ∧
        withCodecs resolved d.codecs = .ok r.types := by
  obtain ⟨types, htypes, h⟩ := bind_eq_ok.mp h
  obtain ⟨resolved, hresolved, h⟩ := bind_eq_ok.mp h
  obtain ⟨registered, hcodecs, h⟩ := bind_eq_ok.mp h
  have hregistered : registered = r.types := congrArg Registry.types (pure_eq_ok.mp h)
  refine ⟨resolved, fun entry hmem => ?_, hregistered ▸ hcodecs⟩
  obtain ⟨⟨name, original⟩, horiginal, hentry⟩ := exists_of_mem_right (mapM_eq_ok.mp hresolved) hmem
  obtain ⟨definition, hdefinition, hentry⟩ := bind_eq_ok.mp hentry
  obtain rfl := pure_eq_ok.mp hentry
  obtain hfound | ⟨hmem, hname⟩ := mem_of_mem_declared htypes horiginal
  · simp at hfound
  have hchecked := (hdeclared _ hmem).hasCheckedNames
  exact ⟨(name_of_resolve hdefinition).trans hname, hchecked.of_resolve hdefinition, rfl⟩

end Declarations

namespace Registry

/-- The registry was built, from types that have the standard codec. -/
def IsBuilt (r : Registry) : Prop :=
  ∃ d : Declarations, d.IsStandard ∧ d.build r.number = .ok r

/-- No variant of a union declares a field of the name under which shapes name their variants. -/
def HasFreeVariantKey (r : Registry) : Prop :=
  ∀ {typeName d variant declared}, r.definition? typeName = some d →
    d.fieldsOf? (some variant) = some declared → r.config.codec.variantKey ∉ Entries.names declared

/-- All registered types are sound. -/
def Resolved (r : Registry) : Prop :=
  ∀ entry ∈ r.types, entry.2.IsSound entry.1

/-- Building resolves every type. -/
theorem IsBuilt.resolved {r : Registry} (h : r.IsBuilt) : r.Resolved := by
  obtain ⟨d, hd, hbuild⟩ := h
  obtain ⟨resolved, hsound, hcodecs⟩ := Declarations.isSound_of_build hd.declared hbuild
  refine Declarations.forall_of_withCodecs hcodecs (fun given hgiven entry hentry => ?_) hsound
  exact ⟨hentry.name_eq, hentry.names, hd.codecs given hgiven⟩

/-! ### Codecs of their own -/

/-- The registry was built, from types that may have codecs of their own. -/
def IsBuiltWithCodecs (r : Registry) : Prop :=
  ∃ d : Declarations, (∀ definition ∈ d.definitions, definition.IsDeclared) ∧
    d.build r.number = .ok r

/-- Standard codecs are codecs. -/
theorem IsBuilt.isBuiltWithCodecs {r : Registry} (h : r.IsBuilt) : r.IsBuiltWithCodecs := by
  obtain ⟨d, hd, hbuild⟩ := h
  exact ⟨d, hd.declared, hbuild⟩

/-- All registered types are checked. -/
def Checked (r : Registry) : Prop :=
  ∀ entry ∈ r.types, entry.2.IsChecked entry.1

/-- If there is a type of this name, it has the standard codec. -/
def HasStandardCodec (r : Registry) (typeName : String) : Prop :=
  ∀ entry, r.types.get? typeName = some entry → entry.codec = .standard

/-- Types are checked whatever codecs they are given. -/
theorem IsBuiltWithCodecs.checked {r : Registry} (h : r.IsBuiltWithCodecs) : r.Checked := by
  obtain ⟨d, hdeclared, hbuild⟩ := h
  obtain ⟨resolved, hsound, hcodecs⟩ := Declarations.isSound_of_build hdeclared hbuild
  refine Declarations.forall_of_withCodecs hcodecs (fun given _ entry hentry => ?_)
    fun entry hmem => (hsound entry hmem).isChecked
  exact ⟨hentry.name_eq, hentry.names⟩

/-- A registry has the codecs that it was built with, or standard ones. -/
theorem forall_codec_of_build {P : Codec → Prop} {d : Declarations} {r : Registry}
    (hstandard : P .standard) (hdeclared : ∀ definition ∈ d.definitions, definition.IsDeclared)
    (hcodecs : ∀ entry ∈ d.codecs, P entry.2) (h : d.build r.number = .ok r) :
    ∀ entry ∈ r.types, P entry.2.codec := by
  obtain ⟨resolved, hsound, hgiven⟩ := Declarations.isSound_of_build hdeclared h
  refine Declarations.forall_of_withCodecs (P := fun _ entry => P entry.codec) hgiven
    (fun given hmem _ _ => hcodecs given hmem) fun entry hmem => ?_
  rw [(hsound entry hmem).codec]
  exact hstandard

/-- Sound types are checked types. -/
theorem Resolved.checked {r : Registry} (hr : r.Resolved) : r.Checked :=
  fun entry hmem => (hr entry hmem).isChecked

/-- Sound types have the standard codec. -/
theorem Resolved.hasStandardCodec {r : Registry} (hr : r.Resolved) (typeName : String) :
    r.HasStandardCodec typeName :=
  fun _ hentry => (hr _ (Entries.mem_of_get? hentry)).codec

section Lookups

variable {r : Registry} {typeName : String} {d : TypeDefinition}

/-- The definition found under a name has that name. -/
theorem Checked.name_eq (hr : r.Checked) (hd : r.definition? typeName = some d) :
    d.name = typeName := by
  obtain ⟨entry, hentry, rfl⟩ := Option.map_eq_some_iff.mp hd
  exact (hr _ (Entries.mem_of_get? hentry)).name_eq

/-- The definitions that are found have checked names. -/
theorem Checked.names (hr : r.Checked) (hd : r.definition? typeName = some d) :
    d.HasCheckedNames := by
  obtain ⟨entry, hentry, rfl⟩ := Option.map_eq_some_iff.mp hd
  exact (hr _ (Entries.mem_of_get? hentry)).names

/-- A registered type is there if it is found. -/
theorem lookup_eq_ok {entry : RegisteredType} :
    r.lookup typeName = .ok entry ↔ r.types.get? typeName = some entry := by
  rw [lookup]
  cases r.types.get? typeName <;> simp

/-- A definition is there if it is found. -/
theorem definition_eq_ok : r.definition typeName = .ok d ↔ r.definition? typeName = some d := by
  rw [definition, lookup, definition?]
  cases r.types.get? typeName <;> simp [Except.map]

/-- The declared fields are those of the variant of the definition. -/
theorem declaredFields_eq_ok {variant : Option String} {fields : Fields} :
    r.declaredFields typeName variant = .ok fields ↔
      ∃ d, r.definition? typeName = some d ∧ d.fieldsOf? variant = some fields := by
  rw [declaredFields, bind_eq_ok]
  refine exists_congr fun d => ?_
  rw [definition_eq_ok]
  refine and_congr_right fun _ => ?_
  obtain ⟨name, _ | variants, idField⟩ := d
  · cases variant <;> simp [TypeDefinition.fieldsOf?, pure, Except.pure]
  · cases variant with
    | none => simp [TypeDefinition.fieldsOf?]
    | some variant =>
        cases hget : variants.get? variant <;>
          simp [TypeDefinition.fieldsOf?, hget, pure, Except.pure]

end Lookups

end Registry

end RecordSchema
