import RecordSchema.Proofs.BuilderCalls
import RecordSchema.Proofs.References

/-!
# Documents, exactly

`Document.Writes` says what the objects are that declare patterns and types, and what they declare:
it mentions every member, and every condition on names. A well-formed JSON value is read exactly if
it is such an object, and as what it declares (`Document.ofJson_exact`). Types whose fields are all
texts are read as the types that a program declares with the same names and texts.
-/

namespace RecordSchema

open Outcome

/-- Entries of distinct names that are put one after the other stay as they are. -/
theorem Entries.ofList_of_nodup {α : Type} {entries : Entries α} (h : entries.names.Nodup) :
    entries.ofList = entries :=
  (putAll_of_disjoint h (by simp)).trans (List.nil_append _)

namespace Entries

variable {α β γ : Type}

/-- Entries with other values correspond by what their values become. -/
theorem related_mapValues_left {R : β → γ → Prop} {f : α → β} {entries : Entries α}
    {right : Entries γ} :
    (entries.mapValues f).Related R right ↔ entries.Related (fun a c => R (f a) c) right :=
  List.forall₂_map_left_iff

/-- A condition on the values on the right can be asked of each partner or of all entries. -/
theorem related_and_right {R : α → β → Prop} {P : β → Prop} {entries : Entries α}
    {right : Entries β} : entries.Related (fun a b => R a b ∧ P b) right ↔
      entries.Related R right ∧ ∀ entry ∈ right, P entry.2 := by
  rw [Related, Related, ← forall₂_and_right]
  simp only [and_assoc]

end Entries

/-- A step after a check gives a result exactly if the check passes and the step does. -/
theorem Outcome.check_bind_eq_ok {ε α : Type} {check : Except ε Unit} {next : Except ε α} {a : α} :
    (check >>= fun _ ↦ next) = .ok a ↔ check = .ok () ∧ next = .ok a := by
  rw [bind_eq_ok]
  exact ⟨fun ⟨_, h⟩ => h, fun h => ⟨(), h⟩⟩

/-- A list of checks passes exactly if each of them does. -/
theorem Outcome.forM_eq_ok {ε α : Type} {f : α → Except ε Unit} {items : List α} :
    forM items f = .ok () ↔ ∀ item ∈ items, f item = .ok () := by
  induction items with
  | nil => simp [pure, Except.pure]
  | cons item items ih =>
      rw [List.forM_cons, check_bind_eq_ok, ih, List.forall_mem_cons]

/-! ## Checked names -/

/-- The names of fields are not blank. -/
def Fields.HasNames (fields : Fields) : Prop :=
  ∀ field ∈ fields.names, ¬ Text.isBlankText field.toList

namespace TypeDefinition

variable {owner name : String} {fields : Fields} {variants : Entries Fields} {d : TypeDefinition}

theorem checkName_eq_ok : checkName name = .ok () ↔ Text.isIdentifier name := by
  rw [checkName]
  split <;> simp_all

theorem checkVariant_eq_ok : checkVariant owner name = .ok () ↔ Text.isIdentifier name := by
  rw [checkVariant]
  split <;> simp_all

theorem checkFields_eq_ok : checkFields owner fields = .ok () ↔ fields.HasNames := by
  rw [checkFields, Fields.HasNames]
  split <;> simp_all

/-- What a record is defined from. -/
theorem record_eq_ok : record name fields = .ok d ↔
    Text.isIdentifier name ∧ fields.HasNames ∧ ⟨name, .record fields, none⟩ = d := by
  rw [record, check_bind_eq_ok, check_bind_eq_ok, checkName_eq_ok, checkFields_eq_ok, pure_eq_ok]

/-- What a union is defined from. -/
theorem union_eq_ok : union name variants = .ok d ↔
    Text.isIdentifier name ∧ variants ≠ [] ∧
      (∀ variant ∈ variants.names, Text.isIdentifier variant) ∧
      (∀ variant ∈ variants, Fields.HasNames variant.2) ∧ ⟨name, .union variants, none⟩ = d := by
  rw [union, check_bind_eq_ok, checkName_eq_ok]
  cases variants with
  | nil => simp
  | cons first rest =>
      simp only [List.isEmpty_cons, Bool.false_eq_true, if_false, List.forM_eq_forM,
        check_bind_eq_ok, forM_eq_ok, checkVariant_eq_ok, checkFields_eq_ok, pure_eq_ok]
      rw [forall₂_and, and_assoc, Entries.names, List.forall_mem_map]
      simp

end TypeDefinition

/-! ## What documents write -/

namespace Document

/-- A pattern is written as its source, or as an object with its source and perhaps flags. -/
inductive WritesPattern : Json → Pattern → Prop where
  | source {source : String} {pattern : Pattern}
      (hcompile : Pattern.compile source "" = .ok pattern) : WritesPattern (.string source) pattern
  | object {members : Entries Json} {source flags : String} {pattern : Pattern}
      (hnames : members.names ⊆ ["regex", "flags"])
      (hregex : members.get? "regex" = some (.string source))
      (hflags : Json.Optionally .string "" (members.get? "flags") flags)
      (hcompile : Pattern.compile source flags = .ok pattern) :
      WritesPattern (.object members) pattern

/-- Fields are written as an object with a field type under each name, which is not blank. -/
inductive WritesFields (patterns : PatternLibrary) : Json → Fields → Prop where
  | object {members : Entries Json} {fields : Fields}
      (htypes : members.Related (FieldType.ofJson patterns · = .ok ·) fields)
      (hnames : fields.HasNames) : WritesFields patterns (.object members) fields

/-- A type is written as an object with its fields or its variants, and perhaps the field by which
its instances are keyed. -/
inductive WritesType (patterns : PatternLibrary) (name : String) :
    Json → TypeDefinition → Prop where
  | record {members : Entries Json} {written : Json} {fields : Fields} {idField : Option String}
      (hname : Text.isIdentifier name)
      (hnames : members.names ⊆ ["fields", "id_field"])
      (hmember : members.get? "fields" = some written)
      (hfields : WritesFields patterns written fields)
      (hid : members.get? "id_field" = idField.map .string) :
      WritesType patterns name (.object members) ⟨name, .record fields, idField⟩
  | union {members written : Entries Json} {variants : Entries Fields} {idField : Option String}
      (hname : Text.isIdentifier name)
      (hnames : members.names ⊆ ["variants", "id_field"])
      (hmember : members.get? "variants" = some (.object written))
      (hvariants : written.Related (WritesFields patterns) variants)
      (hsome : variants ≠ [])
      (hidentifiers : ∀ variant ∈ variants.names, Text.isIdentifier variant)
      (hid : members.get? "id_field" = idField.map .string) :
      WritesType patterns name (.object members) ⟨name, .union variants, idField⟩

/-- A document is written as an object with its patterns and its types, in their order. The field
types in it can name the patterns of the document, and the other patterns that are known. -/
inductive Writes (known : PatternLibrary) : Json → Document → Prop where
  | object {members patterns types : Entries Json} {document : Document}
      (hnames : members.names ⊆ ["patterns", "types"])
      (hpatterns : Json.Optionally .object [] (members.get? "patterns") patterns)
      (hwritten : patterns.Related WritesPattern document.patterns)
      (htypes : Json.Optionally .object [] (members.get? "types") types)
      (hdefinitions : List.Forall₂ (fun member definition =>
        WritesType (document.patterns ++ known) member.1 member.2 definition)
        types document.definitions) :
      Writes known (.object members) document

/-! ## What is read -/

variable {location name : String} {value : Json} {members : Entries Json} {allowed : List String}
  {patterns : PatternLibrary}

theorem object_eq_ok : object location value = .ok members ↔ value = .object members := by
  cases value <;> simp [object, Json.members?]

/-- All members have allowed names. -/
theorem checkKeys_eq_ok :
    checkKeys location allowed members = .ok () ↔ members.names ⊆ allowed := by
  rw [checkKeys]
  cases hfind : members.names.find? (!allowed.contains ·) with
  | none =>
      have hall : ∀ name ∈ members.names, name ∈ allowed := by simpa using hfind
      exact iff_of_true rfl fun name => hall name
  | some name =>
      have hname : name ∉ allowed := by simpa using List.find?_some hfind
      simpa using fun hsub => hname (hsub (List.mem_of_find?_eq_some hfind))

/-- An optional part is an object, or left out and empty. -/
theorem part_eq_ok {entries : Entries Json} : part name members = .ok entries ↔
    Json.Optionally .object [] (members.get? name) entries := by
  rw [part, Json.Optionally]
  cases members.get? name with
  | none => simp [eq_comm]
  | some value => simp [object_eq_ok]

/-- What the source and the flags of a pattern are read from. -/
theorem patternSource_eq_ok {source flags : String} :
    patternSource location value = .ok (source, flags) ↔
      (value = .string source ∧ flags = "") ∨
        ∃ members, value = .object members ∧ Entries.names members ⊆ ["regex", "flags"] ∧
          Entries.get? "regex" members = some (.string source) ∧
          Json.Optionally .string "" (Entries.get? "flags" members) flags := by
  cases value with
  | string found => simp [patternSource]
  | object members =>
      simp only [patternSource, check_bind_eq_ok, checkKeys_eq_ok]
      rcases hregex : Entries.get? "regex" members with _ | regex
      · simp [hregex]
      · cases regex with
        | string found =>
            rcases hflags : Entries.get? "flags" members with _ | value
            · simp [Json.string?, Json.Optionally, pure_eq_ok, hregex, hflags]
            · cases value <;> simp [Json.string?, Json.Optionally, pure_eq_ok, hregex, hflags]
        | _ => simp [Json.string?, hregex]
  | _ => simp [patternSource]

/-- A pattern is read exactly if it is written. -/
theorem pattern_eq_ok {result : Pattern} :
    pattern name value = .ok result ↔ WritesPattern value result := by
  have hread : pattern name value = .ok result ↔ ∃ source flags,
      patternSource ("patterns." ++ name) value = .ok (source, flags) ∧
        Pattern.compile source flags = .ok result := by
    simp [pattern, bind_eq_ok, mapError_eq_ok]
  rw [hread]
  constructor
  · rintro ⟨source, flags, hsource, hcompile⟩
    rcases patternSource_eq_ok.mp hsource with ⟨rfl, rfl⟩ | ⟨members, rfl, hnames, hregex, hflags⟩
    · exact .source hcompile
    · exact .object hnames hregex hflags hcompile
  · intro h
    cases h with
    | @source source _ hcompile =>
        exact ⟨source, "", patternSource_eq_ok.mpr (.inl ⟨rfl, rfl⟩), hcompile⟩
    | @object members source flags _ hnames hregex hflags hcompile =>
        exact ⟨source, flags, patternSource_eq_ok.mpr (.inr ⟨members, rfl, hnames, hregex, hflags⟩),
          hcompile⟩

/-- Members of distinct names that are read one by one keep their names and their order. -/
theorem readMembers_eq_ok {β : Type} {R : Json → β → Prop} (hvalue : value.WellFormed)
    {f : String → Json → Except TypeError β}
    (hf : ∀ name part, part.WellFormed → ∀ b, f name part = .ok b ↔ R part b)
    {results : Entries β} :
    (do
      let members ← object location value
      let read ← members.mapM fun (name, value) ↦ do
        let result ← f name value
        return (name, result)
      return Entries.ofList read) = .ok results ↔
    ∃ members, value = .object members ∧ Entries.Related R members results := by
  have hstep : ∀ {members : Entries Json}, value = .object members →
      ∀ member ∈ members, ∀ b, f member.1 member.2 = .ok b ↔ R member.2 b := by
    rintro members rfl member hmember
    exact hf _ _ ((Json.wellFormed_object.mp hvalue).2 member hmember)
  have hofList : ∀ {members : Entries Json} {read : Entries β}, value = .object members →
      members.Related R read → read.ofList = read := by
    rintro members read rfl hall
    exact Entries.ofList_of_nodup (hall.names_eq ▸ (Json.wellFormed_object.mp hvalue).1)
  simp only [bind_eq_ok, object_eq_ok]
  constructor
  · rintro ⟨members, hmembers, read, hmapM, hresults⟩
    have hall := (Entries.mapM_eq_ok_of_mem (hstep hmembers)).mp hmapM
    obtain rfl := (hofList hmembers hall).symm.trans (pure_eq_ok.mp hresults)
    exact ⟨members, hmembers, hall⟩
  · rintro ⟨members, hmembers, hall⟩
    have hmapM := (Entries.mapM_eq_ok_of_mem (hstep hmembers)).mpr hall
    exact ⟨members, hmembers, results, hmapM, pure_eq_ok.mpr (hofList hmembers hall)⟩

/-- The fields of an object are read one by one. -/
theorem fields_eq_ok (hvalue : value.WellFormed) {result : Fields} :
    fields patterns location value = .ok result ↔ ∃ members, value = .object members ∧
      Entries.Related (FieldType.ofJson patterns · = .ok ·) members result :=
  readMembers_eq_ok hvalue
    (f := fun _ value ↦ (FieldType.ofJson patterns value).mapError .malformedFieldType)
    fun _ _ _ _ => mapError_eq_ok

/-- The variants of an object are read one by one. -/
theorem variants_eq_ok (hvalue : value.WellFormed) {result : Entries Fields} :
    variants patterns location value = .ok result ↔ ∃ members, value = .object members ∧
      Entries.Related (fun part fields => ∃ members, part = .object members ∧
        Entries.Related (FieldType.ofJson patterns · = .ok ·) members fields) members result :=
  readMembers_eq_ok hvalue
    (f := fun variant value ↦ fields patterns (location ++ "." ++ variant) value)
    fun _ _ hpart _ => fields_eq_ok hpart

/-- Fields are written exactly if they are read and have names. -/
theorem writesFields_iff {value : Json} {result : Fields} : WritesFields patterns value result ↔
    (∃ members, value = .object members ∧
      Entries.Related (FieldType.ofJson patterns · = .ok ·) members result) ∧ result.HasNames := by
  constructor
  · rintro ⟨htypes, hnames⟩
    exact ⟨⟨_, rfl, htypes⟩, hnames⟩
  · rintro ⟨⟨members, rfl, htypes⟩, hnames⟩
    exact .object htypes hnames

/-- Variants are written exactly if they are read, and their fields have names. -/
theorem related_writesFields_iff {members : Entries Json} {result : Entries Fields} :
    members.Related (WritesFields patterns) result ↔
      members.Related (fun part fields => ∃ members, part = .object members ∧
        Entries.Related (FieldType.ofJson patterns · = .ok ·) members fields) result ∧
      ∀ variant ∈ result, Fields.HasNames variant.2 := by
  rw [← Entries.related_and_right]
  exact iff_of_eq (congrArg (Entries.Related · members result)
    (funext₂ fun _ _ => propext writesFields_iff))

/-- The field that keys instances is read from its member, if there is one. -/
theorem exists_idField_iff {member? : Option Json} {read d : TypeDefinition} :
    (match member? with
      | none => .ok read
      | some (.string field) => .ok (read.withIdField field)
      | some _ => .error (.invalidDocument location .notAString)) = (.ok d : Except TypeError _) ↔
    ∃ idField : Option String, member? = idField.map .string ∧
      idField.elim read read.withIdField = d := by
  constructor
  · intro h
    split at h
    · exact ⟨none, rfl, Except.ok.inj h⟩
    · exact ⟨some _, rfl, Except.ok.inj h⟩
    · cases h
  · rintro ⟨_ | field, rfl, rfl⟩ <;> rfl

/-- The field that keys instances comes on top of a record or of a union. -/
theorem elim_withIdField (name : String) (shape : Shape) (idField : Option String) :
    idField.elim ⟨name, shape, none⟩ (TypeDefinition.withIdField ⟨name, shape, none⟩) =
      ⟨name, shape, idField⟩ := by
  cases idField <;> rfl

/-- Members of some names, of which one is missing, have the other names. -/
theorem names_subset_of_get?_eq_none (before : List String) {after : List String} {name : String}
    (hnames : members.names ⊆ before ++ name :: after) (hnone : members.get? name = none) :
    members.names ⊆ before ++ after := by
  intro other hother
  have hne : other ≠ name := fun heq => Entries.get?_eq_none_iff.mp hnone (heq ▸ hother)
  simpa [hne] using hnames hother

/-- A type that is read is written. -/
theorem WritesType.of_definition (hvalue : value.WellFormed) {d : TypeDefinition}
    (h : definition patterns name value = .ok d) : WritesType patterns name value d := by
  obtain ⟨members, hmembers, h⟩ := bind_eq_ok.mp h
  obtain rfl := object_eq_ok.mp hmembers
  obtain ⟨hkeys, h⟩ := check_bind_eq_ok.mp h
  rw [checkKeys_eq_ok] at hkeys
  dsimp only at h
  split at h
  next part hfields hvariants =>
      obtain ⟨declared, hdeclared, h⟩ := bind_eq_ok.mp h
      obtain ⟨read, hread, h⟩ := bind_eq_ok.mp h
      obtain ⟨idField, hid, rfl⟩ := exists_idField_iff.mp h
      obtain ⟨hname, hblank, rfl⟩ := TypeDefinition.record_eq_ok.mp hread
      have hwritten := (fields_eq_ok (hvalue.of_member? hfields)).mp hdeclared
      rw [elim_withIdField]
      exact .record hname (names_subset_of_get?_eq_none ["fields"] hkeys hvariants) hfields
        (writesFields_iff.mpr ⟨hwritten, hblank⟩) hid
  next part hfields hvariants =>
      obtain ⟨declared, hdeclared, h⟩ := bind_eq_ok.mp h
      obtain ⟨read, hread, h⟩ := bind_eq_ok.mp h
      obtain ⟨idField, hid, rfl⟩ := exists_idField_iff.mp h
      obtain ⟨hname, hsome, hidentifiers, hblank, rfl⟩ := TypeDefinition.union_eq_ok.mp hread
      obtain ⟨written, rfl, hwritten⟩ := (variants_eq_ok (hvalue.of_member? hvariants)).mp hdeclared
      rw [elim_withIdField]
      exact .union hname (names_subset_of_get?_eq_none [] hkeys hfields) hvariants
        (related_writesFields_iff.mpr ⟨hwritten, hblank⟩) hsome hidentifiers hid
  next => cases h

/-- A type that is written is read. -/
theorem WritesType.definition_eq (hvalue : value.WellFormed) {d : TypeDefinition}
    (h : WritesType patterns name value d) : definition patterns name value = .ok d := by
  cases h with
  | @record members written declared idField hname hnames hfields hwritten hid =>
      obtain ⟨hread, hblank⟩ := writesFields_iff.mp hwritten
      have hvariants : members.get? "variants" = none :=
        Entries.get?_eq_none_iff.mpr fun hmem => absurd (hnames hmem) (by decide)
      have hkeys : members.names ⊆ ["fields", "variants", "id_field"] :=
        List.Subset.trans hnames (by simp)
      refine bind_eq_ok.mpr ⟨members, rfl, check_bind_eq_ok.mpr
        ⟨checkKeys_eq_ok.mpr hkeys, ?_⟩⟩
      simp only [hfields, hvariants]
      refine bind_eq_ok.mpr ⟨declared, (fields_eq_ok (hvalue.of_member? hfields)).mpr hread, ?_⟩
      refine bind_eq_ok.mpr ⟨_, TypeDefinition.record_eq_ok.mpr ⟨hname, hblank, rfl⟩, ?_⟩
      exact exists_idField_iff.mpr ⟨idField, hid, elim_withIdField ..⟩
  | @union members written declared idField hname hnames hvariants hwritten hsome hidentifiers
      hid =>
      obtain ⟨hread, hblank⟩ := related_writesFields_iff.mp hwritten
      have hfields : members.get? "fields" = none :=
        Entries.get?_eq_none_iff.mpr fun hmem => absurd (hnames hmem) (by decide)
      have hkeys : members.names ⊆ ["fields", "variants", "id_field"] :=
        List.Subset.trans hnames (by simp)
      have hdeclared : ∀ location, variants patterns location (.object written) = .ok declared :=
        fun _ => (variants_eq_ok (hvalue.of_member? hvariants)).mpr ⟨written, rfl, hread⟩
      have hunion := TypeDefinition.union_eq_ok.mpr ⟨hname, hsome, hidentifiers, hblank, rfl⟩
      refine bind_eq_ok.mpr ⟨members, rfl, check_bind_eq_ok.mpr
        ⟨checkKeys_eq_ok.mpr hkeys, ?_⟩⟩
      simp only [hfields, hvariants]
      refine bind_eq_ok.mpr ⟨declared, hdeclared _, ?_⟩
      refine bind_eq_ok.mpr ⟨_, hunion, ?_⟩
      exact exists_idField_iff.mpr ⟨idField, hid, elim_withIdField ..⟩

variable {known : PatternLibrary} {document : Document}

/-- Where the patterns of a document stand before the known ones, the same ones are found. -/
theorem definition_append {patterns : PatternLibrary} (hdistinct : patterns.names.Nodup)
    (name : String) (value : Json) :
    definition (known.putAll patterns) name value = definition (patterns ++ known) name value := by
  refine definition_congr fun expression _ => FieldType.ofJson_congr fun found _ => ?_
  rw [Entries.get?_putAll hdistinct, Entries.get?_append]

/-- An optional part of a well-formed object is a well-formed object. -/
theorem wellFormed_of_optionally {members entries : Entries Json}
    (hmembers : (Json.object members).WellFormed)
    (h : Json.Optionally .object [] (members.get? name) entries) :
    (Json.object entries).WellFormed := by
  rcases h with hpart | ⟨-, rfl⟩
  · exact hmembers.of_member? hpart
  · simp

/-- The definitions of an object are read one by one, under the patterns before the known ones. -/
theorem definitions_eq_ok {types : Entries Json} (htypes : (Json.object types).WellFormed)
    {patterns : PatternLibrary} (hdistinct : patterns.names.Nodup)
    {definitions : List TypeDefinition} :
    (types.mapM fun (name, value) ↦ definition (known.putAll patterns) name value) =
      .ok definitions ↔
    List.Forall₂ (fun member d => WritesType (patterns ++ known) member.1 member.2 d)
      types definitions := by
  rw [mapM_eq_ok]
  refine forall₂_congr_left fun member hmember d => ?_
  have hwellFormed := (Json.wellFormed_object.mp htypes).2 member hmember
  dsimp only
  rw [definition_append hdistinct]
  exact ⟨.of_definition hwellFormed, fun h => h.definition_eq hwellFormed⟩

/-- A document is read exactly if it is written. -/
theorem ofJson_iff_writes (hvalue : value.WellFormed) :
    ofJson known value = .ok document ↔ Writes known value document := by
  have hpattern : ∀ name part result, pattern name part = .ok result ↔ WritesPattern part result :=
    fun _ _ _ => pattern_eq_ok
  -- The names of the patterns are those of a well-formed object.
  have hdistinct : ∀ {members patterns : Entries Json}, (Json.object members).WellFormed →
      Json.Optionally .object [] (members.get? "patterns") patterns →
      patterns.Related WritesPattern document.patterns → document.patterns.names.Nodup :=
    fun hmembers hpatterns hwritten => hwritten.names_eq ▸
      (Json.wellFormed_object.mp (wellFormed_of_optionally hmembers hpatterns)).1
  rw [ofJson_eq_ok]
  constructor
  · rintro ⟨members, hmembers, hkeys, ⟨patterns, hpatterns, hread⟩, types, htypes, hdefined⟩
    obtain rfl := object_eq_ok.mp hmembers
    rw [part_eq_ok] at hpatterns htypes
    have hwritten := (Entries.mapM_eq_ok hpattern).mp hread
    exact .object (checkKeys_eq_ok.mp hkeys) hpatterns hwritten htypes
      ((definitions_eq_ok (wellFormed_of_optionally hvalue htypes)
        (hdistinct hvalue hpatterns hwritten)).mp hdefined)
  · rintro ⟨hnames, hpatterns, hwritten, htypes, hdefined⟩
    have hread := (Entries.mapM_eq_ok hpattern).mpr hwritten
    refine ⟨_, rfl, checkKeys_eq_ok.mpr hnames, ⟨_, part_eq_ok.mpr hpatterns, hread⟩,
      _, part_eq_ok.mpr htypes, ?_⟩
    exact (definitions_eq_ok (wellFormed_of_optionally hvalue htypes)
      (hdistinct hvalue hpatterns hwritten)).mpr hdefined

end Document

/-! ## Programs that declare the same -/

namespace Entries

variable {β γ ε : Type} {R : β → γ → Prop}

/-- Entries of distinct names that are read in turn, each behind what is read before, are read one
by one. -/
theorem readInTurn_eq_ok {P : β → Prop} {read : Entries γ → Entries β → Except ε (Entries γ)}
    (hnil : ∀ before, read before [] = .ok before)
    (hcons : ∀ {before name value rest result}, P value → ¬ before.has name →
      (read before ((name, value) :: rest) = .ok result ↔
        ∃ found, R value found ∧ read (before ++ [(name, found)]) rest = .ok result))
    {before result : Entries γ} {entries : Entries β} (hentries : ∀ entry ∈ entries, P entry.2)
    (hdistinct : (before.names ++ entries.names).Nodup) :
    read before entries = .ok result ↔
      ∃ found, entries.Related R found ∧ before ++ found = result := by
  induction entries generalizing before with
  | nil => simp [hnil, Related]
  | cons first rest ih =>
      obtain ⟨name, value⟩ := first
      obtain ⟨hfirst, hentries⟩ := List.forall_mem_cons.mp hentries
      have hnew : ¬ before.has name := by
        rw [has_iff]
        exact fun hmem => List.disjoint_of_nodup_append hdistinct hmem List.mem_cons_self
      have hrest : ∀ found, (names (before ++ [(name, found)]) ++ names rest).Nodup := by
        intro found
        rw [names_append, List.append_assoc]
        exact hdistinct
      rw [hcons hfirst hnew]
      constructor
      · rintro ⟨found, hfound, h⟩
        obtain ⟨others, hothers, rfl⟩ := (ih hentries (hrest found)).mp h
        exact ⟨(name, found) :: others, .cons ⟨rfl, hfound⟩ hothers, by simp⟩
      · rintro ⟨found, hfound, rfl⟩
        cases hfound with
        | @cons _ entry _ others hhead htail =>
            obtain ⟨_, other⟩ := entry
            obtain ⟨rfl, hother⟩ := hhead
            exact ⟨other, hother, (ih hentries (hrest other)).mpr ⟨others, htail, by simp⟩⟩

end Entries

namespace TypeDefinition

variable {owner name : String} {d : TypeDefinition}

/-- Fields of distinct names are read one by one. -/
theorem parseFields_eq_ok_iff {fields : Entries FieldExpression} (hdistinct : fields.names.Nodup)
    {result : Fields} :
    parseFields owner [] fields = .ok result ↔ fields.Related (·.parse = .ok ·) result := by
  rw [Entries.readInTurn_eq_ok (P := fun _ => True) (R := (·.parse = .ok ·)) fun _ => rfl]
  · simp
  · intro before field expression rest result _ hnew
    simp [parseFields, bind_eq_ok, mapError_eq_ok, hnew]
  · exact fun _ _ => trivial
  · exact hdistinct

/-- Variants of distinct names, with fields of distinct names, are read one by one. -/
theorem parseVariants_eq_ok_iff {variants : Entries (Entries FieldExpression)}
    (hdistinct : variants.names.Nodup)
    (hfields : ∀ variant ∈ variants, (Entries.names variant.2).Nodup) {result : Entries Fields} :
    parseVariants owner [] variants = .ok result ↔
      variants.Related (Entries.Related (·.parse = .ok ·)) result := by
  rw [Entries.readInTurn_eq_ok (P := fun fields => (Entries.names fields).Nodup)
    (R := Entries.Related (·.parse = .ok ·)) fun _ => rfl]
  · simp
  · intro before variant fields rest result hfields hnew
    simp [parseVariants, bind_eq_ok, parseFields_eq_ok_iff hfields, hnew]
  · exact hfields
  · exact hdistinct

/-- What a record is declared from. -/
theorem declareRecord_eq_ok {fields : Entries FieldExpression} (hdistinct : fields.names.Nodup) :
    declareRecord name fields = .ok d ↔ ∃ read : Fields, fields.Related (·.parse = .ok ·) read ∧
      Text.isIdentifier name ∧ read.HasNames ∧ ⟨name, .record read, none⟩ = d := by
  rw [declareRecord, bind_eq_ok]
  simp only [parseFields_eq_ok_iff hdistinct, record_eq_ok]

/-- What a union is declared from. -/
theorem declareUnion_eq_ok {variants : Entries (Entries FieldExpression)}
    (hdistinct : variants.names.Nodup)
    (hfields : ∀ variant ∈ variants, (Entries.names variant.2).Nodup) :
    declareUnion name variants = .ok d ↔
      ∃ read, variants.Related (Entries.Related (·.parse = .ok ·)) read ∧
        Text.isIdentifier name ∧ read ≠ [] ∧
        (∀ variant ∈ read.names, Text.isIdentifier variant) ∧
        (∀ variant ∈ read, Fields.HasNames variant.2) ∧ ⟨name, .union read, none⟩ = d := by
  rw [declareUnion, bind_eq_ok]
  simp only [parseVariants_eq_ok_iff hdistinct hfields, union_eq_ok]

end TypeDefinition

namespace Document

variable {patterns known : PatternLibrary} {name : String} {value : Json} {d : TypeDefinition}
  {document : Document}

/-- Fields that are written as texts. -/
def textFields (fields : Entries String) : Json :=
  .object (fields.mapValues .string)

/-- If the fields of a member are all texts, the type is the one that a program declares with the
same names and the same texts in the same order, and then keys by the same field. -/
def DeclaredAlike (member : String × Json) (d : TypeDefinition) : Prop :=
  ∃ idField : Option String, member.2.member? "id_field" = idField.map .string ∧
    (∀ fields : Entries String, member.2.member? "fields" = some (textFields fields) →
      (TypeDefinition.declareRecord member.1 (fields.mapValues .text)).map
        (fun declared ↦ idField.elim declared declared.withIdField) = .ok d) ∧
    ∀ variants : Entries (Entries String),
      member.2.member? "variants" = some (.object (variants.mapValues textFields)) →
      (TypeDefinition.declareUnion member.1 (variants.mapValues (·.mapValues .text))).map
        (fun declared ↦ idField.elim declared declared.withIdField) = .ok d

/-- Texts of fields are read as expressions are. -/
theorem writesFields_textFields_iff {fields : Entries String} {result : Fields} :
    WritesFields patterns (textFields fields) result ↔
      (fields.mapValues FieldExpression.text).Related (·.parse = .ok ·) result ∧
        result.HasNames := by
  rw [writesFields_iff, textFields]
  simp only [Json.object.injEq, exists_eq_left', Entries.related_mapValues_left]
  rfl

/-- Texts of the fields of variants are read as expressions are. -/
theorem related_writesFields_textFields_iff {variants : Entries (Entries String)}
    {result : Entries Fields} :
    (variants.mapValues textFields).Related (WritesFields patterns) result ↔
      (variants.mapValues (·.mapValues FieldExpression.text)).Related
        (Entries.Related (·.parse = .ok ·)) result ∧
      ∀ variant ∈ result, Fields.HasNames variant.2 := by
  rw [Entries.related_mapValues_left, Entries.related_mapValues_left]
  simp only [writesFields_textFields_iff, Entries.related_and_right]

/-- The texts of well-formed fields have distinct names. -/
theorem nodup_of_textFields {fields : Entries String} (h : (textFields fields).WellFormed) :
    (fields.mapValues FieldExpression.text).names.Nodup := by
  rw [Entries.names_mapValues, ← Entries.names_mapValues Json.string]
  exact (Json.wellFormed_object.mp h).1

/-- The texts of well-formed variants have distinct names, and so have those of each variant. -/
theorem nodup_of_textVariants {variants : Entries (Entries String)}
    (h : (Json.object (variants.mapValues textFields)).WellFormed) :
    (variants.mapValues (Entries.mapValues FieldExpression.text)).names.Nodup ∧
      ∀ variant ∈ variants.mapValues (Entries.mapValues FieldExpression.text),
        (Entries.names variant.2).Nodup := by
  obtain ⟨hnames, hparts⟩ := Json.wellFormed_object.mp h
  refine ⟨by simpa using hnames, List.forall_mem_map.mpr fun variant hvariant => ?_⟩
  exact nodup_of_textFields (hparts _ (List.mem_map_of_mem hvariant))

/-- A type that is written as texts is the one that is declared with them. -/
theorem WritesType.declaredAlike (hvalue : value.WellFormed)
    (h : WritesType patterns name value d) : DeclaredAlike (name, value) d := by
  cases h with
  | @record members written declared idField hname hnames hmember hfields hid =>
      refine ⟨idField, hid, fun fields hwritten => ?_, fun variants hvariants => ?_⟩
      · cases hmember.symm.trans hwritten
        obtain ⟨hread, hblank⟩ := writesFields_textFields_iff.mp hfields
        have hdistinct := nodup_of_textFields (hvalue.of_member? hmember)
        refine map_eq_ok.mpr ⟨_, (TypeDefinition.declareRecord_eq_ok hdistinct).mpr
          ⟨declared, hread, hname, hblank, rfl⟩, elim_withIdField ..⟩
      · exact absurd (hnames (Entries.mem_names_of_get? hvariants)) (by decide)
  | @union members written declared idField hname hnames hmember hvariants hsome hidentifiers hid =>
      refine ⟨idField, hid, fun fields hfields => ?_, fun variants hwritten => ?_⟩
      · exact absurd (hnames (Entries.mem_names_of_get? hfields)) (by decide)
      · cases hmember.symm.trans hwritten
        obtain ⟨hread, hblank⟩ := related_writesFields_textFields_iff.mp hvariants
        obtain ⟨hdistinct, hfields⟩ := nodup_of_textVariants (hvalue.of_member? hmember)
        refine map_eq_ok.mpr ⟨_, (TypeDefinition.declareUnion_eq_ok hdistinct hfields).mpr
          ⟨declared, hread, hname, hsome, hidentifiers, hblank, rfl⟩, elim_withIdField ..⟩

/-- A type that is written has the name of its member. -/
theorem WritesType.name_eq (h : WritesType patterns name value d) : name = d.name := by
  cases h <;> rfl

/-- The members of an optional part are the entries there. -/
theorem entriesAt_of_optionally {members entries : Entries Json}
    (h : Json.Optionally .object [] (members.get? name) entries) :
    (Json.object members).entriesAt name = entries := by
  rcases h with h | ⟨h, rfl⟩ <;> simp [Json.entriesAt, Json.entries, Json.members?, h]

/-- The types of a document are read one by one. -/
theorem Writes.definitions (h : Writes known value document) :
    List.Forall₂ (fun member definition =>
      WritesType (document.patterns ++ known) member.1 member.2 definition)
      (value.entriesAt "types") document.definitions := by
  obtain ⟨-, -, -, htypes, hdefinitions⟩ := h
  rwa [entriesAt_of_optionally htypes]

/-- A well-formed value is read exactly if it is a document, and as what it declares, member by
member in its order. The types whose fields are all texts are those that a program declares with the
same names and texts. -/
theorem ofJson_exact (hvalue : value.WellFormed) :
    (∀ document, ofJson known value = .ok document ↔ Writes known value document) ∧
      ∀ document, ofJson known value = .ok document →
        document.patterns.names = (value.entriesAt "patterns").names ∧
        document.definitions.map (·.name) = (value.entriesAt "types").names ∧
        List.Forall₂ DeclaredAlike (value.entriesAt "types") document.definitions := by
  refine ⟨fun document => ofJson_iff_writes hvalue, fun document h => ?_⟩
  have hall := ((ofJson_iff_writes hvalue).mp h).definitions
  refine ⟨names_patterns h, ?_, ?_⟩
  · exact (map_eq_map_of_forall₂ (hall.imp fun _ _ hd => hd.name_eq)).symm
  · refine forall₂_imp_left (fun member hmember d hd => ?_) hall
    exact hd.declaredAlike ((hvalue.entriesAt "types").2 member hmember)

end Document

/-! ## Orders

Orders have codes of capital letters, and what happens to them is told in texts.
-/

namespace Orders

/-- Orders and changes of orders. -/
def json : Json :=
  .object [
    ("patterns", .object [("Code", .string "[A-Z]+")]),
    ("types", .object [
      ("Order", .object [
        ("fields", .object [("code", .object [("pattern", .string "Code")])]),
        ("id_field", .string "code")]),
      ("Change", .object [("variants", .object [
        ("Placed", .object [("order", .string "Order")]),
        ("Cancelled", .object [("code", .string "String"), ("reason", .string "String?")])])])])]

theorem wellFormed_json : json.WellFormed := by
  simp [json]

theorem exists_document : ∃ document, Document.ofJson [] json = .ok document :=
  exists_ok_of_isOk (by decide +kernel)

/-- The changes of orders are those that are declared with the same texts. -/
theorem declareUnion_change : json.WellFormed ∧
    ∃ document order change, Document.ofJson [] json = .ok document ∧
      Document.Writes [] json document ∧ document.patterns.names = ["Code"] ∧
      document.definitions = [order, change] ∧ order.name = "Order" ∧
      TypeDefinition.declareUnion "Change" [("Placed", [("order", .text "Order")]),
        ("Cancelled", [("code", .text "String"), ("reason", .text "String?")])] = .ok change := by
  obtain ⟨document, hread⟩ := exists_document
  have hwrites := ((Document.ofJson_exact wellFormed_json).1 document).mp hread
  obtain ⟨hpatterns, hnames, hall⟩ := (Document.ofJson_exact wellFormed_json).2 document hread
  obtain ⟨order, _, -, hrest, hdefinitions⟩ := List.forall₂_cons_left_iff.mp hall
  obtain ⟨change, _, hchange, hnil, rfl⟩ := List.forall₂_cons_left_iff.mp hrest
  obtain rfl := List.forall₂_nil_left_iff.mp hnil
  obtain ⟨idField, hid, -, hvariants⟩ := hchange
  obtain rfl : idField = none := Option.map_eq_none_iff.mp hid.symm
  obtain ⟨declared, hdeclared, rfl⟩ := map_eq_ok.mp (hvariants
    [("Placed", [("order", "Order")]), ("Cancelled", [("code", "String"), ("reason", "String?")])]
    rfl)
  rw [hdefinitions] at hnames
  exact ⟨wellFormed_json, document, order, _, hread, hwrites, hpatterns, hdefinitions,
    (List.cons.inj hnames).1, hdeclared⟩

end Orders

end RecordSchema
