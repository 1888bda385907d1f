import RecordSchema.Proofs.Resolution
import RecordSchema.Registry.Loading

/-!
# Loaded registries

Documents declare records and unions like any other declaration, and no codecs. So the registry that
is loaded from definition files is built from checked declarations (`isBuilt_of_load`).
-/

namespace RecordSchema

open Outcome

/-! ## Documents -/

namespace Document

variable {patterns : PatternLibrary} {location name : String} {value : Json}

/-- Fields that are read have names of their own. -/
theorem nodup_of_fields {result : Fields} (h : fields patterns location value = .ok result) :
    result.names.Nodup := by
  obtain ⟨_, _, h⟩ := bind_eq_ok.mp h
  obtain ⟨read, _, h⟩ := bind_eq_ok.mp h
  exact pure_eq_ok.mp h ▸ Entries.nodup_names_ofList read

/-- Variants that are read have names of their own, and so have their fields. -/
theorem nodup_of_variants {result : Entries Fields}
    (h : variants patterns location value = .ok result) :
    result.names.Nodup ∧ ∀ variant ∈ result, (Entries.names variant.2).Nodup := by
  obtain ⟨_, _, h⟩ := bind_eq_ok.mp h
  obtain ⟨read, hread, h⟩ := bind_eq_ok.mp h
  obtain rfl := pure_eq_ok.mp h
  refine ⟨Entries.nodup_names_ofList read, fun variant hvariant => ?_⟩
  obtain ⟨_, -, hmember⟩ :=
    exists_of_mem_right (mapM_eq_ok.mp hread) (Entries.mem_of_mem_ofList hvariant)
  obtain ⟨_, hfields, hmember⟩ := bind_eq_ok.mp hmember
  exact pure_eq_ok.mp hmember ▸ nodup_of_fields hfields

/-- `ReadsMembers patterns name members d` says that the type is read from these members of an
object: as a record from the one with its fields, or as a union from the one with its variants. -/
inductive ReadsMembers (patterns : PatternLibrary) (name : String) (members : Entries Json) :
    TypeDefinition → Prop where
  | record {location part declared d} : members.get? "fields" = some part →
      members.get? "variants" = none → fields patterns location part = .ok declared →
      TypeDefinition.record name declared = .ok d → ReadsMembers patterns name members d
  | union {location part declared d} : members.get? "fields" = none →
      members.get? "variants" = some part → variants patterns location part = .ok declared →
      TypeDefinition.union name declared = .ok d → ReadsMembers patterns name members d

/-- A type is read from the members of an object, and the field by which its instances are keyed is
all that can come on top. -/
theorem readsMembers_of_definition {d : TypeDefinition}
    (h : definition patterns name value = .ok d) :
    ∃ location members, object location value = .ok members ∧
      ∃ read, ReadsMembers patterns name members read ∧
        (d = read ∨ ∃ field, d = read.withIdField field) := by
  obtain ⟨members, hmembers, h⟩ := bind_eq_ok.mp h
  obtain ⟨_, -, h⟩ := bind_eq_ok.mp h
  refine ⟨_, members, hmembers, ?_⟩
  dsimp only at h
  split at h
  next hfields hvariants =>
      obtain ⟨_, hdeclared, h⟩ := bind_eq_ok.mp h
      obtain ⟨read, hread, h⟩ := bind_eq_ok.mp h
      refine ⟨read, .record hfields hvariants hdeclared hread, ?_⟩
      split at h
      · exact .inl (pure_eq_ok.mp h).symm
      · exact .inr ⟨_, (pure_eq_ok.mp h).symm⟩
      · cases h
  next hfields hvariants =>
      obtain ⟨_, hdeclared, h⟩ := bind_eq_ok.mp h
      obtain ⟨read, hread, h⟩ := bind_eq_ok.mp h
      refine ⟨read, .union hfields hvariants hdeclared hread, ?_⟩
      split at h
      · exact .inl (pure_eq_ok.mp h).symm
      · exact .inr ⟨_, (pure_eq_ok.mp h).symm⟩
      · cases h
  next => cases h

/-- Types that are read are declared as records and unions. -/
theorem isDeclared_of_definition {d : TypeDefinition}
    (h : definition patterns name value = .ok d) : d.IsDeclared := by
  obtain ⟨_, members, -, read, hread, hd⟩ := readsMembers_of_definition h
  have hdeclared : read.IsDeclared := by
    cases hread with
    | record _ _ hfields hread => exact .record (nodup_of_fields hfields) hread
    | union _ _ hvariants hread =>
        obtain ⟨hnames, hfields⟩ := nodup_of_variants hvariants
        exact .union hnames hfields hread
  rcases hd with rfl | ⟨field, rfl⟩
  · exact hdeclared
  · exact .withIdField hdeclared

variable {known : PatternLibrary} {document : Document}

/-- What a document that is read consists of. -/
theorem ofJson_eq_ok : ofJson known value = .ok document ↔
    ∃ members, object "document" value = .ok members ∧
      checkKeys "document" ["patterns", "types"] members = .ok () ∧
      (∃ entries, part "patterns" members = .ok entries ∧
        entries.mapM (fun (name, value) ↦ return (name, ← pattern name value)) =
          .ok document.patterns) ∧
      ∃ entries, part "types" members = .ok entries ∧
        entries.mapM (fun (name, value) ↦
          definition (known.putAll document.patterns) name value) = .ok document.definitions := by
  obtain ⟨patterns, definitions⟩ := document
  simp only [ofJson, bind_eq_ok, pure_eq_ok, mk.injEq]
  constructor
  · rintro ⟨members, hmembers, ⟨⟩, hkeys, entries, hentries, _, hpatterns, types, htypes, _,
      hdefinitions, rfl, rfl⟩
    exact ⟨members, hmembers, hkeys, ⟨entries, hentries, hpatterns⟩, types, htypes, hdefinitions⟩
  · rintro ⟨members, hmembers, hkeys, ⟨entries, hentries, hpatterns⟩, types, htypes, hdefinitions⟩
    exact ⟨members, hmembers, (), hkeys, entries, hentries, _, hpatterns, types, htypes, _,
      hdefinitions, rfl, rfl⟩

/-- A document declares records and unions. -/
theorem isDeclared_of_ofJson (h : ofJson known value = .ok document) :
    ∀ d ∈ document.definitions, d.IsDeclared := by
  obtain ⟨_, _, _, _, _, _, hdefinitions⟩ := ofJson_eq_ok.mp h
  intro d hd
  obtain ⟨_, -, hread⟩ := exists_of_mem_right (mapM_eq_ok.mp hdefinitions) hd
  exact isDeclared_of_definition hread

end Document

/-! ## Files -/

/-- A file is read exactly if its text spells a document that is read. -/
theorem DefinitionFile.read_eq_ok {file : DefinitionFile} {known : PatternLibrary}
    {document : Document} : file.read known = .ok document ↔
      ∃ value, file.document? = some value ∧ Document.ofJson known value = .ok document := by
  unfold read
  split
  next hnone => simp [hnone]
  next value hvalue => simp [hvalue, mapError_eq_ok]

namespace FilesRead

/-- Every file adds records and unions. -/
theorem isDeclared_of_add {read : FilesRead} {file : DefinitionFile}
    (hread : ∀ entry ∈ read.definitions, entry.2.IsDeclared) :
    ∀ entry ∈ (read.add file).definitions, entry.2.IsDeclared := by
  unfold add
  split
  · exact hread
  next document hdocument =>
      intro entry hentry
      rcases List.mem_append.mp hentry with hold | hnew
      · exact hread entry hold
      · obtain ⟨d, hd, rfl⟩ := List.mem_map.mp hnew
        obtain ⟨_, -, hjson⟩ := DefinitionFile.read_eq_ok.mp hdocument
        exact Document.isDeclared_of_ofJson hjson d hd

/-- What is read from files are records and unions. -/
theorem isDeclared_of_ofFiles (files : List DefinitionFile) :
    ∀ entry ∈ (ofFiles files).definitions, entry.2.IsDeclared := by
  suffices ∀ (read : FilesRead), (∀ entry ∈ read.definitions, entry.2.IsDeclared) →
      ∀ entry ∈ (files.foldl add read).definitions, entry.2.IsDeclared from
    this empty (by simp [empty])
  induction files with
  | nil => exact fun _ h => h
  | cons file files ih => exact fun read h => ih (read.add file) (isDeclared_of_add h)

/-- What is read from files are declarations of records and unions with the standard codec. -/
theorem isStandard_declarations (files : List DefinitionFile) (config : EngineConfig) :
    ((ofFiles files).declarations config).IsStandard where
  declared := List.forall_mem_map.mpr (isDeclared_of_ofFiles files)
  codecs := by simp [declarations]

end FilesRead

/-- There is nothing to tell exactly if there are no errors. -/
theorem LoadError.collect_eq_none_iff {errors : List LoadError} :
    collect errors = none ↔ errors = [] := by
  unfold collect
  split <;> simp_all

/-- A registry is loaded exactly if all files can be read and it can be built from what they
declare. -/
theorem load_eq_ok {config : EngineConfig} {files : List DefinitionFile}
    {loaded : LoadedDefinitions} :
    load config files = .ok loaded ↔
      (FilesRead.ofFiles files).errors = [] ∧
        ((FilesRead.ofFiles files).declarations config).build 0 = .ok loaded.registry ∧
        loaded.origins = (FilesRead.ofFiles files).origins := by
  obtain ⟨registry, origins⟩ := loaded
  rw [← LoadError.collect_eq_none_iff]
  unfold load
  dsimp only
  split
  next error herror => simp [herror]
  next hnone =>
      split
      next built hbuilt => simp [hnone, hbuilt, eq_comm]
      next error herror => simp [herror]

/-- A loaded registry is built. -/
theorem isBuilt_of_load {config : EngineConfig} {files : List DefinitionFile}
    {loaded : LoadedDefinitions} (h : load config files = .ok loaded) :
    loaded.registry.IsBuilt := by
  obtain ⟨-, hbuild, -⟩ := load_eq_ok.mp h
  have hnumber := (Declarations.build_eq_ok.mp hbuild).2.1.1
  exact ⟨_, FilesRead.isStandard_declarations files config, hnumber.symm ▸ hbuild⟩

end RecordSchema
