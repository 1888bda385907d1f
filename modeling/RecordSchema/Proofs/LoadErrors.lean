import RecordSchema.Proofs.LoadOrder

/-!
# What loading reports

Files are read one after the other, and a broken one is left out of what the later ones are read
under. `ReadsEach` says what reading each file comes to. Loading tells the errors of all broken
files, and otherwise builds what the files declare and finds the file of each type
(`load_exact`).
-/

namespace RecordSchema

open Outcome

/-! ## Errors told as one -/

namespace LoadError

variable {e : LoadError} {errors : List LoadError}

/-- The file that an error is about, if it is about one. -/
def place? : LoadError → Option String
  | syntaxError place => some place
  | definition place _ => some place
  | build _ => none
  | multiple _ => none

/-- An error about a file is one error. -/
theorem intoErrors_of_place? (h : e.place?.isSome) : e.intoErrors = [e] := by
  cases e with
  | multiple => cases h
  | _ => rfl

/-- Errors about files are told as they are. -/
theorem flattened_eq_self (h : ∀ e ∈ errors, e.place?.isSome) : flattened errors = errors := by
  induction errors with
  | nil => rfl
  | cons first rest ih =>
      obtain ⟨hfirst, hrest⟩ := List.forall_mem_cons.mp h
      rw [flattened, intoErrors_of_place? hfirst, ih hrest, List.singleton_append]

/-- Errors about files that are told as one are the same errors again. -/
theorem intoErrors_of_collect (h : ∀ e ∈ errors, e.place?.isSome)
    (hcollect : collect errors = some e) : e.intoErrors = errors := by
  unfold collect at hcollect
  split at hcollect
  · cases hcollect
  · cases hcollect
    exact intoErrors_of_place? (h _ List.mem_cons_self)
  · cases hcollect
    exact flattened_eq_self h

end LoadError

/-! ## Reading each file -/

/-- What reading files comes to, one after the other: a file that cannot be parsed, or that is no
document under the patterns of the good files before it, is told as an error about it. -/
inductive ReadsEach :
    PatternLibrary → List DefinitionFile → List (Except LoadError Document) → Prop where
  | nil {known : PatternLibrary} : ReadsEach known [] []
  | unparsed {known : PatternLibrary} {file : DefinitionFile} {files : List DefinitionFile}
      {outcomes : List (Except LoadError Document)}
      (hparse : file.document? = none) (tail : ReadsEach known files outcomes) :
      ReadsEach known (file :: files) (.error (.syntaxError file.place) :: outcomes)
  | refused {known : PatternLibrary} {file : DefinitionFile} {files : List DefinitionFile}
      {outcomes : List (Except LoadError Document)} {value : Json} {error : TypeError}
      (hparse : file.document? = some value) (hread : Document.ofJson known value = .error error)
      (tail : ReadsEach known files outcomes) :
      ReadsEach known (file :: files) (.error (.definition file.place error) :: outcomes)
  | good {known : PatternLibrary} {file : DefinitionFile} {files : List DefinitionFile}
      {outcomes : List (Except LoadError Document)} {value : Json} {document : Document}
      (hparse : file.document? = some value) (hread : Document.ofJson known value = .ok document)
      (tail : ReadsEach (known.putAll document.patterns) files outcomes) :
      ReadsEach known (file :: files) (.ok document :: outcomes)

/-- The error that reading a file comes to. -/
def errorOf? : Except LoadError Document → Option LoadError
  | .error e => some e
  | .ok _ => none

namespace ReadsEach

variable {known : PatternLibrary} {files : List DefinitionFile}
  {outcomes others : List (Except LoadError Document)}

/-- Reading files always comes to something. -/
theorem exists_outcomes (known : PatternLibrary) (files : List DefinitionFile) :
    ∃ outcomes, ReadsEach known files outcomes := by
  induction files generalizing known with
  | nil => exact ⟨[], .nil⟩
  | cons file files ih =>
      cases hparse : file.document? with
      | none =>
          obtain ⟨outcomes, htail⟩ := ih known
          exact ⟨_, .unparsed hparse htail⟩
      | some value =>
          cases hread : Document.ofJson known value with
          | error error =>
              obtain ⟨outcomes, htail⟩ := ih known
              exact ⟨_, .refused hparse hread htail⟩
          | ok document =>
              obtain ⟨outcomes, htail⟩ := ih (known.putAll document.patterns)
              exact ⟨_, .good hparse hread htail⟩

/-- Reading files comes to one thing only. -/
theorem unique (h : ReadsEach known files outcomes) (hother : ReadsEach known files others) :
    outcomes = others := by
  induction h generalizing others with
  | nil => cases hother; rfl
  | unparsed hparse _ ih =>
      cases hother with
      | unparsed _ tail => rw [ih tail]
      | refused hparse' | good hparse' => cases hparse.symm.trans hparse'
  | refused hparse hread _ ih =>
      cases hother with
      | unparsed hparse' => cases hparse.symm.trans hparse'
      | refused hparse' hread' tail =>
          cases hparse.symm.trans hparse'
          cases hread.symm.trans hread'
          rw [ih tail]
      | good hparse' hread' =>
          cases hparse.symm.trans hparse'
          cases hread.symm.trans hread'
  | good hparse hread _ ih =>
      cases hother with
      | unparsed hparse' => cases hparse.symm.trans hparse'
      | refused hparse' hread' =>
          cases hparse.symm.trans hparse'
          cases hread.symm.trans hread'
      | good hparse' hread' tail =>
          cases hparse.symm.trans hparse'
          cases hread.symm.trans hread'
          rw [ih tail]

/-- The error that reading a file comes to is about this file. -/
theorem places (h : ReadsEach known files outcomes) :
    List.Forall₂ (fun file outcome => ∀ e, outcome = .error e → e.place? = some file.place)
      files outcomes := by
  induction h with
  | nil => exact .nil
  | unparsed _ _ ih | refused _ _ _ ih =>
      refine .cons (fun e he => ?_) ih
      cases he
      rfl
  | good _ _ _ ih => exact .cons (fun e he => nomatch he) ih

/-- Files that are all good are read in turn. -/
theorem readInTurn {documents : List Document}
    (h : ReadsEach known files (documents.map .ok)) : ReadInTurn known files documents := by
  generalize houtcomes : documents.map Except.ok = outcomes at h
  induction h generalizing documents with
  | nil =>
      obtain rfl := List.map_eq_nil_iff.mp houtcomes
      exact .nil
  | unparsed | refused =>
      obtain ⟨_, _, -, hfirst, -⟩ := List.map_eq_cons_iff.mp houtcomes
      cases hfirst
  | good hparse hread _ ih =>
      obtain ⟨document, rest, rfl, hfirst, hrest⟩ := List.map_eq_cons_iff.mp houtcomes
      cases hfirst
      exact .cons (DefinitionFile.read_eq_ok.mpr ⟨_, hparse, hread⟩) (ih hrest)

end ReadsEach

namespace FilesRead

variable {read : FilesRead} {files : List DefinitionFile}
  {outcomes : List (Except LoadError Document)}

/-- A file that is not read adds what is wrong with it. -/
theorem add_of_error {file : DefinitionFile} {e : LoadError}
    (h : file.read read.patterns = .error e) :
    read.add file = { read with errors := read.errors ++ [e] } := by
  rw [add, h]

/-- A file that is not read tells its error before those of the files after it. -/
theorem errors_foldl_add_of_error {file : DefinitionFile} {e : LoadError} {rest : List LoadError}
    (hfile : file.read read.patterns = .error e)
    (hrest : ∀ next : FilesRead, next.patterns = read.patterns →
      (files.foldl add next).errors = next.errors ++ rest) :
    ((file :: files).foldl add read).errors = read.errors ++ e :: rest := by
  have hnext := hrest { read with errors := read.errors ++ [e] } rfl
  rw [List.foldl_cons, add_of_error hfile, hnext, List.append_assoc, List.singleton_append]

/-- The errors that reading files comes to are told in the order of the files. -/
theorem errors_foldl_add (h : ReadsEach read.patterns files outcomes) :
    (files.foldl add read).errors = read.errors ++ outcomes.filterMap errorOf? := by
  generalize hknown : read.patterns = known at h
  induction h generalizing read with
  | nil => simp
  | @unparsed _ file _ _ hparse _ ih =>
      refine errors_foldl_add_of_error ?_ fun next hnext => ih (hnext.trans hknown)
      rw [DefinitionFile.read, hparse]
  | @refused _ file _ _ value error hparse hread _ ih =>
      refine errors_foldl_add_of_error ?_ fun next hnext => ih (hnext.trans hknown)
      rw [DefinitionFile.read, hparse, hknown]
      exact mapError_eq_error.mpr ⟨error, hread, rfl⟩
  | @good _ file _ _ _ document hparse hread _ ih =>
      have hfile := DefinitionFile.read_eq_ok.mpr ⟨_, hparse, hknown ▸ hread⟩
      have hpatterns : (read.add file).patterns = _ := congrArg _ (add_of_read hfile)
      rw [List.foldl_cons, ih (hpatterns.trans (by rw [hknown])), add_of_read hfile]
      rfl

end FilesRead

/-! ## The files of types -/

/-- A document declares the types that stand in it. -/
theorem Document.names_definitions {known : PatternLibrary} {value : Json} {document : Document}
    (h : ofJson known value = .ok document) :
    document.definitions.map (·.name) = (value.entriesAt "types").names := by
  obtain ⟨members, hmembers, -, -, entries, hentries, hdefinitions⟩ := ofJson_eq_ok.mp h
  rw [entriesAt_of_part (entries_of_object hmembers) hentries]
  refine (map_eq_map_of_forall₂ ((mapM_eq_ok.mp hdefinitions).imp fun entry d hd => ?_)).symm
  obtain ⟨_, _, -, read, hread, hd⟩ := readsMembers_of_definition hd
  have hname : read.name = entry.1 := by
    cases hread with
    | record _ _ _ hrecord => rw [TypeDefinition.eq_of_record hrecord]
    | union _ _ _ hunion => rw [(TypeDefinition.eq_of_union hunion).1]
  rcases hd with rfl | ⟨_, rfl⟩ <;> exact hname.symm

/-- A file declares the types that stand in it. -/
theorem DefinitionFile.names_definitions_of_read {file : DefinitionFile} {known : PatternLibrary}
    {document : Document} (h : file.read known = .ok document) :
    document.definitions.map (·.name) = file.typeNames := by
  obtain ⟨value, hvalue, hread⟩ := read_eq_ok.mp h
  rw [typeNames, hvalue]
  exact Document.names_definitions hread

/-- Files that are read in turn declare the types that stand in them. -/
theorem ReadInTurn.names_definitions {known : PatternLibrary} {files : List DefinitionFile}
    {documents : List Document} (h : ReadInTurn known files documents) :
    (documents.flatMap (·.definitions)).map (·.name) = files.flatMap (·.typeNames) := by
  induction h with
  | nil => rfl
  | cons head _ ih =>
      rw [List.flatMap_cons, List.flatMap_cons, List.map_append, ih,
        DefinitionFile.names_definitions_of_read head]

namespace FilesRead

variable {read : FilesRead} {files : List DefinitionFile}

/-- Types that are added by files stand with the place of a file that declares them. -/
theorem exists_file_of_mem_definitions {entry : String × TypeDefinition}
    (h : entry ∈ (files.foldl add read).definitions) : entry ∈ read.definitions ∨
      ∃ file ∈ files, file.place = entry.1 ∧ entry.2.name ∈ file.typeNames := by
  induction files generalizing read with
  | nil => exact .inl h
  | cons file files ih =>
      rcases ih h with hadd | ⟨other, hother, hentry⟩
      · unfold add at hadd
        split at hadd
        · exact .inl hadd
        next document hread =>
            rcases List.mem_append.mp hadd with hold | hnew
            · exact .inl hold
            · obtain ⟨d, hd, rfl⟩ := List.mem_map.mp hnew
              refine .inr ⟨file, List.mem_cons_self, rfl, ?_⟩
              rw [← DefinitionFile.names_definitions_of_read hread]
              exact List.mem_map_of_mem hd
      · exact .inr ⟨other, List.mem_cons_of_mem _ hother, hentry⟩

end FilesRead

/-- What stands in one of many lists that have no member in common stands in no other one. -/
theorem exists_only_of_nodup_flatMap {α β : Type} {f : α → List β} {items : List α}
    (hdistinct : (items.flatMap f).Nodup) {item : α} (hitem : item ∈ items) {b : β}
    (hb : b ∈ f item) : ∃ before after, items = before ++ item :: after ∧
      ∀ other ∈ before ++ after, b ∉ f other := by
  obtain ⟨before, after, rfl⟩ := List.append_of_mem hitem
  rw [List.flatMap_append, List.flatMap_cons] at hdistinct
  obtain ⟨-, hrest, hbefore⟩ := List.nodup_append.mp hdistinct
  obtain ⟨-, -, hafter⟩ := List.nodup_append.mp hrest
  refine ⟨before, after, rfl, fun other hother hmem => ?_⟩
  rcases List.mem_append.mp hother with hother | hother
  · exact hbefore b (List.mem_flatMap.mpr ⟨other, hother, hmem⟩) b (List.mem_append_left _ hb) rfl
  · exact hafter b hb b (List.mem_flatMap.mpr ⟨other, hother, hmem⟩) rfl

/-- The origins of types name each type of the registry once, in its order, with the place of the
one file that declares it. -/
theorem origins_of_load {config : EngineConfig} {files : List DefinitionFile}
    {loaded : LoadedDefinitions} (h : load config files = .ok loaded) :
    loaded.origins.names = loaded.registry.types.names ∧ loaded.origins.names.Nodup ∧
      ∀ entry ∈ loaded.origins, ∃ before file after, files = before ++ file :: after ∧
        file.place = entry.2 ∧ entry.1 ∈ file.typeNames ∧
        ∀ other ∈ before ++ after, entry.1 ∉ other.typeNames := by
  obtain ⟨herrors, hbuild, horigins⟩ := load_eq_ok.mp h
  obtain ⟨documents, hdocuments⟩ := FilesRead.exists_readInTurn herrors
  obtain ⟨-, hdefinitions, -⟩ :=
    @FilesRead.foldl_add_of_readInTurn .empty files documents hdocuments
  obtain ⟨hnames, hdistinct⟩ := Declarations.names_types_of_build hbuild
  have horiginNames : loaded.origins.names = loaded.registry.types.names := by
    rw [horigins, hnames]
    simp [FilesRead.origins, Entries.names, Declarations.typeNames, FilesRead.declarations]
  have hfiles : loaded.registry.types.names = files.flatMap (·.typeNames) := by
    rw [← hdocuments.names_definitions, hnames, Declarations.typeNames, FilesRead.declarations]
    exact congrArg _ hdefinitions
  refine ⟨horiginNames, horiginNames ▸ hdistinct, fun entry hentry => ?_⟩
  rw [horigins] at hentry
  obtain ⟨⟨place, d⟩, hmem, rfl⟩ := List.mem_map.mp hentry
  obtain ⟨file, hfile, hplace, hname⟩ :=
    (FilesRead.exists_file_of_mem_definitions hmem).resolve_left List.not_mem_nil
  obtain ⟨before, after, hsplit, honly⟩ :=
    exists_only_of_nodup_flatMap (hfiles ▸ hdistinct) hfile hname
  exact ⟨before, file, after, hsplit, hplace, hname, honly⟩

/-! ## Loading, exactly -/

/-- What loading comes to where reading the files comes to these outcomes. -/
structure LoadsExactly (config : EngineConfig) (files : List DefinitionFile)
    (outcomes : List (Except LoadError Document)) : Prop where
  fails_iff : (∃ e, load config files = .error e ∧ ∃ found ∈ e.intoErrors, found.place?.isSome) ↔
    ∃ e, .error e ∈ outcomes
  errors : (∃ e, .error e ∈ outcomes) →
    ∃ e, load config files = .error e ∧ e.intoErrors = outcomes.filterMap errorOf?
  places : List.Forall₂ (fun file outcome => ∀ e, outcome = .error e → e.place? = some file.place)
    files outcomes
  builds : (¬ ∃ e, .error e ∈ outcomes) → ∃ documents, outcomes = documents.map .ok ∧
    (load config files).map (·.registry) =
      ((Document.declarations config documents).build 0).mapError .build
  origins : ∀ loaded, load config files = .ok loaded →
    loaded.origins.names = loaded.registry.types.names ∧ loaded.origins.names.Nodup ∧
      ∀ entry ∈ loaded.origins, ∃ before file after, files = before ++ file :: after ∧
        file.place = entry.2 ∧ entry.1 ∈ file.typeNames ∧
        ∀ other ∈ before ++ after, entry.1 ∉ other.typeNames

section

variable {config : EngineConfig} {files : List DefinitionFile}
  {outcomes : List (Except LoadError Document)} {e : LoadError}

/-- The errors that are told are those that reading files comes to. -/
theorem mem_filterMap_errorOf?_iff : e ∈ outcomes.filterMap errorOf? ↔ .error e ∈ outcomes := by
  rw [List.mem_filterMap]
  constructor
  · rintro ⟨outcome, hmem, houtcome⟩
    cases outcome with
    | error found =>
        cases houtcome
        exact hmem
    | ok document => cases houtcome
  · exact fun hmem => ⟨_, hmem, rfl⟩

/-- Errors that reading files comes to are about files. -/
theorem ReadsEach.isSome_place? {known : PatternLibrary} (h : ReadsEach known files outcomes)
    (he : .error e ∈ outcomes) : e.place?.isSome := by
  obtain ⟨file, -, hplace⟩ := exists_of_mem_right h.places he
  rw [hplace e rfl, Option.isSome_some]

/-- Outcomes without errors are documents. -/
theorem exists_documents (h : ¬ ∃ e, .error e ∈ outcomes) :
    ∃ documents : List Document, outcomes = documents.map .ok := by
  induction outcomes with
  | nil => exact ⟨[], rfl⟩
  | cons outcome rest ih =>
      obtain ⟨documents, rfl⟩ := ih fun ⟨e, he⟩ => h ⟨e, List.mem_cons_of_mem _ he⟩
      cases outcome with
      | error e => exact absurd ⟨e, List.mem_cons_self⟩ h
      | ok document => exact ⟨document :: documents, rfl⟩

/-- Where files are read in turn, loading comes to what building what they declare does. -/
theorem load_of_readInTurn {documents : List Document} (h : ReadInTurn [] files documents) :
    (load config files).map (·.registry) =
      ((Document.declarations config documents).build 0).mapError .build := by
  obtain ⟨hdeclared, herrors⟩ := FilesRead.declarations_of_readInTurn h config
  unfold load
  dsimp only
  rw [LoadError.collect_eq_none_iff.mpr herrors, hdeclared]
  cases (Document.declarations config documents).build 0 <;> rfl

/-- Where some files are broken, loading tells the errors about them. -/
theorem load_of_readsEach (h : ReadsEach [] files outcomes) (hbroken : ∃ e, .error e ∈ outcomes) :
    ∃ e, load config files = .error e ∧ e.intoErrors = outcomes.filterMap errorOf? := by
  have herrors : (FilesRead.ofFiles files).errors = outcomes.filterMap errorOf? :=
    @FilesRead.errors_foldl_add .empty files outcomes h
  cases hcollect : LoadError.collect (FilesRead.ofFiles files).errors with
  | none =>
      obtain ⟨e, he⟩ := hbroken
      rw [LoadError.collect_eq_none_iff, herrors] at hcollect
      exact absurd (mem_filterMap_errorOf?_iff.mpr he) (hcollect ▸ List.not_mem_nil)
  | some e =>
      refine ⟨e, ?_, ?_⟩
      · unfold load
        dsimp only
        rw [hcollect]
      · rw [herrors] at hcollect
        exact LoadError.intoErrors_of_collect
          (fun found hfound => h.isSome_place? (mem_filterMap_errorOf?_iff.mp hfound)) hcollect

/-- Loading tells an error about a file exactly if some file is broken. -/
theorem exists_place_iff_of_readsEach (h : ReadsEach [] files outcomes) :
    (∃ e, load config files = .error e ∧ ∃ found ∈ e.intoErrors, found.place?.isSome) ↔
      ∃ e, .error e ∈ outcomes := by
  constructor
  · rintro ⟨e, hload, found, hfound, hplace⟩
    by_contra hgood
    obtain ⟨documents, rfl⟩ := exists_documents hgood
    have hbuild : (load config files).map (·.registry) = _ := load_of_readInTurn h.readInTurn
    rw [hload] at hbuild
    obtain ⟨error, -, rfl⟩ := mapError_eq_error.mp hbuild.symm
    obtain rfl := List.mem_singleton.mp hfound
    cases hplace
  · intro hbroken
    obtain ⟨e, hload, hinto⟩ : ∃ e, load config files = .error e ∧ _ := load_of_readsEach h hbroken
    obtain ⟨found, hfound⟩ := hbroken
    exact ⟨e, hload, found, hinto ▸ mem_filterMap_errorOf?_iff.mpr hfound, h.isSome_place? hfound⟩

end

/-- Loading files comes to exactly what reading each of them does: it tells one error about each
broken file, in their order, or it builds what the files declare, and then it tells of each type the
file that declares it. -/
theorem load_exact (config : EngineConfig) (files : List DefinitionFile) :
    ∃ outcomes, (∀ others, ReadsEach [] files others ↔ others = outcomes) ∧
      LoadsExactly config files outcomes := by
  obtain ⟨outcomes, h⟩ := ReadsEach.exists_outcomes [] files
  refine ⟨outcomes, fun others => ⟨fun hothers => hothers.unique h, fun heq => heq ▸ h⟩, ?_⟩
  constructor
  case fails_iff => exact exists_place_iff_of_readsEach h
  case errors => exact load_of_readsEach h
  case places => exact h.places
  case builds =>
    intro hgood
    obtain ⟨documents, rfl⟩ := exists_documents hgood
    exact ⟨documents, rfl, load_of_readInTurn h.readInTurn⟩
  case origins => exact fun loaded => origins_of_load

end RecordSchema
