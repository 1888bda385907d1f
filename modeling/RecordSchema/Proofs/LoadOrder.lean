import Mathlib.Data.List.Perm.Basic
import RecordSchema.Proofs.Loaded

/-!
# The order of definition files

A name in the notation of field types is resolved when a registry is built, over what all files
declare. A structured field type that names a pattern is resolved while its file is read, over the
patterns of this file and of those before. So files that can be loaded in one order can be loaded in
another one exactly if, there too, no structured field type comes before the pattern that it names
(`load_perm`).
-/

namespace RecordSchema

open Outcome

/-! ## What a document names -/

/-- The members of an object. -/
def Json.entries (value : Json) : Entries Json :=
  value.members?.getD []

/-- The members of the object that is the member of this name. -/
def Json.entriesAt (name : String) (value : Json) : Entries Json :=
  (value.entries.get? name).elim [] entries

/-- The pattern that a structured field type names. -/
def FieldType.patternReference? (value : Json) : Option String :=
  (value.entries.get? "pattern").bind (·.string?)

namespace Document

/-- The field types that a type is declared with. -/
def typeExpressions (type : Json) : List Json :=
  (type.entriesAt "fields").values ++
    (type.entriesAt "variants").values.flatMap fun fields ↦ fields.entries.values

/-- The field types in a document. -/
def expressions (document : Json) : List Json :=
  (document.entriesAt "types").values.flatMap typeExpressions

/-- The patterns that structured field types of a document name. -/
def patternReferences (document : Json) : List String :=
  (expressions document).filterMap FieldType.patternReference?

end Document

namespace DefinitionFile

variable (file : DefinitionFile)

/-- The names of the patterns that the file declares. -/
def patternNames : List String :=
  file.document?.elim [] fun document ↦ (document.entriesAt "patterns").names

/-- The names of the types that the file declares. -/
def typeNames : List String :=
  file.document?.elim [] fun document ↦ (document.entriesAt "types").names

/-- The patterns that structured field types of the file name. -/
def patternReferences : List String :=
  file.document?.elim [] Document.patternReferences

end DefinitionFile

/-- Each structured field type names one of these patterns, or one of its own file or of a file
before. -/
def PatternsPrecede (seen : List String) : List DefinitionFile → Prop
  | [] => True
  | file :: rest =>
      (∀ name ∈ file.patternReferences, name ∈ seen ∨ name ∈ file.patternNames) ∧
        PatternsPrecede (seen ++ file.patternNames) rest

instance decidablePatternsPrecede (seen : List String) :
    (files : List DefinitionFile) → Decidable (PatternsPrecede seen files)
  | [] => inferInstanceAs (Decidable True)
  | file :: rest =>
      have := decidablePatternsPrecede (seen ++ file.patternNames) rest
      inferInstanceAs (Decidable (_ ∧ _))

/-! ## Reading under other known patterns -/

namespace FieldType

variable {patterns patterns' : PatternLibrary} {value : Json}

/-- Only the pattern that a field type names matters for what it is read as. -/
theorem ofJson_congr
    (h : ∀ name ∈ patternReference? value, patterns.get? name = patterns'.get? name) :
    ofJson patterns value = ofJson patterns' value := by
  cases value with
  | object members =>
      have hnamed : namedPattern patterns (Entries.get? "pattern" members) =
          namedPattern patterns' (Entries.get? "pattern" members) := by
        cases hpattern : Entries.get? "pattern" members with
        | none => rfl
        | some named =>
            cases named with
            | string name =>
                have hname := h name (by
                  simp [patternReference?, Json.entries, Json.members?, hpattern, Json.string?])
                rw [namedPattern, namedPattern, hname]
            | _ => rfl
      simp only [ofJson, ofReference, Json.members?, ofMembers, hnamed]
  | _ => rfl

/-- A pattern that is named is one of the patterns that are there. -/
theorem namedPattern_string_eq_ok {name found : String} {pattern : Pattern} :
    namedPattern patterns (some (.string name)) = .ok (found, pattern) ↔
      found = name ∧ patterns.get? name = some pattern := by
  rw [namedPattern]
  cases patterns.get? name <;> simp [eq_comm]

/-- Whatever else an object says, one with a pattern is read as a string that matches it. -/
theorem exists_namedPattern_of_ofMembers {members : Entries Json} {type : FieldType}
    (h : ofMembers patterns members = .ok type) (hhas : members.has "pattern") :
    ∃ found isOptional, namedPattern patterns (members.get? "pattern") = .ok found ∧
      ofNamedPattern found.1 found.2 isOptional = type := by
  have hnamed : ∀ isOptional : Bool,
      (namedPattern patterns (members.get? "pattern") >>= fun found ↦
        pure (ofNamedPattern found.1 found.2 isOptional)) = .ok type →
      ∃ found isOptional, namedPattern patterns (members.get? "pattern") = .ok found ∧
        ofNamedPattern found.1 found.2 isOptional = type := by
    intro isOptional h
    obtain ⟨found, hfound, h⟩ := bind_eq_ok.mp h
    exact ⟨found, isOptional, hfound, pure_eq_ok.mp h⟩
  rw [ofMembers] at h
  dsimp only at h
  cases hregex : members.get? "regex" with
  | some regex =>
      simp only [hregex, hhas, Bool.true_or, if_true] at h
      split at h <;> cases h
  | none =>
      simp only [hregex] at h
      split at h
      · exact hnamed false h
      · exact hnamed _ h
      · cases h

/-- A structured field type that names a pattern takes it from the patterns that are there. -/
theorem rule_of_ofJson {type : FieldType} (h : ofJson patterns value = .ok type) {name : String}
    (hname : patternReference? value = some name) :
    ∃ pattern, patterns.get? name = some pattern ∧ type.rule = .pattern name pattern := by
  cases value with
  | object members =>
      obtain ⟨named, hpattern, hstring⟩ := Option.bind_eq_some_iff.mp hname
      replace hpattern : Entries.get? "pattern" members = some named := hpattern
      cases named <;> cases hstring
      obtain ⟨⟨found, pattern⟩, isOptional, hfound, rfl⟩ :=
        exists_namedPattern_of_ofMembers (mapError_eq_ok.mp h) (by rw [Entries.has, hpattern]; rfl)
      rw [hpattern] at hfound
      obtain ⟨rfl, hget⟩ := namedPattern_string_eq_ok.mp hfound
      exact ⟨pattern, hget, rfl⟩
  | _ => cases hname

/-- The pattern that a field type names is there if the field type can be read. -/
theorem has_of_ofJson {type : FieldType} (h : ofJson patterns value = .ok type) :
    ∀ name ∈ patternReference? value, patterns.has name := by
  intro name hname
  obtain ⟨pattern, hpattern, -⟩ := rule_of_ofJson h hname
  rw [Entries.has, hpattern, Option.isSome_some]

end FieldType

namespace Document

variable {patterns patterns' : PatternLibrary} {location name : String} {value : Json}

/-- The members of an object are its entries. -/
theorem entries_of_object {members : Entries Json} (h : object location value = .ok members) :
    value.entries = members := by
  rw [object] at h
  split at h
  next heq => rw [Json.entries, heq, Option.getD_some, Except.ok.inj h]
  next => cases h

/-- Fields are read in the same way if each of them is. -/
theorem fields_congr (h : ∀ expression ∈ value.entries.values,
      FieldType.ofJson patterns expression = FieldType.ofJson patterns' expression) :
    fields patterns location value = fields patterns' location value := by
  refine bind_congr_of_ok fun members hmembers => ?_
  rw [entries_of_object hmembers] at h
  refine congrArg (· >>= fun read ↦ pure (Entries.ofList read)) (mapM_congr ?_)
  intro member hmember
  dsimp only
  rw [h member.2 (List.mem_map_of_mem hmember)]

/-- Variants are read in the same way if each of their fields is. -/
theorem variants_congr (h : ∀ expression ∈ value.entries.values.flatMap fun fields ↦
      fields.entries.values,
      FieldType.ofJson patterns expression = FieldType.ofJson patterns' expression) :
    variants patterns location value = variants patterns' location value := by
  refine bind_congr_of_ok fun members hmembers => ?_
  rw [entries_of_object hmembers] at h
  refine congrArg (· >>= fun read ↦ pure (Entries.ofList read)) (mapM_congr ?_)
  intro member hmember
  have hfields : ∀ expression ∈ member.2.entries.values,
      FieldType.ofJson patterns expression = FieldType.ofJson patterns' expression :=
    fun expression hexpression => h expression
      (List.mem_flatMap.mpr ⟨member.2, List.mem_map_of_mem hmember, hexpression⟩)
  dsimp only
  rw [fields_congr hfields]

/-- A type is read in the same way if each of its fields is. -/
theorem definition_congr (h : ∀ expression ∈ typeExpressions value,
      FieldType.ofJson patterns expression = FieldType.ofJson patterns' expression) :
    definition patterns name value = definition patterns' name value := by
  refine bind_congr_of_ok fun members hmembers => bind_congr_of_ok fun _ _ => ?_
  obtain ⟨hfields, hvariants⟩ := List.forall_mem_append.mp h
  rw [Json.entriesAt, entries_of_object hmembers] at hfields hvariants
  dsimp only
  split
  next hmember _ =>
      rw [hmember] at hfields
      rw [fields_congr hfields]
  next _ hmember =>
      rw [hmember] at hvariants
      rw [variants_congr hvariants]
  next => rfl

/-- The members of an optional part of an object are the entries there. -/
theorem entriesAt_of_part {members entries : Entries Json} (hmembers : value.entries = members)
    (h : part name members = .ok entries) : value.entriesAt name = entries := by
  rw [Json.entriesAt, hmembers]
  unfold part at h
  split at h
  next found => rw [found]; exact entries_of_object h
  next missing => rw [missing]; exact Except.ok.inj h

/-- Each field that is read can be read as a field type. -/
theorem exists_type_of_fields {result : Fields}
    (h : fields patterns location value = .ok result) :
    ∀ expression ∈ value.entries.values,
      ∃ type, FieldType.ofJson patterns expression = .ok type := by
  obtain ⟨members, hmembers, h⟩ := bind_eq_ok.mp h
  obtain ⟨read, hread, -⟩ := bind_eq_ok.mp h
  rw [entries_of_object hmembers]
  refine List.forall_mem_map.mpr fun member hmember => ?_
  obtain ⟨_, -, hstep⟩ := exists_of_mem_left (mapM_eq_ok.mp hread) hmember
  obtain ⟨type, htype, -⟩ := bind_eq_ok.mp hstep
  exact ⟨type, mapError_eq_ok.mp htype⟩

/-- Each field of variants that are read can be read as a field type. -/
theorem exists_type_of_variants {result : Entries Fields}
    (h : variants patterns location value = .ok result) :
    ∀ expression ∈ value.entries.values.flatMap fun fields ↦ fields.entries.values,
      ∃ type, FieldType.ofJson patterns expression = .ok type := by
  obtain ⟨members, hmembers, h⟩ := bind_eq_ok.mp h
  obtain ⟨read, hread, -⟩ := bind_eq_ok.mp h
  rw [entries_of_object hmembers]
  intro expression hexpression
  obtain ⟨_, hvalue, hexpression⟩ := List.mem_flatMap.mp hexpression
  obtain ⟨member, hmember, rfl⟩ := List.mem_map.mp hvalue
  obtain ⟨_, -, hstep⟩ := exists_of_mem_left (mapM_eq_ok.mp hread) hmember
  obtain ⟨_, hfields, -⟩ := bind_eq_ok.mp hstep
  exact exists_type_of_fields hfields expression hexpression

/-- Each field of a type that is read can be read as a field type. -/
theorem exists_type_of_definition {d : TypeDefinition}
    (h : definition patterns name value = .ok d) :
    ∀ expression ∈ typeExpressions value,
      ∃ type, FieldType.ofJson patterns expression = .ok type := by
  obtain ⟨_, members, hmembers, read, hread, -⟩ := readsMembers_of_definition h
  rw [typeExpressions, Json.entriesAt, Json.entriesAt, entries_of_object hmembers,
    List.forall_mem_append]
  cases hread with
  | record hfields hvariants hread _ =>
      simp only [hfields, hvariants]
      exact ⟨exists_type_of_fields hread, by simp [Entries.values]⟩
  | union hfields hvariants hread _ =>
      simp only [hfields, hvariants]
      exact ⟨by simp [Entries.values], exists_type_of_variants hread⟩

variable {known known' : PatternLibrary} {document : Document}

/-- A document declares the patterns that stand in it. -/
theorem names_patterns (h : ofJson known value = .ok document) :
    document.patterns.names = (value.entriesAt "patterns").names := by
  obtain ⟨members, hmembers, -, ⟨entries, hentries, hpatterns⟩, -⟩ := ofJson_eq_ok.mp h
  rw [entriesAt_of_part (entries_of_object hmembers) hentries]
  refine (map_eq_map_of_forall₂ ((mapM_eq_ok.mp hpatterns).imp fun entry read hread => ?_)).symm
  obtain ⟨_, -, hread⟩ := bind_eq_ok.mp hread
  rw [← pure_eq_ok.mp hread]

/-- A document can name the patterns that are known before and its own ones. -/
theorem has_of_ofJson (h : ofJson known value = .ok document) :
    ∀ name ∈ patternReferences value, (known.putAll document.patterns).has name := by
  obtain ⟨members, hmembers, -, -, entries, hentries, hdefinitions⟩ := ofJson_eq_ok.mp h
  intro name hname
  obtain ⟨expression, hexpression, hnamed⟩ := List.mem_filterMap.mp hname
  rw [expressions, entriesAt_of_part (entries_of_object hmembers) hentries] at hexpression
  obtain ⟨_, hvalue, hexpression⟩ := List.mem_flatMap.mp hexpression
  obtain ⟨entry, hentry, rfl⟩ := List.mem_map.mp hvalue
  obtain ⟨_, -, hread⟩ := exists_of_mem_left (mapM_eq_ok.mp hdefinitions) hentry
  obtain ⟨type, htype⟩ := exists_type_of_definition hread expression hexpression
  exact FieldType.has_of_ofJson htype name hnamed

/-- Only the patterns that a document names matter for what it is read as. -/
theorem ofJson_congr (hsame : ∀ name ∈ patternReferences value,
      (known.putAll document.patterns).get? name = (known'.putAll document.patterns).get? name)
    (h : ofJson known value = .ok document) : ofJson known' value = .ok document := by
  obtain ⟨members, hmembers, hkeys, hpatterns, entries, hentries, hdefinitions⟩ :=
    ofJson_eq_ok.mp h
  refine ofJson_eq_ok.mpr ⟨members, hmembers, hkeys, hpatterns, entries, hentries, ?_⟩
  rw [← hdefinitions]
  refine mapM_congr fun entry hentry => (definition_congr fun expression hexpression => ?_).symm
  refine FieldType.ofJson_congr fun name hname => hsame name ?_
  refine List.mem_filterMap.mpr ⟨expression, ?_, hname⟩
  rw [expressions, entriesAt_of_part (entries_of_object hmembers) hentries]
  exact List.mem_flatMap.mpr ⟨entry.2, List.mem_map_of_mem hentry, hexpression⟩

end Document

/-! ## Reading one file -/

namespace DefinitionFile

variable {file : DefinitionFile} {known known' : PatternLibrary} {document : Document}

/-- A file declares the patterns that stand in it. -/
theorem names_of_read (h : file.read known = .ok document) :
    document.patterns.names = file.patternNames := by
  obtain ⟨value, hvalue, hread⟩ := read_eq_ok.mp h
  rw [patternNames, hvalue]
  exact Document.names_patterns hread

/-- A file can name the patterns that are known before and its own ones. -/
theorem has_of_read (h : file.read known = .ok document) :
    ∀ name ∈ file.patternReferences, (known.putAll document.patterns).has name := by
  obtain ⟨value, hvalue, hread⟩ := read_eq_ok.mp h
  rw [patternReferences, hvalue]
  exact Document.has_of_ofJson hread

/-- Only the patterns that a file names matter for what it is read as. -/
theorem read_congr (hsame : ∀ name ∈ file.patternReferences,
      (known.putAll document.patterns).get? name = (known'.putAll document.patterns).get? name)
    (h : file.read known = .ok document) : file.read known' = .ok document := by
  obtain ⟨value, hvalue, hread⟩ := read_eq_ok.mp h
  rw [patternReferences, hvalue] at hsame
  exact read_eq_ok.mpr ⟨value, hvalue, Document.ofJson_congr hsame hread⟩

/-- A file is read exactly if it would be read after all other ones and names no pattern that is not
declared yet. -/
theorem read_iff (hdistinct : document.patterns.names.Nodup) (rest : PatternLibrary) :
    file.read known = .ok document ↔
      file.read (known ++ (document.patterns ++ rest)) = .ok document ∧
        ∀ name ∈ file.patternReferences, name ∈ known.names ∨ name ∈ file.patternNames := by
  have hsame : ∀ name, name ∈ known.names ∨ name ∈ document.patterns.names →
      (known.putAll document.patterns).get? name =
        ((known ++ (document.patterns ++ rest)).putAll document.patterns).get? name := by
    intro name hname
    rw [Entries.get?_putAll hdistinct, Entries.get?_putAll hdistinct, Entries.get?_append]
    rcases hname with hknown | hown
    · rw [Option.or_of_isSome (Entries.has_iff.mpr hknown)]
    · rw [Option.or_of_isSome (Entries.has_iff.mpr hown),
        Option.or_of_isSome (Entries.has_iff.mpr hown)]
  constructor
  · intro h
    have hnamed : ∀ name ∈ file.patternReferences,
        name ∈ known.names ∨ name ∈ document.patterns.names := by
      intro name hname
      have hhas := has_of_read h name hname
      rw [Entries.has, Entries.get?_putAll hdistinct, Option.isSome_or, Bool.or_eq_true] at hhas
      exact hhas.symm.imp Entries.has_iff.mp Entries.has_iff.mp
    exact ⟨read_congr (fun name hname => hsame name (hnamed name hname)) h,
      names_of_read h ▸ hnamed⟩
  · rintro ⟨h, hnamed⟩
    rw [← names_of_read h] at hnamed
    exact read_congr (fun name hname => (hsame name (hnamed name hname)).symm) h

end DefinitionFile

/-! ## Reading files in turn -/

/-- Files are read as these documents, each of them under the patterns of those before. -/
inductive ReadInTurn : PatternLibrary → List DefinitionFile → List Document → Prop
  | nil {known : PatternLibrary} : ReadInTurn known [] []
  | cons {known : PatternLibrary} {file : DefinitionFile} {document : Document}
      {files : List DefinitionFile} {documents : List Document}
      (head : file.read known = .ok document)
      (tail : ReadInTurn (known.putAll document.patterns) files documents) :
      ReadInTurn known (file :: files) (document :: documents)

/-- All patterns that documents declare. -/
def Document.library (documents : List Document) : PatternLibrary :=
  documents.flatMap (·.patterns)

theorem Document.library_cons (document : Document) (documents : List Document) :
    library (document :: documents) = document.patterns ++ library documents := rfl

theorem Document.library_perm {documents order : List Document} (h : order.Perm documents) :
    (library order).Perm (library documents) :=
  h.flatMap_right _

namespace FilesRead

variable {read : FilesRead} {file : DefinitionFile} {files : List DefinitionFile}
  {documents : List Document}

/-- A file that is read adds its patterns and types. -/
theorem add_of_read {document : Document} (h : file.read read.patterns = .ok document) :
    read.add file =
      { read with
        patterns := read.patterns.putAll document.patterns
        definitions := read.definitions ++ document.definitions.map fun d ↦ (file.place, d) } := by
  rw [add, h]

/-- Nothing is wrong with one more file exactly if it is read. -/
theorem errors_add_eq_nil_iff : (read.add file).errors = [] ↔
    read.errors = [] ∧ ∃ document, file.read read.patterns = .ok document := by
  unfold add
  split
  next error herror => simp [herror]
  next document hdocument => simp [hdocument]

/-- What is wrong with a file stays wrong. -/
theorem errors_eq_nil_of_foldl (h : (files.foldl add read).errors = []) : read.errors = [] := by
  induction files generalizing read with
  | nil => exact h
  | cons file files ih => exact (errors_add_eq_nil_iff.mp (ih h)).1

/-- Files with which nothing is wrong are read in turn. -/
theorem exists_readInTurn (h : (files.foldl add read).errors = []) :
    ∃ documents, ReadInTurn read.patterns files documents := by
  induction files generalizing read with
  | nil => exact ⟨[], .nil⟩
  | cons file files ih =>
      obtain ⟨documents, hdocuments⟩ := ih h
      obtain ⟨-, document, hdocument⟩ := errors_add_eq_nil_iff.mp (errors_eq_nil_of_foldl h)
      rw [add_of_read hdocument] at hdocuments
      exact ⟨document :: documents, .cons hdocument hdocuments⟩

/-- Files that are read in turn add their patterns and types, and nothing is wrong with them. -/
theorem foldl_add_of_readInTurn (h : ReadInTurn read.patterns files documents) :
    (files.foldl add read).patterns = read.patterns.putAll (Document.library documents) ∧
    (files.foldl add read).definitions.map (·.2) =
      read.definitions.map (·.2) ++ documents.flatMap (·.definitions) ∧
    (files.foldl add read).errors = read.errors := by
  induction files generalizing read documents with
  | nil => cases h; simp [Document.library, Entries.putAll]
  | cons file files ih =>
      cases h with
      | @cons _ _ document _ documents head tail =>
          have hadd := add_of_read head
          replace tail : ReadInTurn (read.add file).patterns files documents := by rwa [hadd]
          obtain ⟨hpatterns, hdefinitions, herrors⟩ := ih tail
          rw [List.foldl_cons, hpatterns, hdefinitions, herrors, hadd]
          refine ⟨?_, ?_, rfl⟩
          · rw [Document.library_cons, Entries.putAll, Entries.putAll, Entries.putAll,
              List.foldl_append]
          · simp [Function.comp_def]

end FilesRead

/-- Patterns of new names are put after those that are known. -/
theorem DefinitionFile.putAll_of_read {file : DefinitionFile} {known library : PatternLibrary}
    {document : Document} (h : file.read library = .ok document)
    (hdistinct : (known.names ++ file.patternNames).Nodup) :
    document.patterns.names.Nodup ∧
      known.putAll document.patterns = known ++ document.patterns := by
  rw [← names_of_read h] at hdistinct
  obtain ⟨-, hown, hnew⟩ := List.nodup_append.mp hdistinct
  exact ⟨hown, Entries.putAll_of_disjoint hown fun name hname hknown =>
    hnew name hknown name hname rfl⟩

/-- Files are read in turn exactly if each of them can be read after all other ones, and none comes
before a pattern that it names. -/
theorem readInTurn_iff {known : PatternLibrary} {files : List DefinitionFile}
    {documents : List Document}
    (hdistinct : (known.names ++ files.flatMap (·.patternNames)).Nodup) :
    ReadInTurn known files documents ↔
      List.Forall₂ (fun file document =>
        file.read (known ++ Document.library documents) = .ok document) files documents ∧
      PatternsPrecede known.names files := by
  induction files generalizing known documents with
  | nil =>
      constructor
      · rintro ⟨⟩
        exact ⟨.nil, trivial⟩
      · rintro ⟨⟨⟩, -⟩
        exact .nil
  | cons file files ih =>
      rw [List.flatMap_cons, ← List.append_assoc] at hdistinct
      -- On either side the file is read, so that its patterns come after the known ones.
      have hstep : ∀ {library document}, file.read library = .ok document →
          document.patterns.names.Nodup ∧
          known.putAll document.patterns = known ++ document.patterns ∧
          ∀ documents, ReadInTurn (known ++ document.patterns) files documents ↔
            List.Forall₂ (fun file other => file.read (known ++ (document.patterns ++
              Document.library documents)) = .ok other) files documents ∧
            PatternsPrecede (known.names ++ file.patternNames) files := by
        intro library document hread
        obtain ⟨hown, happend⟩ :=
          DefinitionFile.putAll_of_read hread (List.nodup_append.mp hdistinct).1
        have hnames : (known ++ document.patterns).names = known.names ++ file.patternNames := by
          rw [Entries.names_append, DefinitionFile.names_of_read hread]
        refine ⟨hown, happend, fun documents => ?_⟩
        rw [← hnames, ← List.append_assoc, ih (hnames ▸ hdistinct)]
      constructor
      · rintro (_ | ⟨head, tail⟩)
        obtain ⟨hown, happend, htail⟩ := hstep head
        obtain ⟨hlast, hnamed⟩ := (DefinitionFile.read_iff hown _).mp head
        obtain ⟨hreads, hrest⟩ := (htail _).mp (happend ▸ tail)
        exact ⟨.cons hlast hreads, hnamed, hrest⟩
      · rintro ⟨_ | ⟨hlast, hreads⟩, hnamed, hrest⟩
        obtain ⟨hown, happend, htail⟩ := hstep hlast
        exact .cons ((DefinitionFile.read_iff hown _).mpr ⟨hlast, hnamed⟩)
          (happend ▸ (htail _).mpr ⟨hreads, hrest⟩)

/-- Where nothing is known before, files are read in turn exactly if each of them can be read under
the patterns of all, and none comes before a pattern that it names. -/
theorem readInTurn_nil_iff {files : List DefinitionFile} {documents : List Document}
    (hdistinct : (files.flatMap (·.patternNames)).Nodup) :
    ReadInTurn [] files documents ↔
      List.Forall₂ (fun file document =>
        file.read (Document.library documents) = .ok document) files documents ∧
      PatternsPrecede [] files :=
  readInTurn_iff hdistinct

/-! ## Reading files in another order -/

/-- Documents as declarations. -/
def Document.declarations (config : EngineConfig) (documents : List Document) : Declarations :=
  ⟨.ofList (library documents), documents.flatMap (·.definitions), [], config⟩

/-- Files that are read in turn declare what their documents do, and nothing is wrong with them. -/
theorem FilesRead.declarations_of_readInTurn {files : List DefinitionFile}
    {documents : List Document} (h : ReadInTurn [] files documents) (config : EngineConfig) :
    (ofFiles files).declarations config = Document.declarations config documents ∧
      (ofFiles files).errors = [] := by
  obtain ⟨hpatterns, hdefinitions, herrors⟩ := @foldl_add_of_readInTurn .empty files documents h
  refine ⟨?_, herrors⟩
  rw [declarations, ofFiles, hpatterns, hdefinitions]
  rfl

/-- Where files are read in turn, a registry is loaded exactly if it can be built from what their
documents declare. -/
theorem load_eq_ok_of_readInTurn {config : EngineConfig} {files : List DefinitionFile}
    {documents : List Document} {loaded : LoadedDefinitions} (h : ReadInTurn [] files documents) :
    load config files = .ok loaded ↔
      (Document.declarations config documents).build 0 = .ok loaded.registry ∧
        loaded.origins = (FilesRead.ofFiles files).origins := by
  obtain ⟨hdeclared, herrors⟩ := FilesRead.declarations_of_readInTurn h config
  rw [load_eq_ok, hdeclared]
  exact and_iff_right herrors

/-- Documents in another order declare the same patterns, if these have distinct names. -/
theorem Document.patterns_declarations_perm {documents order : List Document}
    (hperm : order.Perm documents) (hdistinct : (library documents).names.Nodup)
    (config : EngineConfig) :
    (declarations config order).patterns.Perm (declarations config documents).patterns := by
  have hpatterns := library_perm hperm
  have hdistinct' : (library order).names.Nodup := (hpatterns.map Prod.fst).nodup_iff.mpr hdistinct
  have hlibrary : ∀ {others : List Document}, (library others).names.Nodup →
      (declarations config others).patterns = library others :=
    fun h => Entries.putAll_of_disjoint h fun _ _ => List.not_mem_nil
  rwa [hlibrary hdistinct, hlibrary hdistinct']

/-- Documents in another order declare the same. -/
theorem Document.sameUpToOrder_declarations {documents order : List Document}
    (hperm : order.Perm documents) (hdistinct : (library documents).names.Nodup)
    (config : EngineConfig) :
    (declarations config order).SameUpToOrder (declarations config documents) where
  patterns := Entries.get?_perm (patterns_declarations_perm hperm hdistinct config)
    (Entries.nodup_names_ofList _)
  definitions := hperm.flatMap_right _
  codecs := rfl

/-- Files that can be read after all other ones declare the patterns of their documents. -/
theorem names_flatMap_patterns {files : List DefinitionFile} {documents : List Document}
    {library : PatternLibrary}
    (h : List.Forall₂ (fun file document => file.read library = .ok document) files documents) :
    (Document.library documents).names = files.flatMap (·.patternNames) := by
  induction h with
  | nil => rfl
  | cons head _ ih =>
      rw [Document.library_cons, List.flatMap_cons, Entries.names_append, ih,
        DefinitionFile.names_of_read head]

/-- Files that are read in turn are read as the same documents in another order, unless one of them
then comes before a pattern that it names. -/
theorem exists_readInTurn_perm {files order : List DefinitionFile} {documents : List Document}
    (hperm : order.Perm files) (hdistinct : (files.flatMap (·.patternNames)).Nodup)
    (h : ReadInTurn [] files documents) :
    (Document.library documents).names.Nodup ∧
      ∃ others, others.Perm documents ∧
        (ReadInTurn [] order others ↔ PatternsPrecede [] order) := by
  obtain ⟨hreads, -⟩ := (readInTurn_nil_iff hdistinct).mp h
  have hnames := names_flatMap_patterns hreads
  obtain ⟨others, hothers, hsame⟩ := List.perm_comp_forall₂ hperm hreads
  have hlibrary := Entries.get?_perm (Document.library_perm hsame).symm (hnames ▸ hdistinct)
  have hdistinct' := (hperm.flatMap_right (·.patternNames)).nodup_iff.mpr hdistinct
  refine ⟨hnames ▸ hdistinct, others, hsame, (readInTurn_nil_iff hdistinct').trans ?_⟩
  refine and_iff_right (hothers.imp fun file document hread => ?_)
  exact DefinitionFile.read_congr
    (fun name _ => Entries.get?_putAll_congr hlibrary document.patterns name) hread

/-- Files of which a registry is loaded can be loaded in another order exactly if, there too, each
structured field type names a pattern of its own file or of one before. The registry is then the
same: it has the same patterns and, under each name, the same type. -/
theorem load_perm {config : EngineConfig} {files order : List DefinitionFile}
    (hperm : order.Perm files) (hdistinct : (files.flatMap (·.patternNames)).Nodup)
    {loaded : LoadedDefinitions} (h : load config files = .ok loaded) :
    ((∃ other, load config order = .ok other) ↔ PatternsPrecede [] order) ∧
      ∀ other, load config order = .ok other →
        other.registry.patterns.Perm loaded.registry.patterns ∧
          ∀ name, other.registry.types.get? name = loaded.registry.types.get? name := by
  obtain ⟨documents, hturn⟩ := FilesRead.exists_readInTurn (load_eq_ok.mp h).1
  obtain ⟨hbuild, -⟩ := (load_eq_ok_of_readInTurn hturn).mp h
  obtain ⟨hpatterns, others, hothers, hturn'⟩ := exists_readInTurn_perm hperm hdistinct hturn
  have hsame := Document.sameUpToOrder_declarations hothers hpatterns config
  have hprecede : ∀ other, load config order = .ok other → PatternsPrecede [] order := by
    intro other hother
    obtain ⟨_, hread⟩ := FilesRead.exists_readInTurn (load_eq_ok.mp hother).1
    have hdistinct' := (hperm.flatMap_right (·.patternNames)).nodup_iff.mpr hdistinct
    exact ((readInTurn_nil_iff hdistinct').mp hread).2
  refine ⟨⟨fun ⟨other, hother⟩ => hprecede other hother, fun hnamed => ?_⟩, fun other hother => ?_⟩
  · obtain ⟨registry, hregistry⟩ := hsame.exists_build_iff.mpr ⟨_, hbuild⟩
    exact ⟨⟨registry, _⟩, (load_eq_ok_of_readInTurn (hturn'.mpr hnamed)).mpr ⟨hregistry, rfl⟩⟩
  · obtain ⟨hbuild', -⟩ := (load_eq_ok_of_readInTurn (hturn'.mpr (hprecede other hother))).mp hother
    refine ⟨?_, hsame.get?_types hbuild' hbuild⟩
    obtain ⟨-, ⟨-, hdeclared, -⟩, -⟩ := Declarations.build_eq_ok.mp hbuild
    obtain ⟨-, ⟨-, hdeclared', -⟩, -⟩ := Declarations.build_eq_ok.mp hbuild'
    rw [hdeclared, hdeclared']
    exact Document.patterns_declarations_perm hothers hpatterns config

/-! ## A glossary

Notes have titles, which are words; what words are is in a file of its own. The titles name it in a
structured field type, the tags in the notation.
-/

namespace Glossary

/-- The pattern of words. -/
def words : DefinitionFile :=
  ⟨"words.toml", "words.toml", .toml, "[patterns]\nWord = \"[a-z]+\"\n"⟩

/-- Notes with titles. -/
def notes : DefinitionFile :=
  ⟨"notes.toml", "notes.toml", .toml, "[types.Note.fields.title]\npattern = \"Word\"\n"⟩

/-- Tags of notes. -/
def tags : DefinitionFile :=
  ⟨"tags.toml", "tags.toml", .toml,
    "[types.Tag.fields]\nlabel = \"Word\"\nnote = \"Note?\"\n"⟩

theorem exists_load : ∃ loaded, load .standard [words, notes, tags] = .ok loaded :=
  exists_ok_of_isOk (by decide +kernel)

end Glossary

/-- Tags can be loaded first, for they name words in the notation. -/
theorem Glossary.load_tags_first :
    [tags, words, notes].Perm [words, notes, tags] ∧
      ∃ loaded other, load .standard [words, notes, tags] = .ok loaded ∧
        load .standard [tags, words, notes] = .ok other ∧
        other.registry.patterns.Perm loaded.registry.patterns ∧
        ∀ name, other.registry.types.get? name = loaded.registry.types.get? name := by
  have hperm : [tags, words, notes].Perm [words, notes, tags] :=
    (List.perm_append_singleton tags [words, notes]).symm
  obtain ⟨loaded, hloaded⟩ := exists_load
  obtain ⟨hload, hsame⟩ := load_perm hperm (by decide +kernel) hloaded
  obtain ⟨other, hother⟩ := hload.mpr (by decide +kernel)
  exact ⟨hperm, loaded, other, hloaded, hother, hsame other hother⟩

/-- Notes cannot be loaded before words. -/
theorem Glossary.not_forall_load_perm :
    ¬ ∀ (config : EngineConfig) (files order : List DefinitionFile), order.Perm files →
      (files.flatMap (·.patternNames)).Nodup → (files.flatMap (·.typeNames)).Nodup →
      ((∃ loaded, load config files = .ok loaded) ↔ ∃ other, load config order = .ok other) := by
  intro h
  have hload : ∃ loaded, load .standard [words, notes] = .ok loaded :=
    exists_ok_of_isOk (by decide +kernel)
  obtain ⟨other, hother⟩ := (h .standard [words, notes] [notes, words] (.swap words notes [])
    (by decide +kernel) (by decide +kernel)).mp hload
  have hnone : ¬ (load .standard [notes, words]).isOk := by decide +kernel
  rw [hother] at hnone
  exact hnone rfl

end RecordSchema
