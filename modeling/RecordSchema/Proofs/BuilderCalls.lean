import RecordSchema.Proofs.LoadOrder
import RecordSchema.Proofs.Parts

/-!
# Calls on the builder of a registry

Registries are built by calls that declare patterns and types, one after the other and in any order.
What such calls come to is said in two parts: which pattern a name stands for when some calls were
made (`get?_patterns_of_declareAll`), and as what the field types that are written in a call are
declared (`BuilderCall.Writes.exists_declared`). A field type is read under the patterns that are
known when its call is made, its own document included.
-/

namespace RecordSchema

open Outcome

/-- The declared type of a field of the record or of a variant. -/
def TypeDefinition.fieldType? (d : TypeDefinition) (variant : Option String) (field : String) :
    Option FieldType :=
  (d.fieldsOf? variant).bind (·.get? field)

/-- A call on the builder of a registry. -/
inductive BuilderCall where
  | pattern (name : String) (pattern : Pattern)
  | define (definition : TypeDefinition)
  | record (name : String) (fields : List (String × FieldExpression))
  | union (name : String) (variants : List (String × List (String × FieldExpression)))
  | document (document : Json)
  | codec (typeName : String) (codec : Codec)
  | config (config : EngineConfig)

/-- How the type of a field is written: as a field type that was read before, as an expression, or
in a document. -/
inductive WrittenType where
  | given (type : FieldType)
  | expression (expression : FieldExpression)
  | json (value : Json)

/-- The field type that is written, where these patterns are known. -/
def WrittenType.read (known : PatternLibrary) : WrittenType → Except MalformedFieldType FieldType
  | .given type => .ok type
  | .expression written => written.parse
  | .json value => FieldType.ofJson known value

namespace BuilderCall

/-- Documents have distinct keys in their objects. -/
def IsWellFormed : BuilderCall → Prop
  | .document value => value.WellFormed
  | _ => True

/-- The pattern that the call declares under a name. -/
def pattern? (name : String) : BuilderCall → Option Pattern
  | .pattern other p => if other = name then some p else none
  | .document value =>
      ((value.entriesAt "patterns").get? name).bind fun source ↦
        (Document.pattern name source).toOption
  | _ => none

/-- `call.Writes typeName variant field written` says how the type of a field is written in the
call. -/
inductive Writes : BuilderCall → String → Option String → String → WrittenType → Prop where
  | define {definition variant field type} : definition.fieldType? variant field = some type →
      Writes (.define definition) definition.name variant field (.given type)
  | record {name fields field expression} : (field, expression) ∈ fields →
      Writes (.record name fields) name none field (.expression expression)
  | union {name variants variant fields field expression} : (variant, fields) ∈ variants →
      (field, expression) ∈ fields →
      Writes (.union name variants) name (some variant) field (.expression expression)
  | documentRecord {value name type field expression} :
      (name, type) ∈ Json.entriesAt "types" value →
      (field, expression) ∈ type.entriesAt "fields" →
      Writes (.document value) name none field (.json expression)
  | documentUnion {value name type variant fields field expression} :
      (name, type) ∈ Json.entriesAt "types" value →
      (variant, fields) ∈ type.entriesAt "variants" → (field, expression) ∈ fields.entries →
      Writes (.document value) name (some variant) field (.json expression)

end BuilderCall

namespace Declarations

/-- What is declared after one more call. -/
def declare (d : Declarations) : BuilderCall → Except TypeError Declarations
  | .pattern name pattern => .ok (d.addPattern name pattern)
  | .define definition => .ok (d.addDefinition definition)
  | .record name fields => (TypeDefinition.declareRecord name fields).map d.addDefinition
  | .union name variants => (TypeDefinition.declareUnion name variants).map d.addDefinition
  | .document document => d.addDocument document
  | .codec typeName codec => .ok (d.addCodec typeName codec)
  | .config config => .ok { d with config }

/-- What is declared after some more calls. -/
def declareAll (d : Declarations) : List BuilderCall → Except TypeError Declarations
  | [] => .ok d
  | call :: calls => do (← d.declare call).declareAll calls

end Declarations

/-- The pattern that calls declare last under a name. -/
def lastPattern? (calls : List BuilderCall) (name : String) : Option Pattern :=
  calls.reverse.findSome? (·.pattern? name)

/-- Later calls come first. -/
theorem lastPattern?_append (before after : List BuilderCall) (name : String) :
    lastPattern? (before ++ after) name =
      (lastPattern? after name).or (lastPattern? before name) := by
  rw [lastPattern?, List.reverse_append, List.findSome?_append]
  rfl

theorem lastPattern?_singleton (call : BuilderCall) (name : String) :
    lastPattern? [call] name = call.pattern? name := by
  rw [lastPattern?, List.reverse_singleton, List.findSome?_singleton]

/-! ## Well-formed documents -/

namespace Json.WellFormed

variable {value : Json}

/-- The members of a well-formed object have distinct names. -/
theorem nodup_entries (h : value.WellFormed) : value.entries.names.Nodup := by
  cases value with
  | object members => exact (wellFormed_object.mp h).1
  | _ => exact List.nodup_nil

/-- The members of a well-formed object are well formed. -/
theorem of_mem_entries (h : value.WellFormed) {member : String × Json}
    (hmember : member ∈ value.entries) : member.2.WellFormed := by
  cases value with
  | object members => exact (wellFormed_object.mp h).2 member hmember
  | _ => cases hmember

/-- The members of a member of a well-formed object have distinct names and are well formed. -/
theorem entriesAt (h : value.WellFormed) (name : String) :
    (value.entriesAt name).names.Nodup ∧
      ∀ member ∈ value.entriesAt name, member.2.WellFormed := by
  rw [Json.entriesAt]
  cases hget : value.entries.get? name with
  | none => exact ⟨List.nodup_nil, List.forall_mem_nil _⟩
  | some part =>
      have hpart := h.of_mem_entries (Entries.mem_of_get? hget)
      exact ⟨hpart.nodup_entries, fun _ => hpart.of_mem_entries⟩

end Json.WellFormed

/-! ## Fields as they are declared -/

namespace Entries

variable {α β ε : Type} {entries : Entries α} {results : Entries β}

/-- Where a step is taken for every entry, its result is found under the name of the entry. -/
theorem get?_of_mapM {f : String → α → Except ε β}
    (h : (entries.mapM fun (name, value) ↦ do
      let result ← f name value
      return (name, result)) = .ok results) (name : String) :
    results.get? name = (entries.get? name).bind fun value ↦ (f name value).toOption := by
  have hall := Outcome.mapM_eq_ok.mp h
  clear h
  induction hall with
  | nil => rfl
  | @cons entry result _ _ hhead _ ih =>
      obtain ⟨key, value⟩ := entry
      obtain ⟨outcome, houtcome, hresult⟩ := bind_eq_ok.mp hhead
      obtain rfl := pure_eq_ok.mp hresult
      rw [get?_cons, get?_cons]
      split
      next heq =>
          rw [← heq, Option.bind_some, houtcome]
          rfl
      next => exact ih

/-- Where a step is taken for entries of distinct names, each has its result in what is put together
from the results. -/
theorem get?_ofList_of_mapM {f : String → α → Except ε β}
    (h : (entries.mapM fun (name, value) ↦ do
      let result ← f name value
      return (name, result)) = .ok results) (hdistinct : entries.names.Nodup) :
    ∀ entry ∈ entries, ∃ result,
      f entry.1 entry.2 = .ok result ∧ results.ofList.get? entry.1 = some result := by
  have hall := Outcome.mapM_eq_ok.mp h
  have hnames : entries.names = results.names := by
    refine map_eq_map_of_forall₂ (hall.imp fun entry result hentry => ?_)
    obtain ⟨_, -, hresult⟩ := bind_eq_ok.mp hentry
    rw [← pure_eq_ok.mp hresult]
  intro entry hentry
  obtain ⟨_, hmem, hstep⟩ := exists_of_mem_left hall hentry
  obtain ⟨result, hresult, hstep⟩ := bind_eq_ok.mp hstep
  obtain rfl := pure_eq_ok.mp hstep
  rw [hnames] at hdistinct
  refine ⟨result, hresult, ?_⟩
  rw [ofList, get?_putAll hdistinct, get?_of_mem hdistinct hmem, Option.some_or]

/-- An entry of a new name keeps names distinct. -/
theorem nodup_names_append (hdistinct : entries.names.Nodup) {name : String}
    (hnew : ¬ entries.has name) (value : α) : (names (entries ++ [(name, value)])).Nodup := by
  rw [has_iff] at hnew
  rw [names_append]
  exact hdistinct.append (List.nodup_singleton name) (List.disjoint_singleton.mpr hnew)

end Entries

namespace TypeDefinition

/-- The fields that are read have distinct names, and each has the type that its expression stands
for. -/
theorem parseFields_eq_ok {owner : String} {parsed result : Fields}
    {fields : List (String × FieldExpression)}
    (h : parseFields owner parsed fields = .ok result) (hdistinct : parsed.names.Nodup) :
    result.names.Nodup ∧ parsed ⊆ result ∧ ∀ entry ∈ fields,
      ∃ type, entry.2.parse = .ok type ∧ (entry.1, type) ∈ result := by
  induction fields generalizing parsed with
  | nil =>
      cases h
      exact ⟨hdistinct, fun _ hmem => hmem, List.forall_mem_nil _⟩
  | cons first rest ih =>
      obtain ⟨field, expression⟩ := first
      obtain ⟨type, htype, h⟩ := bind_eq_ok.mp h
      dsimp only at h
      split at h
      · cases h
      next hnew =>
          obtain ⟨hresult, hsub, hrest⟩ := ih h (Entries.nodup_names_append hdistinct hnew type)
          refine ⟨hresult, fun _ hmem => hsub (List.mem_append_left _ hmem),
            List.forall_mem_cons.mpr ⟨⟨type, mapError_eq_ok.mp htype, ?_⟩, hrest⟩⟩
          exact hsub (List.mem_append_right _ List.mem_cons_self)

/-- The variants that are read have distinct names, and each has the fields that are read for it. -/
theorem parseVariants_eq_ok {owner : String} {parsed result : Entries Fields}
    {variants : List (String × List (String × FieldExpression))}
    (h : parseVariants owner parsed variants = .ok result) (hdistinct : parsed.names.Nodup) :
    result.names.Nodup ∧ parsed ⊆ result ∧ ∀ entry ∈ variants,
      ∃ label fields, parseFields label [] entry.2 = .ok fields ∧ (entry.1, fields) ∈ result := by
  induction variants generalizing parsed with
  | nil =>
      cases h
      exact ⟨hdistinct, fun _ hmem => hmem, List.forall_mem_nil _⟩
  | cons first rest ih =>
      obtain ⟨variant, expressions⟩ := first
      obtain ⟨fields, hfields, h⟩ := bind_eq_ok.mp h
      dsimp only at h
      split at h
      · cases h
      next hnew =>
          obtain ⟨hresult, hsub, hrest⟩ := ih h (Entries.nodup_names_append hdistinct hnew fields)
          refine ⟨hresult, fun _ hmem => hsub (List.mem_append_left _ hmem),
            List.forall_mem_cons.mpr ⟨⟨_, fields, hfields, ?_⟩, hrest⟩⟩
          exact hsub (List.mem_append_right _ List.mem_cons_self)

/-- The types of fields are told by the shape. -/
theorem fieldType?_congr {d d' : TypeDefinition} (h : d.shape = d'.shape) :
    d.fieldType? = d'.fieldType? := by
  obtain ⟨name, shape, idField⟩ := d
  obtain rfl : shape = d'.shape := h
  funext variant
  cases variant <;> rfl

/-- A declared record has the types that its expressions stand for. -/
theorem fieldType?_of_declareRecord {name : String} {fields : List (String × FieldExpression)}
    {d : TypeDefinition} (h : declareRecord name fields = .ok d) :
    d.name = name ∧ ∀ entry ∈ fields,
      ∃ type, entry.2.parse = .ok type ∧ d.fieldType? none entry.1 = some type := by
  obtain ⟨parsed, hparsed, h⟩ := bind_eq_ok.mp h
  obtain rfl := eq_of_record h
  obtain ⟨hdistinct, -, hall⟩ := parseFields_eq_ok hparsed List.nodup_nil
  refine ⟨rfl, fun entry hentry => ?_⟩
  obtain ⟨type, htype, hmem⟩ := hall entry hentry
  exact ⟨type, htype, Entries.get?_of_mem hdistinct hmem⟩

/-- A declared union has the types that the expressions of its variants stand for. -/
theorem fieldType?_of_declareUnion {name : String}
    {variants : List (String × List (String × FieldExpression))} {d : TypeDefinition}
    (h : declareUnion name variants = .ok d) :
    d.name = name ∧ ∀ variant ∈ variants, ∀ entry ∈ variant.2,
      ∃ type, entry.2.parse = .ok type ∧ d.fieldType? (some variant.1) entry.1 = some type := by
  obtain ⟨parsed, hparsed, h⟩ := bind_eq_ok.mp h
  obtain ⟨rfl, -⟩ := eq_of_union h
  obtain ⟨hdistinct, -, hall⟩ := parseVariants_eq_ok hparsed List.nodup_nil
  refine ⟨rfl, fun variant hvariant entry hentry => ?_⟩
  obtain ⟨_, fields, hfields, hmem⟩ := hall variant hvariant
  obtain ⟨hfieldNames, -, hfields⟩ := parseFields_eq_ok hfields List.nodup_nil
  obtain ⟨type, htype, hfield⟩ := hfields entry hentry
  refine ⟨type, htype, ?_⟩
  change (Entries.get? variant.1 parsed).bind _ = _
  rw [Entries.get?_of_mem hdistinct hmem]
  exact Entries.get?_of_mem hfieldNames hfield

end TypeDefinition

namespace Document

variable {patterns : PatternLibrary} {location name : String} {value : Json}

/-- Fields that are read from a well-formed object have the types that are read for them. -/
theorem get?_of_fields (hvalue : value.WellFormed) {result : Fields}
    (h : fields patterns location value = .ok result) :
    ∀ entry ∈ value.entries,
      ∃ type, FieldType.ofJson patterns entry.2 = .ok type ∧ result.get? entry.1 = some type := by
  obtain ⟨members, hmembers, h⟩ := bind_eq_ok.mp h
  obtain ⟨read, hread, h⟩ := bind_eq_ok.mp h
  obtain rfl := pure_eq_ok.mp h
  have hdistinct := hvalue.nodup_entries
  rw [entries_of_object hmembers] at hdistinct ⊢
  have hall := Entries.get?_ofList_of_mapM
    (f := fun _ value ↦ (FieldType.ofJson patterns value).mapError TypeError.malformedFieldType)
    hread hdistinct
  intro entry hentry
  obtain ⟨type, htype, hget⟩ := hall entry hentry
  exact ⟨type, mapError_eq_ok.mp htype, hget⟩

/-- Variants that are read from a well-formed object have the fields that are read for them. -/
theorem get?_of_variants (hvalue : value.WellFormed) {result : Entries Fields}
    (h : variants patterns location value = .ok result) :
    ∀ entry ∈ value.entries, ∃ location found,
      fields patterns location entry.2 = .ok found ∧ result.get? entry.1 = some found := by
  obtain ⟨members, hmembers, h⟩ := bind_eq_ok.mp h
  obtain ⟨read, hread, h⟩ := bind_eq_ok.mp h
  obtain rfl := pure_eq_ok.mp h
  have hdistinct := hvalue.nodup_entries
  rw [entries_of_object hmembers] at hdistinct ⊢
  have hall := Entries.get?_ofList_of_mapM
    (f := fun variant value ↦ fields patterns (location ++ "." ++ variant) value) hread hdistinct
  exact fun entry hentry => ⟨_, hall entry hentry⟩

/-- A type that is read from a well-formed object has the types that are read for its fields. -/
theorem fieldType?_of_definition (hvalue : value.WellFormed) {d : TypeDefinition}
    (h : definition patterns name value = .ok d) :
    d.name = name ∧
      (∀ entry ∈ value.entriesAt "fields", ∃ type,
        FieldType.ofJson patterns entry.2 = .ok type ∧ d.fieldType? none entry.1 = some type) ∧
      ∀ variant ∈ value.entriesAt "variants", ∀ entry ∈ variant.2.entries, ∃ type,
        FieldType.ofJson patterns entry.2 = .ok type ∧
          d.fieldType? (some variant.1) entry.1 = some type := by
  obtain ⟨_, members, hmembers, read, hread, hd⟩ := readsMembers_of_definition h
  obtain ⟨hname, hshape⟩ : d.name = read.name ∧ d.shape = read.shape := by
    rcases hd with rfl | ⟨field, rfl⟩ <;> exact ⟨rfl, rfl⟩
  have hpart : ∀ {key part}, members.get? key = some part → part.WellFormed := by
    intro key part hget
    exact hvalue.of_mem_entries (entries_of_object hmembers ▸ Entries.mem_of_get? hget)
  rw [TypeDefinition.fieldType?_congr hshape, hname, Json.entriesAt, Json.entriesAt,
    entries_of_object hmembers]
  cases hread with
  | record hfields hvariants hdeclared hrecord =>
      obtain rfl := TypeDefinition.eq_of_record hrecord
      rw [hfields, hvariants, Option.elim_some, Option.elim_none]
      refine ⟨rfl, fun entry hentry => ?_, List.forall_mem_nil _⟩
      exact get?_of_fields (hpart hfields) hdeclared entry hentry
  | @union _ _ declared _ hfields hvariants hdeclared hunion =>
      obtain ⟨rfl, -⟩ := TypeDefinition.eq_of_union hunion
      rw [hfields, hvariants, Option.elim_some, Option.elim_none]
      refine ⟨rfl, List.forall_mem_nil _, fun variant hvariant entry hentry => ?_⟩
      obtain ⟨_, found, hfound, hget⟩ :=
        get?_of_variants (hpart hvariants) hdeclared variant hvariant
      obtain ⟨type, htype, hfield⟩ :=
        get?_of_fields ((hpart hvariants).of_mem_entries hvariant) hfound entry hentry
      refine ⟨type, htype, ?_⟩
      change (Entries.get? variant.1 declared).bind _ = _
      rw [hget]
      exact hfield

variable {known : PatternLibrary} {document : Document}

/-- The patterns of a document are read one by one. -/
theorem get?_patterns (h : ofJson known value = .ok document) (name : String) :
    document.patterns.get? name =
      ((value.entriesAt "patterns").get? name).bind fun source ↦
        (pattern name source).toOption := by
  obtain ⟨members, hmembers, -, ⟨entries, hentries, hpatterns⟩, -⟩ := ofJson_eq_ok.mp h
  rw [entriesAt_of_part (entries_of_object hmembers) hentries]
  exact Entries.get?_of_mapM hpatterns name

/-- The types of a document are read under the patterns that are known before and its own ones. -/
theorem exists_definition (h : ofJson known value = .ok document) :
    ∀ entry ∈ value.entriesAt "types", ∃ d ∈ document.definitions,
      definition (known.putAll document.patterns) entry.1 entry.2 = .ok d := by
  obtain ⟨members, hmembers, -, -, entries, hentries, hdefinitions⟩ := ofJson_eq_ok.mp h
  rw [entriesAt_of_part (entries_of_object hmembers) hentries]
  exact fun entry hentry => exists_of_mem_left (mapM_eq_ok.mp hdefinitions) hentry

end Document

/-! ## One call -/

section Declare

variable {d d' : Declarations} {call : BuilderCall}

/-- A call replaces the patterns of the names that it declares. -/
theorem Declarations.get?_patterns_of_declare (hcall : call.IsWellFormed)
    (h : d.declare call = .ok d') (name : String) :
    d'.patterns.get? name = (call.pattern? name).or (d.patterns.get? name) := by
  cases call with
  | pattern other pattern =>
      cases h
      rw [BuilderCall.pattern?, addPattern]
      split
      next heq => rw [heq, Entries.get?_put_self, Option.some_or]
      next hne => rw [Entries.get?_put_of_ne hne, Option.none_or]
  | document document =>
      obtain ⟨read, hread, h⟩ := bind_eq_ok.mp h
      obtain rfl := pure_eq_ok.mp h
      have hdistinct : read.patterns.names.Nodup := by
        rw [Document.names_patterns hread]
        exact (Json.WellFormed.entriesAt hcall "patterns").1
      rw [Entries.get?_putAll hdistinct, Document.get?_patterns hread, BuilderCall.pattern?]
  | record name fields =>
      obtain ⟨definition, -, rfl⟩ := map_eq_ok.mp h
      rfl
  | union name variants =>
      obtain ⟨definition, -, rfl⟩ := map_eq_ok.mp h
      rfl
  | define definition =>
      cases h
      rfl
  | codec typeName codec =>
      cases h
      rfl
  | config config =>
      cases h
      rfl

/-- A call leaves what was declared before. -/
theorem Declarations.definitions_subset_of_declare (h : d.declare call = .ok d') :
    d.definitions ⊆ d'.definitions := by
  cases call with
  | document document =>
      obtain ⟨read, -, h⟩ := bind_eq_ok.mp h
      obtain rfl := pure_eq_ok.mp h
      exact List.subset_append_left _ _
  | record name fields =>
      obtain ⟨definition, -, rfl⟩ := map_eq_ok.mp h
      exact List.subset_append_left _ _
  | union name variants =>
      obtain ⟨definition, -, rfl⟩ := map_eq_ok.mp h
      exact List.subset_append_left _ _
  | define definition =>
      cases h
      exact List.subset_append_left _ _
  | pattern name pattern =>
      cases h
      exact List.Subset.refl _
  | codec typeName codec =>
      cases h
      exact List.Subset.refl _
  | config config =>
      cases h
      exact List.Subset.refl _

/-- A field that is written in a call is declared with the type that is read under the patterns that
are known with this call. -/
theorem BuilderCall.Writes.exists_declared (hcall : call.IsWellFormed)
    (h : d.declare call = .ok d') {typeName : String} {variant : Option String} {field : String}
    {written : WrittenType} (hwrites : call.Writes typeName variant field written) :
    ∃ definition ∈ d'.definitions, definition.name = typeName ∧
      ∃ type, written.read d'.patterns = .ok type ∧
        definition.fieldType? variant field = some type := by
  cases hwrites with
  | @define definition _ _ type htype =>
      cases h
      exact ⟨definition, List.mem_append_right _ List.mem_cons_self, rfl, type, rfl, htype⟩
  | record hfield =>
      obtain ⟨definition, hdefinition, rfl⟩ := map_eq_ok.mp h
      obtain ⟨hname, htypes⟩ := TypeDefinition.fieldType?_of_declareRecord hdefinition
      exact ⟨definition, List.mem_append_right _ List.mem_cons_self, hname, htypes _ hfield⟩
  | union hvariant hfield =>
      obtain ⟨definition, hdefinition, rfl⟩ := map_eq_ok.mp h
      obtain ⟨hname, htypes⟩ := TypeDefinition.fieldType?_of_declareUnion hdefinition
      exact ⟨definition, List.mem_append_right _ List.mem_cons_self, hname,
        htypes _ hvariant _ hfield⟩
  | documentRecord htype hfield =>
      obtain ⟨read, hread, h⟩ := bind_eq_ok.mp h
      obtain rfl := pure_eq_ok.mp h
      obtain ⟨definition, hmem, hdefinition⟩ := Document.exists_definition hread _ htype
      have htypeFormed := (Json.WellFormed.entriesAt hcall "types").2 _ htype
      obtain ⟨hname, htypes, -⟩ := Document.fieldType?_of_definition htypeFormed hdefinition
      exact ⟨definition, List.mem_append_right _ hmem, hname, htypes _ hfield⟩
  | documentUnion htype hvariant hfield =>
      obtain ⟨read, hread, h⟩ := bind_eq_ok.mp h
      obtain rfl := pure_eq_ok.mp h
      obtain ⟨definition, hmem, hdefinition⟩ := Document.exists_definition hread _ htype
      have htypeFormed := (Json.WellFormed.entriesAt hcall "types").2 _ htype
      obtain ⟨hname, -, htypes⟩ := Document.fieldType?_of_definition htypeFormed hdefinition
      exact ⟨definition, List.mem_append_right _ hmem, hname, htypes _ hvariant _ hfield⟩

end Declare

/-! ## All calls -/

namespace Declarations

variable {d d' : Declarations} {calls : List BuilderCall}

/-- Calls are made one after the other. -/
theorem declareAll_append (before after : List BuilderCall) (d : Declarations) :
    d.declareAll (before ++ after) = d.declareAll before >>= (·.declareAll after) := by
  induction before generalizing d with
  | nil => rfl
  | cons call before ih =>
      rw [List.cons_append, declareAll, declareAll, bind_assoc]
      exact bind_congr ih

/-- A name stands for the pattern that is declared last under it. -/
theorem get?_patterns_of_declareAll (hcalls : ∀ call ∈ calls, call.IsWellFormed)
    (h : d.declareAll calls = .ok d') (name : String) :
    d'.patterns.get? name = (lastPattern? calls name).or (d.patterns.get? name) := by
  induction calls generalizing d with
  | nil =>
      cases h
      rfl
  | cons call calls ih =>
      obtain ⟨hcall, hcalls⟩ := List.forall_mem_cons.mp hcalls
      obtain ⟨next, hnext, h⟩ := bind_eq_ok.mp h
      rw [ih hcalls h, get?_patterns_of_declare hcall hnext, ← List.singleton_append,
        lastPattern?_append, lastPattern?_singleton, Option.or_assoc]

/-- Calls leave what was declared before. -/
theorem definitions_subset_of_declareAll (h : d.declareAll calls = .ok d') :
    d.definitions ⊆ d'.definitions := by
  induction calls generalizing d with
  | nil =>
      cases h
      exact List.Subset.refl _
  | cons call calls ih =>
      obtain ⟨next, hnext, h⟩ := bind_eq_ok.mp h
      exact List.Subset.trans (definitions_subset_of_declare hnext) (ih h)

/-- A field that is written in one of the calls is declared with the type that is read under the
patterns that are declared up to this call. -/
theorem exists_declared_of_declareAll {config : EngineConfig} {before after : List BuilderCall}
    {call : BuilderCall} (hcalls : ∀ other ∈ before ++ call :: after, other.IsWellFormed)
    (h : (empty config).declareAll (before ++ call :: after) = .ok d) {typeName : String}
    {variant : Option String} {field : String} {written : WrittenType}
    (hwrites : call.Writes typeName variant field written) :
    ∃ known : PatternLibrary, (∀ name, known.get? name = lastPattern? (before ++ [call]) name) ∧
      ∃ definition ∈ d.definitions, definition.name = typeName ∧
        ∃ type, written.read known = .ok type ∧
          definition.fieldType? variant field = some type := by
  rw [List.forall_mem_append, List.forall_mem_cons] at hcalls
  obtain ⟨hbefore, hcall, -⟩ := hcalls
  rw [declareAll_append] at h
  -- The type is read in the middle of the calls, and later ones leave its definition as it is.
  obtain ⟨earlier, hearlier, h⟩ := bind_eq_ok.mp h
  obtain ⟨next, hnext, hafter⟩ := bind_eq_ok.mp h
  obtain ⟨definition, hmem, hname, htype⟩ := hwrites.exists_declared hcall hnext
  refine ⟨next.patterns, fun name => ?_, definition, ?_, hname, htype⟩
  · rw [get?_patterns_of_declare hcall hnext, get?_patterns_of_declareAll hbefore hearlier,
      lastPattern?_append, lastPattern?_singleton]
    exact congrArg _ Option.or_none
  · exact definitions_subset_of_declareAll hafter hmem

end Declarations

end RecordSchema
