import Mathlib.Logic.Relator
import RecordSchema.Proofs.Built
import RecordSchema.Proofs.Related

/-!
# Resolution

Which declarations a registry can be built from, and what it then holds. `Declarations.IsConsistent`
lists what has to hold of the names that are declared and referred to; `Declarations.Registers` says
what a definition is resolved to, whatever is declared before it. Building succeeds exactly on
consistent declarations, and the order of the definitions has no effect on what is registered under
a name (`Declarations.build_exact`).
-/

namespace RecordSchema

open Outcome

/-! ## What a definition is resolved to -/

/-- The field by which a collection of instances is keyed: the one that the collection names, or
else the one that the type declares. -/
def TypeDefinition.keyField (d : TypeDefinition) (named : Option String) : String :=
  (named <|> d.idField).getD defaultIdField

namespace Declarations

section Statement

variable (d : Declarations)

/-- The names of the declared types, in order. -/
def typeNames : List String :=
  d.definitions.map (·.name)

/-- A field of a declared type has this rule. -/
def HasRule (rule : Rule) : Prop :=
  ∃ definition ∈ d.definitions, ∃ fields ∈ definition.shape.alternatives, ∃ field ∈ fields,
    field.2.rule = rule

/-- Types have names of their own, and what is referred to is declared. -/
structure IsConsistent : Prop where
  distinct : d.typeNames.Nodup
  notPattern : ∀ name ∈ d.typeNames, ¬ d.patterns.has name
  tagged : ∀ name, d.HasRule (.tagged name) → name ∈ d.typeNames ∨ d.patterns.has name
  keyed : ∀ name key, d.HasRule (.keyed name key) → name ∈ d.typeNames
  key : ∀ name key, d.HasRule (.keyed name key) → ∀ target ∈ d.definitions, target.name = name →
    target.hasFieldEverywhere (target.keyField key)
  codecs : ∀ given ∈ d.codecs, given.1 ∈ d.typeNames

/-- What a rule is resolved to: a name that is not that of a type, to the pattern of the name; and a
keyed collection, to one that says by which field it is keyed. -/
inductive ResolvesRule : Rule → Rule → Prop
  | type {name} : name ∈ d.typeNames → ResolvesRule (.tagged name) (.tagged name)
  | pattern {name pattern} : name ∉ d.typeNames → d.patterns.get? name = some pattern →
      ResolvesRule (.tagged name) (.pattern name pattern)
  | keyed {target key} : target ∈ d.definitions →
      target.hasFieldEverywhere (target.keyField key) →
      ResolvesRule (.keyed target.name key) (.keyed target.name (some (target.keyField key)))
  | other {rule : Rule} : ¬ rule.isReference → ResolvesRule rule rule

/-- A field type is resolved in its rule only. -/
structure ResolvesType (declared resolved : FieldType) : Prop where
  rule : d.ResolvesRule declared.rule resolved.rule
  isOptional_eq : resolved.isOptional = declared.isOptional
  depth_eq : resolved.depth = declared.depth
  source_eq : resolved.source = declared.source

/-- A definition is resolved in the types of its fields only. -/
structure ResolvesDefinition (declared resolved : TypeDefinition) : Prop where
  name_eq : resolved.name = declared.name
  idField_eq : resolved.idField = declared.idField
  shape : declared.shape.Related d.ResolvesType resolved.shape

/-- The codec that a type is given last, or else the standard one. -/
def codecOf (name : String) : Codec :=
  (Entries.get? name d.codecs.reverse).getD .standard

/-- The definition is registered under its name, resolved and with its codec. -/
structure Registers (declared : TypeDefinition) (entry : String × RegisteredType) : Prop where
  name_eq : entry.1 = declared.name
  definition : d.ResolvesDefinition declared entry.2.definition
  codec_eq : entry.2.codec = d.codecOf declared.name

end Statement

variable {d : Declarations}

/-! ## The declared names -/

/-- The definitions under their names. -/
def filed (d : Declarations) : Entries TypeDefinition :=
  d.definitions.map fun definition ↦ (definition.name, definition)

@[simp] theorem names_filed : d.filed.names = d.typeNames := by
  simp [filed, typeNames, Entries.names]

/-- Definitions are declared one after the other under new names that are not those of patterns. -/
theorem declared_eq_ok {patterns : PatternLibrary} {found types : Entries TypeDefinition}
    {definitions : List TypeDefinition} :
    declared patterns found definitions = .ok types ↔
      types = found ++ definitions.map (fun definition ↦ (definition.name, definition)) ∧
        (definitions.map (·.name)).Nodup ∧
        ∀ definition ∈ definitions,
          ¬ patterns.has definition.name ∧ ¬ found.has definition.name := by
  induction definitions generalizing found with
  | nil =>
      rw [declared, Except.ok.injEq, @eq_comm _ found]
      simp
  | cons first rest ih =>
      rw [declared]
      split
      next htaken =>
          simp only [reduceCtorEq, false_iff, not_and]
          intro _ _ hnew
          obtain ⟨hpattern, hfound⟩ := hnew first List.mem_cons_self
          simp [hpattern, hfound] at htaken
      next hfree =>
          rw [Bool.or_eq_true, not_or] at hfree
          rw [ih, List.map_cons, List.map_cons, List.nodup_cons, List.forall_mem_cons,
            List.append_assoc, List.singleton_append]
          -- The later definitions have names other than the first one and than those before it.
          have hfound : ∀ name : String, ¬ (found ++ [(first.name, first)]).has name ↔
              ¬ found.has name ∧ name ≠ first.name := by
            intro name
            rw [Entries.has_iff, Entries.has_iff, Entries.names_append, List.mem_append, not_or]
            simp [Entries.names]
          simp only [hfound, List.mem_map, not_exists, not_and]
          grind

/-- With distinct names, exactly the definitions are found under their names. -/
theorem get?_filed_iff (hdistinct : d.typeNames.Nodup) {name : String} {target : TypeDefinition} :
    d.filed.get? name = some target ↔ target ∈ d.definitions ∧ target.name = name := by
  rw [← names_filed] at hdistinct
  constructor
  · intro h
    obtain ⟨definition, hmem, heq⟩ := List.mem_map.mp (Entries.mem_of_get? h)
    obtain ⟨rfl, rfl⟩ := Prod.mk.inj heq
    exact ⟨hmem, rfl⟩
  · rintro ⟨hmem, rfl⟩
    exact Entries.get?_of_mem hdistinct (List.mem_map_of_mem hmem)

/-! ## Resolving -/

/-- A rule resolves to what it is said to be resolved to, for whatever field it stands. -/
theorem resolveRule_eq_ok (hdistinct : d.typeNames.Nodup) {owner field : String}
    {rule resolved : Rule} :
    resolveRule d.filed d.patterns owner field rule = .ok resolved ↔
      d.ResolvesRule rule resolved := by
  cases rule with
  | tagged name =>
      have hhas : d.filed.has name ↔ name ∈ d.typeNames := by rw [Entries.has_iff, names_filed]
      rw [resolveRule]
      constructor
      · intro h
        split at h
        next htype =>
            cases h
            exact .type (hhas.mp htype)
        next htype =>
            split at h
            next pattern hpattern =>
                cases h
                exact .pattern (mt hhas.mpr htype) hpattern
            next => cases h
      · intro h
        cases h with
        | type htype => rw [if_pos (hhas.mpr htype)]
        | pattern htype hpattern => rw [if_neg (mt hhas.mp htype), hpattern]
        | other h => simp [Rule.isReference] at h
  | keyed name key =>
      rw [resolveRule]
      constructor
      · intro h
        split at h
        next => cases h
        next target htarget =>
            obtain ⟨hmem, rfl⟩ := (get?_filed_iff hdistinct).mp htarget
            dsimp only at h
            split at h
            next hkey =>
                cases h
                exact .keyed hmem hkey
            next => cases h
      · intro h
        cases h with
        | keyed hmem hkey =>
            rw [(get?_filed_iff hdistinct).mpr ⟨hmem, rfl⟩]
            exact if_pos hkey
        | other h => simp [Rule.isReference] at h
  | _ =>
      rw [resolveRule, Except.ok.injEq]
      · constructor
        · rintro rfl
          exact .other (by simp [Rule.isReference])
        · rintro ⟨⟩
          rfl
      all_goals simp

/-- A definition resolves to what it is said to be resolved to. -/
theorem resolve_eq_ok (hdistinct : d.typeNames.Nodup) {declared resolved : TypeDefinition} :
    resolve d.filed d.patterns declared = .ok resolved ↔
      d.ResolvesDefinition declared resolved := by
  have hshape : ∀ shape, (declared.shape.mapTypes fun field type ↦ do
      let rule ← resolveRule d.filed d.patterns declared.name field type.rule
      return { type with rule }) = .ok shape ↔ declared.shape.Related d.ResolvesType shape := by
    refine fun shape => Shape.mapTypes_eq_ok fun field type result => ?_
    simp only [bind_eq_ok, resolveRule_eq_ok hdistinct, pure_eq_ok]
    constructor
    · rintro ⟨rule, hrule, rfl⟩
      exact ⟨hrule, rfl, rfl, rfl⟩
    · rintro ⟨hrule, hoptional, hdepth, hsource⟩
      refine ⟨result.rule, hrule, ?_⟩
      rw [← hoptional, ← hdepth, ← hsource]
  rw [resolve, bind_eq_ok]
  simp only [hshape, pure_eq_ok]
  constructor
  · rintro ⟨shape, hshape, rfl⟩
    exact ⟨rfl, rfl, hshape⟩
  · rintro ⟨hname, hidField, hshape⟩
    refine ⟨resolved.shape, hshape, ?_⟩
    rw [← hname, ← hidField]

/-- Where the names are distinct, a definition resolves in one way. -/
theorem rightUnique_resolvesDefinition (hdistinct : d.typeNames.Nodup) :
    Relator.RightUnique d.ResolvesDefinition := by
  intro declared left right hleft hright
  rw [← resolve_eq_ok hdistinct] at hleft hright
  exact Except.ok.inj (hleft.symm.trans hright)

/-- A rule resolves exactly when what it refers to is declared. -/
theorem exists_resolvesRule_iff {rule : Rule} :
    (∃ resolved, d.ResolvesRule rule resolved) ↔
      (∀ name, rule = .tagged name → name ∈ d.typeNames ∨ d.patterns.has name) ∧
        ∀ name key, rule = .keyed name key →
          ∃ target ∈ d.definitions, target.name = name ∧
            target.hasFieldEverywhere (target.keyField key) := by
  constructor
  · rintro ⟨resolved, h⟩
    cases h with
    | type htype => simp [htype]
    | pattern _ hpattern => simp [Entries.has, hpattern]
    | keyed hmem hkey =>
        refine ⟨by simp, ?_⟩
        rintro name key ⟨⟩
        exact ⟨_, hmem, rfl, hkey⟩
    | other h =>
        refine ⟨fun name heq => ?_, fun name key heq => ?_⟩ <;> simp [heq, Rule.isReference] at h
  · rintro ⟨htagged, hkeyed⟩
    cases rule with
    | tagged name =>
        by_cases htype : name ∈ d.typeNames
        · exact ⟨_, .type htype⟩
        · have hpattern := (htagged name rfl).resolve_left htype
          obtain ⟨pattern, hpattern⟩ := Option.isSome_iff_exists.mp hpattern
          exact ⟨_, .pattern htype hpattern⟩
    | keyed name key =>
        obtain ⟨target, hmem, rfl, hkey⟩ := hkeyed name key rfl
        exact ⟨_, .keyed hmem hkey⟩
    | _ => exact ⟨_, .other (by simp [Rule.isReference])⟩

/-- A definition resolves exactly when the rules of its fields do. -/
theorem exists_resolvesDefinition_iff {declared : TypeDefinition} :
    (∃ resolved, d.ResolvesDefinition declared resolved) ↔
      ∀ fields ∈ declared.shape.alternatives, ∀ field ∈ fields,
        ∃ resolved, d.ResolvesRule field.2.rule resolved := by
  have htype : ∀ type : FieldType, (∃ resolved, d.ResolvesType type resolved) ↔
      ∃ resolved, d.ResolvesRule type.rule resolved := by
    intro type
    constructor
    · rintro ⟨resolved, h⟩
      exact ⟨_, h.rule⟩
    · rintro ⟨rule, h⟩
      exact ⟨{ type with rule }, h, rfl, rfl, rfl⟩
  simp only [← htype, ← Shape.exists_related_iff]
  constructor
  · rintro ⟨resolved, h⟩
    exact ⟨_, h.shape⟩
  · rintro ⟨shape, h⟩
    exact ⟨{ declared with shape }, rfl, rfl, h⟩

/-! ## Building -/

/-- Each type has the codec that it is given last. All of the types that are given codecs are
there. -/
theorem withCodecs_eq_ok {types result : Entries RegisteredType} {codecs : List (String × Codec)}
    (hdistinct : types.names.Nodup) :
    withCodecs types codecs = .ok result ↔
      (∀ given ∈ codecs, given.1 ∈ types.names) ∧
        result = types.map fun entry ↦ (entry.1, { entry.2 with
          codec := (Entries.get? entry.1 codecs.reverse).getD entry.2.codec }) := by
  induction codecs generalizing types with
  | nil =>
      rw [withCodecs, Except.ok.injEq, @eq_comm _ types]
      simp
  | cons first rest ih =>
      obtain ⟨name, codec⟩ := first
      rw [withCodecs]
      split
      next entry hentry =>
          have hmem := Entries.mem_names_of_get? hentry
          rw [ih (Entries.nodup_names_put hdistinct), Entries.names_put_of_mem hmem,
            List.forall_mem_cons, and_iff_right hmem, Entries.put_eq_map hdistinct hmem,
            List.map_map]
          refine and_congr_right fun _ => ?_
          rw [List.map_congr_left]
          rintro ⟨key, old⟩ hold
          rw [Function.comp_apply, List.reverse_cons, Entries.get?_append, Entries.get?_cons,
            Entries.get?_nil]
          by_cases hkey : key = name
          · subst hkey
            obtain rfl := Option.some.inj (hentry.symm.trans (Entries.get?_of_mem hdistinct hold))
            cases hlast : Entries.get? key rest.reverse <;> simp [hlast]
          · simp [hkey, Ne.symm hkey]
      next hnone =>
          have hname := Entries.get?_eq_none_iff.mp hnone
          simp [hname]

/-- Every definition resolves, and has the standard codec before codecs are given. -/
theorem mapM_resolve_eq_ok (hdistinct : d.typeNames.Nodup) {resolved : Entries RegisteredType} :
    (d.filed.mapM fun (name, definition) ↦ do
      let definition ← resolve d.filed d.patterns definition
      return (name, RegisteredType.mk definition .standard)) = .ok resolved ↔
      List.Forall₂ (fun declared entry => entry.1 = declared.name ∧
        d.ResolvesDefinition declared entry.2.definition ∧ entry.2.codec = .standard)
        d.definitions resolved := by
  rw [mapM_eq_ok, filed, List.forall₂_map_left_iff, ← filed]
  refine forall₂_congr_left fun declared _ entry => ?_
  simp only [bind_eq_ok, resolve_eq_ok hdistinct, pure_eq_ok]
  constructor
  · rintro ⟨definition, hdefinition, rfl⟩
    exact ⟨rfl, hdefinition, rfl⟩
  · rintro ⟨hname, hdefinition, hcodec⟩
    exact ⟨_, hdefinition, by rw [← hname, ← hcodec]⟩

/-- Registered definitions are resolved ones that were given their codecs. -/
theorem exists_withCodecs_iff (hdistinct : d.typeNames.Nodup)
    {registered : Entries RegisteredType} :
    (∃ resolved, (d.filed.mapM fun (name, definition) ↦ do
        let definition ← resolve d.filed d.patterns definition
        return (name, RegisteredType.mk definition .standard)) = .ok resolved ∧
      withCodecs resolved d.codecs = .ok registered) ↔
      (∀ given ∈ d.codecs, given.1 ∈ d.typeNames) ∧
        List.Forall₂ d.Registers d.definitions registered := by
  simp only [mapM_resolve_eq_ok hdistinct]
  constructor
  · rintro ⟨resolved, hresolved, hregistered⟩
    have hnames : d.typeNames = resolved.names :=
      map_eq_map_of_forall₂ (hresolved.imp fun _ _ h => h.1.symm)
    obtain ⟨hgiven, rfl⟩ := (withCodecs_eq_ok (hnames ▸ hdistinct)).mp hregistered
    refine ⟨hnames ▸ hgiven, List.forall₂_map_right_iff.mpr ?_⟩
    refine hresolved.imp fun declared entry h => ⟨h.1, h.2.1, ?_⟩
    rw [codecOf, h.1, h.2.2]
  · rintro ⟨hgiven, hregistered⟩
    have hnames : d.typeNames = registered.names :=
      map_eq_map_of_forall₂ (hregistered.imp fun _ _ h => h.name_eq.symm)
    let uncoded : RegisteredType → RegisteredType := fun entry => { entry with codec := .standard }
    have huncoded : (registered.mapValues uncoded).names = d.typeNames := by
      rw [Entries.names_mapValues, hnames]
    refine ⟨registered.mapValues uncoded, ?_, ?_⟩
    · refine List.forall₂_map_right_iff.mpr (hregistered.imp fun declared entry h => ?_)
      exact ⟨h.name_eq, h.definition, rfl⟩
    · rw [withCodecs_eq_ok (huncoded ▸ hdistinct), huncoded]
      refine ⟨hgiven, ?_⟩
      have hcodec : ∀ entry ∈ registered, (entry.1, { entry.2 with
          codec := (Entries.get? entry.1 d.codecs.reverse).getD .standard }) = entry := by
        intro entry hmem
        obtain ⟨declared, -, h⟩ := exists_of_mem_right hregistered hmem
        have hentry := h.codec_eq
        rw [codecOf, ← h.name_eq] at hentry
        rw [← hentry]
      rw [Entries.mapValues, List.map_map]
      exact ((List.map_congr_left hcodec).trans (List.map_id _)).symm

/-- A registry is built exactly where names are distinct and all codecs are given to declared types;
it then registers the definitions one by one, in their order. -/
theorem build_eq_ok {number : Nat} {r : Registry} :
    d.build number = .ok r ↔
      (d.typeNames.Nodup ∧ (∀ name ∈ d.typeNames, ¬ d.patterns.has name) ∧
        ∀ given ∈ d.codecs, given.1 ∈ d.typeNames) ∧
      (r.number = number ∧ r.patterns = d.patterns ∧ r.config = d.config) ∧
      List.Forall₂ d.Registers d.definitions r.types := by
  have hnew : (∀ definition ∈ d.definitions, ¬ d.patterns.has definition.name ∧
      ¬ Entries.has definition.name ([] : Entries TypeDefinition)) ↔
      ∀ name ∈ d.typeNames, ¬ d.patterns.has name := by
    simp [typeNames, Entries.has]
  rw [build, bind_eq_ok]
  simp only [declared_eq_ok, List.nil_append, hnew]
  constructor
  · rintro ⟨_, ⟨rfl, hdistinct, hnew⟩, h⟩
    obtain ⟨resolved, hresolved, h⟩ := bind_eq_ok.mp h
    obtain ⟨registered, hregistered, h⟩ := bind_eq_ok.mp h
    obtain rfl := pure_eq_ok.mp h
    obtain ⟨hgiven, hall⟩ :=
      (exists_withCodecs_iff hdistinct).mp ⟨resolved, hresolved, hregistered⟩
    exact ⟨⟨hdistinct, hnew, hgiven⟩, ⟨rfl, rfl, rfl⟩, hall⟩
  · rintro ⟨⟨hdistinct, hnew, hgiven⟩, ⟨hnumber, hpatterns, hconfig⟩, hall⟩
    obtain ⟨resolved, hresolved, hregistered⟩ :=
      (exists_withCodecs_iff hdistinct).mpr ⟨hgiven, hall⟩
    refine ⟨_, ⟨rfl, hdistinct, hnew⟩, bind_eq_ok.mpr ⟨resolved, hresolved, ?_⟩⟩
    refine bind_eq_ok.mpr ⟨_, hregistered, ?_⟩
    rw [← hnumber, ← hpatterns, ← hconfig]
    rfl

/-- The names of the types are the declared ones, in the order of declaration, and distinct. -/
theorem names_types_of_build {number : Nat} {r : Registry} (h : d.build number = .ok r) :
    r.types.names = d.typeNames ∧ r.types.names.Nodup := by
  obtain ⟨⟨hdistinct, -, -⟩, -, hall⟩ := build_eq_ok.mp h
  have hnames : d.typeNames = r.types.names :=
    map_eq_map_of_forall₂ (hall.imp fun _ _ hentry => hentry.name_eq.symm)
  exact ⟨hnames.symm, hnames ▸ hdistinct⟩

/-- What is declared under a name is found under it, resolved. -/
theorem exists_definition?_of_build {number : Nat} {r : Registry} (h : d.build number = .ok r) :
    ∀ target ∈ d.definitions, ∃ resolved,
      r.definition? target.name = some resolved ∧ d.ResolvesDefinition target resolved := by
  obtain ⟨-, -, hall⟩ := build_eq_ok.mp h
  intro target htarget
  obtain ⟨⟨name, entry⟩, hentry, hregisters⟩ := exists_of_mem_left hall htarget
  obtain rfl : name = target.name := hregisters.name_eq
  have hget := Entries.get?_of_mem (names_types_of_build h).2 hentry
  exact ⟨entry.definition, by rw [Registry.definition?, hget]; rfl, hregisters.definition⟩

/-- Declarations are consistent exactly where the names are distinct, all codecs are given to
declared types and every definition resolves. -/
theorem isConsistent_iff :
    d.IsConsistent ↔
      (d.typeNames.Nodup ∧ (∀ name ∈ d.typeNames, ¬ d.patterns.has name) ∧
        ∀ given ∈ d.codecs, given.1 ∈ d.typeNames) ∧
      ∀ definition ∈ d.definitions, ∃ resolved, d.ResolvesDefinition definition resolved := by
  simp only [exists_resolvesDefinition_iff, exists_resolvesRule_iff]
  constructor
  · intro h
    refine ⟨⟨h.distinct, h.notPattern, h.codecs⟩, ?_⟩
    intro definition hdefinition fields hfields field hfield
    have hrule : d.HasRule field.2.rule :=
      ⟨definition, hdefinition, fields, hfields, field, hfield, rfl⟩
    refine ⟨fun name heq => h.tagged name (heq ▸ hrule), fun name key heq => ?_⟩
    rw [heq] at hrule
    obtain ⟨target, htarget, hname⟩ := List.mem_map.mp (h.keyed name key hrule)
    exact ⟨target, htarget, hname, h.key name key hrule target htarget hname⟩
  · rintro ⟨⟨hdistinct, hnew, hgiven⟩, hresolves⟩
    have hkeyed : ∀ name key, d.HasRule (.keyed name key) → ∃ target ∈ d.definitions,
        target.name = name ∧ target.hasFieldEverywhere (target.keyField key) := by
      rintro name key ⟨definition, hdefinition, fields, hfields, field, hfield, heq⟩
      exact (hresolves definition hdefinition fields hfields field hfield).2 name key heq
    refine ⟨hdistinct, hnew, ?_, ?_, ?_, hgiven⟩
    · rintro name ⟨definition, hdefinition, fields, hfields, field, hfield, heq⟩
      exact (hresolves definition hdefinition fields hfields field hfield).1 name heq
    · intro name key hrule
      obtain ⟨target, htarget, rfl, -⟩ := hkeyed name key hrule
      exact List.mem_map_of_mem htarget
    · intro name key hrule target htarget hname
      obtain ⟨other, hother, rfl, hkey⟩ := hkeyed name key hrule
      exact List.inj_on_of_nodup_map hdistinct htarget hother hname ▸ hkey

/-- A registry can be built exactly from consistent declarations. -/
theorem exists_build_iff {number : Nat} :
    (∃ r, d.build number = .ok r) ↔ d.IsConsistent := by
  simp only [build_eq_ok, isConsistent_iff]
  constructor
  · rintro ⟨r, hnames, -, hall⟩
    refine ⟨hnames, fun definition hmem => ?_⟩
    obtain ⟨entry, -, hentry⟩ := exists_of_mem_left hall hmem
    exact ⟨_, hentry.definition⟩
  · rintro ⟨hnames, hresolves⟩
    obtain ⟨types, htypes⟩ : ∃ types, List.Forall₂ d.Registers d.definitions types := by
      refine exists_forall₂ fun definition hmem => ?_
      obtain ⟨resolved, hresolved⟩ := hresolves definition hmem
      exact ⟨(definition.name, ⟨resolved, d.codecOf definition.name⟩), rfl, hresolved, rfl⟩
    exact ⟨⟨number, types, d.patterns, d.config⟩, hnames, ⟨rfl, rfl, rfl⟩, htypes⟩

/-! ## The order of declarations -/

/-- The declarations are the same patterns, types and codecs, in whatever order. -/
structure SameUpToOrder (d d' : Declarations) : Prop where
  patterns : ∀ name, d.patterns.get? name = d'.patterns.get? name
  definitions : d.definitions.Perm d'.definitions
  codecs : d.codecs = d'.codecs

namespace SameUpToOrder

variable {d' : Declarations}

theorem symm (h : d.SameUpToOrder d') : d'.SameUpToOrder d :=
  ⟨fun name => (h.patterns name).symm, h.definitions.symm, h.codecs.symm⟩

theorem typeNames (h : d.SameUpToOrder d') : d.typeNames.Perm d'.typeNames :=
  h.definitions.map _

/-- A rule is resolved in the same way. -/
theorem resolvesRule (h : d.SameUpToOrder d') {rule resolved : Rule}
    (hrule : d.ResolvesRule rule resolved) : d'.ResolvesRule rule resolved := by
  cases hrule with
  | type htype => exact .type (h.typeNames.mem_iff.mp htype)
  | pattern htype hpattern =>
      exact .pattern (mt h.typeNames.mem_iff.mpr htype) (h.patterns _ ▸ hpattern)
  | keyed hmem hkey => exact .keyed (h.definitions.mem_iff.mp hmem) hkey
  | other hrule => exact .other hrule

/-- A definition is resolved in the same way. -/
theorem resolvesDefinition (h : d.SameUpToOrder d') {declared resolved : TypeDefinition}
    (hdeclared : d.ResolvesDefinition declared resolved) :
    d'.ResolvesDefinition declared resolved where
  name_eq := hdeclared.name_eq
  idField_eq := hdeclared.idField_eq
  shape := hdeclared.shape.imp fun htype =>
    ⟨h.resolvesRule htype.rule, htype.isOptional_eq, htype.depth_eq, htype.source_eq⟩

/-- Declarations in another order are consistent too. -/
theorem isConsistent (h : d.SameUpToOrder d') (hd : d.IsConsistent) : d'.IsConsistent := by
  rw [isConsistent_iff] at hd ⊢
  obtain ⟨⟨hdistinct, hnew, hgiven⟩, hresolves⟩ := hd
  refine ⟨⟨h.typeNames.nodup_iff.mp hdistinct, ?_, ?_⟩, ?_⟩
  · intro name hname
    rw [Entries.has, ← h.patterns]
    exact hnew name (h.typeNames.mem_iff.mpr hname)
  · intro given hmem
    exact h.typeNames.mem_iff.mp (hgiven given (h.codecs ▸ hmem))
  · intro definition hmem
    obtain ⟨resolved, hresolved⟩ := hresolves definition (h.definitions.mem_iff.mpr hmem)
    exact ⟨resolved, h.resolvesDefinition hresolved⟩

/-- What is registered under a name is registered under it from declarations in another order. -/
theorem get?_types_of_get?_types (h : d.SameUpToOrder d') {number number' : Nat} {r r' : Registry}
    (hr : d.build number = .ok r) (hr' : d'.build number' = .ok r') {name : String}
    {entry : RegisteredType} (hentry : r.types.get? name = some entry) :
    r'.types.get? name = some entry := by
  obtain ⟨-, -, hall⟩ := build_eq_ok.mp hr
  obtain ⟨⟨hdistinct, -, -⟩, -, hall'⟩ := build_eq_ok.mp hr'
  obtain ⟨declared, hmem, hregisters⟩ := exists_of_mem_right hall (Entries.mem_of_get? hentry)
  obtain ⟨other, hother, hregisters'⟩ :=
    exists_of_mem_left hall' (h.definitions.mem_iff.mp hmem)
  have hsame : other = (name, entry) := by
    obtain ⟨hname, hdefinition, hcodec⟩ := hregisters
    obtain ⟨hname', hdefinition', hcodec'⟩ := hregisters'
    have hdefinitions : other.2.definition = entry.definition :=
      rightUnique_resolvesDefinition hdistinct hdefinition' (h.resolvesDefinition hdefinition)
    have hcodecs : other.2.codec = entry.codec := by
      rw [hcodec', hcodec, codecOf, codecOf, h.codecs]
    exact Prod.ext (hname'.trans hname.symm) (congrArg₂ RegisteredType.mk hdefinitions hcodecs)
  exact Entries.get?_of_mem (names_types_of_build hr').2 (hsame ▸ hother)

/-- What is registered under a name does not depend on the order of the declarations. -/
theorem get?_types (h : d.SameUpToOrder d') {number number' : Nat} {r r' : Registry}
    (hr : d.build number = .ok r) (hr' : d'.build number' = .ok r') (name : String) :
    r.types.get? name = r'.types.get? name :=
  Option.ext fun _ =>
    ⟨h.get?_types_of_get?_types hr hr', h.symm.get?_types_of_get?_types hr' hr⟩

/-- Whether a registry can be built does not depend on the order of the declarations. -/
theorem exists_build_iff (h : d.SameUpToOrder d') {number number' : Nat} :
    (∃ r, d.build number = .ok r) ↔ ∃ r', d'.build number' = .ok r' := by
  rw [Declarations.exists_build_iff, Declarations.exists_build_iff]
  exact ⟨h.isConsistent, h.symm.isConsistent⟩

end SameUpToOrder

/-- A registry can be built exactly from consistent declarations. It holds the definitions one by
one, each resolved in the rules of its fields only. From the definitions in another order a registry
can be built too, and it is the same under every name. -/
theorem build_exact (d : Declarations) (number : Nat) :
    ((∃ r, d.build number = .ok r) ↔ d.IsConsistent) ∧
    (∀ r, d.build number = .ok r → List.Forall₂ d.Registers d.definitions r.types) ∧
    ∀ order, order.Perm d.definitions →
      ((∃ other, { d with definitions := order }.build number = .ok other) ↔
        ∃ r, d.build number = .ok r) ∧
      ∀ r other, d.build number = .ok r →
        { d with definitions := order }.build number = .ok other →
        other = { r with types := other.types } ∧
          ∀ name, other.types.get? name = r.types.get? name := by
  refine ⟨exists_build_iff, fun r hr => (build_eq_ok.mp hr).2.2, fun order horder => ?_⟩
  have hsame : SameUpToOrder { d with definitions := order } d := ⟨fun _ => rfl, horder, rfl⟩
  refine ⟨hsame.exists_build_iff, fun r other hr hother => ⟨?_, hsame.get?_types hother hr⟩⟩
  obtain ⟨-, ⟨hnumber, hpatterns, hconfig⟩, -⟩ := build_eq_ok.mp hr
  obtain ⟨-, ⟨hnumber', hpatterns', hconfig'⟩, -⟩ := build_eq_ok.mp hother
  rw [hnumber, hpatterns, hconfig, ← hnumber', ← hpatterns', ← hconfig']

end Declarations

/-! ## Teams

Teams have a motto, which is a word, and members; persons can refer back to a team.
-/

namespace Teams

/-- Lower-case words. -/
def word : Pattern :=
  ⟨"[a-z]+", "", (Pattern.program? "[a-z]+" []).get (by decide +kernel), (Option.some_get _).symm⟩

/-- Teams and persons. -/
def declarations : Declarations where
  patterns := [("Word", word)]
  definitions := [
    ⟨"Team", .record [("motto", .ofRule (.tagged "Word")),
      ("members", .ofRule (.keyed "Person" none))], none⟩,
    ⟨"Person", .record [("name", .ofRule .string),
      ("team", { FieldType.ofRule (.tagged "Team") with isOptional := true })], some "name"⟩]
  codecs := []
  config := .standard

/-- The registry of teams and persons. -/
def registry : Registry where
  number := 0
  types := [
    ("Team", ⟨⟨"Team", .record [("motto", .ofRule (.pattern "Word" word)),
      ("members", .ofRule (.keyed "Person" (some "name")))], none⟩, .standard⟩),
    ("Person", ⟨⟨"Person", .record [("name", .ofRule .string),
      ("team", { FieldType.ofRule (.tagged "Team") with isOptional := true })], some "name"⟩,
      .standard⟩)]
  patterns := [("Word", word)]
  config := .standard

theorem build_declarations : declarations.build 0 = .ok registry := rfl

end Teams

/-- Persons and teams can be declared the other way round. -/
theorem Teams.build_reverse :
    declarations.definitions.reverse.Perm declarations.definitions ∧
    ∃ other,
      { declarations with definitions := declarations.definitions.reverse }.build 0 = .ok other ∧
      ∀ name, other.types.get? name = registry.types.get? name := by
  have hperm := List.reverse_perm declarations.definitions
  obtain ⟨hbuild, hsame⟩ := (declarations.build_exact 0).2.2 _ hperm
  obtain ⟨other, hother⟩ := hbuild.mpr ⟨registry, build_declarations⟩
  exact ⟨hperm, other, hother, (hsame registry other build_declarations hother).2⟩

end RecordSchema
