import RecordSchema.Proofs.BuilderCalls

/-!
# Shared patterns

A field can name a shared pattern in the notation of field types or in a structured field type. A
name in the notation stands for the pattern that the registry has under it. A structured field type
keeps the pattern that the name stood for when its document was read, so it differs from the
registry where a later call declares another pattern under the name
(`pattern_of_reference`).
-/

namespace RecordSchema

open Outcome

namespace WrittenType

/-- The type is written in the notation, as this name at some depth. -/
def NamesInNotation (name : String) : WrittenType → Prop
  | .given type => type.rule = .tagged name
  | .expression (.text text) | .json (.string text) =>
      ∃ type, FieldType.parse text = .ok type ∧ type.rule = .tagged name
  | _ => False

/-- The type is written as an object that names a pattern. -/
def NamesInObject (name : String) : WrittenType → Prop
  | .json value => FieldType.patternReference? value = some name
  | _ => False

variable {written : WrittenType} {known : PatternLibrary} {name : String} {type : FieldType}

/-- A name in the notation is read like the name of a type. -/
theorem NamesInNotation.rule_eq (h : written.NamesInNotation name)
    (hread : written.read known = .ok type) : type.rule = .tagged name := by
  have htext : ∀ {text : String}, (∃ type, FieldType.parse text = .ok type ∧
      type.rule = .tagged name) → FieldType.parse text = .ok type → type.rule = .tagged name := by
    rintro text ⟨other, hother, hrule⟩ hparse
    obtain rfl := Except.ok.inj (hother.symm.trans hparse)
    exact hrule
  cases written with
  | given type =>
      cases hread
      exact h
  | expression expression =>
      cases expression with
      | text text => exact htext h hread
      | _ => cases h
  | json value =>
      cases value with
      | string text => exact htext h hread
      | _ => cases h

/-- A pattern that an object names is taken from those that are known. -/
theorem NamesInObject.rule_eq (h : written.NamesInObject name)
    (hread : written.read known = .ok type) :
    ∃ pattern, known.get? name = some pattern ∧ type.rule = .pattern name pattern := by
  cases written with
  | json value => exact FieldType.rule_of_ofJson hread h
  | _ => cases h

end WrittenType

/-! ## Resolved fields -/

namespace Declarations

variable {d : Declarations}

/-- Resolving a definition resolves the type of each field. -/
theorem ResolvesDefinition.exists_fieldType {declared resolved : TypeDefinition}
    (h : d.ResolvesDefinition declared resolved) {variant : Option String} {field : String}
    {type : FieldType} (hfield : declared.fieldType? variant field = some type) :
    ∃ result, resolved.fieldType? variant field = some result ∧ d.ResolvesType type result := by
  obtain ⟨-, -, hshape⟩ := h
  obtain ⟨name, shape, idField⟩ := declared
  obtain ⟨name', shape', idField'⟩ := resolved
  cases hshape with
  | record hfields =>
      cases variant with
      | none => exact hfields.exists_get? hfield
      | some variant => cases hfield
  | union hvariants =>
      cases variant with
      | none => cases hfield
      | some variant =>
          obtain ⟨fields, hfields, hget⟩ := Option.bind_eq_some_iff.mp hfield
          obtain ⟨others, hothers, hrelated⟩ := hvariants.exists_get? hfields
          obtain ⟨result, hresult, hresolves⟩ := hrelated.exists_get? hget
          exact ⟨result, Option.bind_eq_some_iff.mpr ⟨others, hothers, hresult⟩, hresolves⟩

end Declarations

namespace Registry

/-- The type of a field of a record or of a variant. -/
def fieldType? (r : Registry) (typeName : String) (variant : Option String) (field : String) :
    Option FieldType :=
  (r.definition? typeName).bind (·.fieldType? variant field)

/-- The registry is what these calls come to. -/
def IsBuiltBy (r : Registry) (calls : List BuilderCall) : Prop :=
  (∀ call ∈ calls, call.IsWellFormed) ∧ ∃ config d number,
    (Declarations.empty config).declareAll calls = .ok d ∧ d.build number = .ok r

variable {r : Registry} {calls before after : List BuilderCall} {call : BuilderCall}
  {typeName field name : String} {variant : Option String} {written : WrittenType}

/-- A registry has under a name the pattern that is declared last. -/
theorem IsBuiltBy.get?_patterns (hr : r.IsBuiltBy calls) (name : String) :
    r.patterns.get? name = lastPattern? calls name := by
  obtain ⟨hcalls, config, d, number, hd, hbuild⟩ := hr
  obtain ⟨-, ⟨-, hpatterns, -⟩, -⟩ := Declarations.build_eq_ok.mp hbuild
  rw [hpatterns, Declarations.get?_patterns_of_declareAll hcalls hd]
  exact Option.or_none

/-- A declared field is found in the registry, with its type resolved. -/
theorem exists_fieldType_of_build {d : Declarations} {number : Nat} (h : d.build number = .ok r)
    {definition : TypeDefinition} (hmem : definition ∈ d.definitions) {type : FieldType}
    (hfield : definition.fieldType? variant field = some type) :
    ∃ result, r.fieldType? definition.name variant field = some result ∧
      d.ResolvesType type result := by
  obtain ⟨resolved, hresolved, hdefinition⟩ :=
    Declarations.exists_definition?_of_build h definition hmem
  rw [fieldType?, hresolved]
  exact hdefinition.exists_fieldType hfield

/-- A name in the notation that is the name of a pattern stands for the pattern that the registry
has under it. -/
theorem IsBuiltBy.pattern_of_namesInNotation (hr : r.IsBuiltBy (before ++ call :: after))
    (hwrites : call.Writes typeName variant field written)
    (hnames : written.NamesInNotation name) (hhas : r.patterns.has name) :
    ∃ type pattern, r.fieldType? typeName variant field = some type ∧
      type.rule = .pattern name pattern ∧ r.patterns.get? name = some pattern := by
  obtain ⟨hcalls, config, d, number, hd, hbuild⟩ := hr
  obtain ⟨known, -, definition, hmem, rfl, type, hread, htype⟩ :=
    Declarations.exists_declared_of_declareAll hcalls hd hwrites
  obtain ⟨result, hresult, hresolves⟩ := exists_fieldType_of_build hbuild hmem htype
  obtain ⟨⟨-, hnotPattern, -⟩, ⟨-, hpatterns, -⟩, -⟩ := Declarations.build_eq_ok.mp hbuild
  have hrule := hresolves.rule
  rw [hnames.rule_eq hread] at hrule
  generalize hresolved : result.rule = rule at hrule
  rw [hpatterns] at hhas ⊢
  cases hrule with
  -- No type has the name of a pattern.
  | type htypeName => exact absurd hhas (hnotPattern name htypeName)
  | @pattern _ pattern _ hpattern => exact ⟨result, pattern, hresult, hresolved, hpattern⟩
  | other hreference => exact absurd rfl hreference

/-- A structured field type that names a pattern keeps the one that is declared last up to its own
call. -/
theorem IsBuiltBy.pattern_of_namesInObject (hr : r.IsBuiltBy (before ++ call :: after))
    (hwrites : call.Writes typeName variant field written) (hnames : written.NamesInObject name) :
    ∃ type pattern, r.fieldType? typeName variant field = some type ∧
      type.rule = .pattern name pattern ∧
      lastPattern? (before ++ [call]) name = some pattern := by
  obtain ⟨hcalls, config, d, number, hd, hbuild⟩ := hr
  obtain ⟨known, hknown, definition, hmem, rfl, type, hread, htype⟩ :=
    Declarations.exists_declared_of_declareAll hcalls hd hwrites
  obtain ⟨result, hresult, hresolves⟩ := exists_fieldType_of_build hbuild hmem htype
  obtain ⟨pattern, hpattern, hrule⟩ := hnames.rule_eq hread
  refine ⟨result, pattern, hresult, ?_, hknown name ▸ hpattern⟩
  have hkept := hresolves.rule
  rw [hrule] at hkept
  generalize result.rule = rule at hkept
  cases hkept
  rfl

/-- A field that names a shared pattern in the notation takes what the pattern of the registry
matches. One that names it in a structured field type takes what the pattern matches that was
declared last up to its own call, which is the pattern of the registry exactly if no other one is
declared last in the calls that follow. -/
theorem pattern_of_reference (hr : r.IsBuiltBy calls) (hcalls : calls = before ++ call :: after)
    (hwrites : call.Writes typeName variant field written) :
    (written.NamesInNotation name → r.patterns.has name →
      ∃ type pattern, r.fieldType? typeName variant field = some type ∧
        type.rule = .pattern name pattern ∧ r.patterns.get? name = some pattern) ∧
    (written.NamesInObject name →
      ∃ type pattern, r.fieldType? typeName variant field = some type ∧
        type.rule = .pattern name pattern ∧
        lastPattern? (before ++ [call]) name = some pattern ∧
        (r.patterns.get? name = some pattern ↔
          ∀ other, lastPattern? after name = some other → other = pattern)) := by
  subst hcalls
  refine ⟨hr.pattern_of_namesInNotation hwrites, fun hnames => ?_⟩
  obtain ⟨type, pattern, htype, hrule, hpattern⟩ := hr.pattern_of_namesInObject hwrites hnames
  refine ⟨type, pattern, htype, hrule, hpattern, ?_⟩
  rw [hr.get?_patterns, ← List.singleton_append, ← List.append_assoc, lastPattern?_append, hpattern]
  cases lastPattern? after name <;> simp

end Registry

/-! ## Badges

A document declares what a code is, and badges with two codes, of which one names the pattern in a
structured field type and the other in the notation. Then codes are declared anew.
-/

namespace Badges

/-- Codes are numbers, and a badge has two of them. -/
def document : Json :=
  .object [
    ("patterns", .object [("Code", .string "[0-9]+")]),
    ("types", .object [("Badge", .object [("fields", .object [
      ("code", .object [("pattern", .string "Code")]),
      ("old", .string "Code")])])])]

/-- The document, and then the declaration that codes are words. -/
def calls : List BuilderCall :=
  [.document document, .pattern "Code" Teams.word]

/-- The document is the first call. -/
theorem calls_eq : calls = [] ++ .document document :: [.pattern "Code" Teams.word] := rfl

theorem exists_registry : ∃ r : Registry, r.IsBuiltBy calls := by
  have hbuild : ((Declarations.empty .standard).declareAll calls >>= (·.build 0)).isOk := by
    decide +kernel
  obtain ⟨r, hr⟩ := exists_ok_of_isOk hbuild
  obtain ⟨d, hd, hr⟩ := bind_eq_ok.mp hr
  refine ⟨r, ?_, .standard, d, 0, hd, hr⟩
  simp [calls, BuilderCall.IsWellFormed, document]

/-- The first code of a badge names the pattern in an object. -/
theorem writes_code : BuilderCall.Writes (.document document) "Badge" none "code"
    (.json (.object [("pattern", .string "Code")])) :=
  .documentRecord List.mem_cons_self List.mem_cons_self

/-- The other code names the pattern in the notation. -/
theorem writes_old :
    BuilderCall.Writes (.document document) "Badge" none "old" (.json (.string "Code")) :=
  .documentRecord List.mem_cons_self (List.mem_cons_of_mem _ List.mem_cons_self)

theorem namesInNotation_old : WrittenType.NamesInNotation "Code" (.json (.string "Code")) := by
  have hrule : (FieldType.parse "Code").map (·.rule) = .ok (.tagged "Code") := by decide +kernel
  obtain ⟨type, htype, hrule⟩ := map_eq_ok.mp hrule
  exact ⟨type, htype, hrule⟩

/-- The registry has the pattern that is declared anew. -/
theorem get?_patterns {r : Registry} (hr : r.IsBuiltBy calls) :
    r.patterns.get? "Code" = some Teams.word :=
  (hr.get?_patterns "Code").trans rfl

/-- With the document codes are numbers. -/
theorem source_of_lastPattern? {pattern : Pattern}
    (h : lastPattern? [.document document] "Code" = some pattern) : pattern.source = "[0-9]+" := by
  have hsource : (lastPattern? [.document document] "Code").map (·.source) = some "[0-9]+" := by
    decide +kernel
  rw [h] at hsource
  exact Option.some.inj hsource

end Badges

/-- The first code of a badge is a number still, and the other one is a word. -/
theorem Badges.code_keeps_pattern : ∃ r : Registry, r.IsBuiltBy Badges.calls ∧
    (∃ type pattern, r.fieldType? "Badge" none "code" = some type ∧
      type.rule = .pattern "Code" pattern ∧ pattern.source = "[0-9]+") ∧
    ∃ type pattern, r.fieldType? "Badge" none "old" = some type ∧
      type.rule = .pattern "Code" pattern ∧ pattern.source = "[a-z]+" := by
  obtain ⟨r, hr⟩ := exists_registry
  have hword := get?_patterns hr
  obtain ⟨type, pattern, htype, hrule, hpattern, -⟩ :=
    (Registry.pattern_of_reference hr calls_eq writes_code).2 rfl
  obtain ⟨other, shared, hother, hshared, hget⟩ :=
    (Registry.pattern_of_reference hr calls_eq writes_old).1 namesInNotation_old
      (by rw [Entries.has, hword]; rfl)
  obtain rfl := Option.some.inj (hword.symm.trans hget)
  exact ⟨r, hr, ⟨type, pattern, htype, hrule, source_of_lastPattern? hpattern⟩,
    other, Teams.word, hother, hshared, rfl⟩

/-- Not every field that names a shared pattern takes what the pattern of the registry matches. -/
theorem Badges.not_forall_pattern_of_reference :
    ¬ ∀ (r : Registry) (calls : List BuilderCall) (call : BuilderCall)
        (typeName field name : String) (variant : Option String) (written : WrittenType),
      r.IsBuiltBy calls → call ∈ calls →
      call.Writes typeName variant field written →
      written.NamesInNotation name ∨ written.NamesInObject name → r.patterns.has name →
      ∃ type pattern, r.fieldType? typeName variant field = some type ∧
        type.rule = .pattern name pattern ∧ r.patterns.get? name = some pattern := by
  intro h
  obtain ⟨r, hr⟩ := exists_registry
  have hword := get?_patterns hr
  obtain ⟨type, pattern, htype, hrule, hpattern⟩ :=
    Registry.IsBuiltBy.pattern_of_namesInObject (calls_eq ▸ hr) writes_code rfl
  obtain ⟨other, shared, hother, hshared, hget⟩ := h r calls _ "Badge" "code" "Code" none _ hr
    List.mem_cons_self writes_code (.inr rfl) (by rw [Entries.has, hword]; rfl)
  obtain rfl := Option.some.inj (htype.symm.trans hother)
  obtain ⟨-, rfl⟩ := Rule.pattern.inj (hrule.symm.trans hshared)
  obtain rfl := Option.some.inj (hword.symm.trans hget)
  exact absurd (source_of_lastPattern? hpattern) (by decide)

end RecordSchema
