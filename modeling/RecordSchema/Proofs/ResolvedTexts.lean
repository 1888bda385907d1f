import RecordSchema.Proofs.Canonical
import RecordSchema.Proofs.SharedPatterns

/-!
# Texts of resolved field types

A registry shows its field types by their canonical texts. Such a text is read as a field type again
if an expression of the grammar stands for what it is the text of (`FieldType.isReadBack_iff`). A
field type that is written in the notation keeps to the grammar when it is resolved, but for one
thing: a keyed collection without a key takes the identity field that its type declares, and that
can be any name that is not blank. So the text is read back exactly if this name is an identifier
(`Registry.isReadBack_of_isText`).
-/

namespace RecordSchema

open Outcome

/-! ## Field types that are read back -/

namespace FieldType

variable {type other : FieldType}

/-- The canonical text is read as a field type that takes the same values. -/
def IsReadBack (type : FieldType) : Prop :=
  ∃ again, parse type.text = .ok again ∧ again.agrees type

theorem agrees_iff :
    type.agrees other ↔
      type.rule = other.rule ∧ type.isOptional = other.isOptional ∧ type.depth = other.depth := by
  simp [agrees, and_assoc]

/-- Field types that agree have the same canonical text. -/
theorem text_eq_of_agrees (h : type.agrees other) : type.text = other.text := by
  obtain ⟨hrule, hoptional, hdepth⟩ := agrees_iff.mp h
  rw [text, chars, hrule, hoptional, hdepth, text, chars]

/-- The field types that are read from a text are those that an expression with this text stands
for. -/
theorem parse_eq_ok {text : String} :
    parse text = .ok type ↔
      ∃ expression : Grammar.Expression,
        expression.chars = text.toList ∧ expression.type = type := by
  rw [parse, mapError_eq_ok, parseChars_eq_ok]

/-- A field type is read back exactly if an expression stands for one that takes the same values. -/
theorem isReadBack_iff :
    type.IsReadBack ↔ ∃ expression : Grammar.Expression, expression.type.agrees type := by
  constructor
  · rintro ⟨again, hparse, hagrees⟩
    obtain ⟨expression, -, rfl⟩ := parse_eq_ok.mp hparse
    exact ⟨expression, hagrees⟩
  · rintro ⟨expression, hagrees⟩
    -- The same expression without its blanks spells the canonical text.
    refine ⟨expression.bare.type, parse_eq_ok.mpr ⟨expression.bare, ?_, rfl⟩, ?_⟩
    · rw [expression.chars_bare, ← text_eq_of_agrees hagrees, text, String.toList_ofList]
    · rw [expression.type_bare]
      exact hagrees

end FieldType

namespace Grammar

/-- No nested core is a keyed collection. -/
theorem Nested.rule_ne_keyed (nested : Nested) (typeName : String) (key : Option String) :
    nested.rule ≠ .keyed typeName key := by
  induction nested with
  | core inner =>
      cases inner with
      | keyword word =>
          intro h
          have hprimitive := word.2
          rw [show word.1 = .keyed typeName key from h] at hprimitive
          cases hprimitive
      | name identifier =>
          rw [Nested.rule, Core.rule]
          cases hkeyword : keywordRule? identifier.1 with
          | none => rintro ⟨⟩
          | some rule =>
              rintro rfl
              cases (keywordRule?_eq_some.mp hkeyword).1
      | pattern literal => rintro ⟨⟩
  | array before element behind ih => exact ih

/-- What stands for a keyed collection is written as one. -/
theorem Body.exists_keyed {body : Body} {typeName : String} {key : Option String}
    (h : body.rule = .keyed typeName key) :
    ∃ name padded, body = .keyed name padded ∧ name.text = typeName ∧
      padded.map (·.text) = key := by
  cases body with
  | keyed name padded =>
      obtain ⟨hname, hkey⟩ := Rule.keyed.inj h
      exact ⟨name, padded, rfl, hname, hkey⟩
  | nested inner => exact absurd h (inner.rule_ne_keyed typeName key)

/-- The text between the blanks is an identifier. -/
theorem PaddedName.isIdentifier_text (padded : PaddedName) : Text.isIdentifier padded.text := by
  rw [Text.isIdentifier, text, String.toList_ofList]
  exact padded.name.2

/-- An identifier, written without blanks around it. -/
def PaddedName.ofText (name : String) (h : Text.isIdentifier name) : PaddedName :=
  ⟨noBlanks, ⟨name.toList, h⟩, noBlanks⟩

@[simp] theorem PaddedName.text_ofText (name : String) (h : Text.isIdentifier name) :
    (ofText name h).text = name :=
  String.ofList_toList

end Grammar

/-- A keyed collection that is read back has an identifier for its key. -/
theorem FieldType.IsReadBack.isIdentifier {type : FieldType} (h : type.IsReadBack)
    {typeName key : String} (hrule : type.rule = .keyed typeName (some key)) :
    Text.isIdentifier key := by
  obtain ⟨expression, hagrees⟩ := isReadBack_iff.mp h
  obtain ⟨-, padded, -, -, hkey⟩ :=
    Grammar.Body.exists_keyed ((agrees_iff.mp hagrees).1.trans hrule)
  obtain ⟨padded, -, rfl⟩ := Option.map_eq_some_iff.mp hkey
  exact padded.isIdentifier_text

/-- A keyed collection that is written, but with this key, is read back exactly if the key is an
identifier. -/
theorem FieldType.isReadBack_keyed_iff {expression : Grammar.Expression}
    {name : Grammar.PaddedName} {padded : Option Grammar.PaddedName}
    (hbody : expression.body = .keyed name padded) {type : FieldType} {typeName key : String}
    (hname : name.text = typeName) (hrule : type.rule = .keyed typeName (some key))
    (hoptional : type.isOptional = expression.type.isOptional)
    (hdepth : type.depth = expression.type.depth) :
    type.IsReadBack ↔ Text.isIdentifier key := by
  refine ⟨fun h => h.isIdentifier hrule, fun hkey => isReadBack_iff.mpr ?_⟩
  have hzero : expression.type.depth = 0 := congrArg Grammar.Body.depth hbody
  refine ⟨{ expression with body := .keyed name (some (.ofText key hkey)) },
    agrees_iff.mpr ⟨?_, hoptional.symm, (hdepth.trans hzero).symm⟩⟩
  rw [hrule, ← hname]
  exact congrArg (Rule.keyed name.text) (congrArg some (Grammar.PaddedName.text_ofText key hkey))

/-! ## Resolved field types -/

/-- The key of a written keyed collection is an identifier if it is not the identity field that the
type declares. -/
theorem TypeDefinition.isIdentifier_keyField (d : TypeDefinition)
    {padded : Option Grammar.PaddedName}
    (h : d.idField ≠ some (d.keyField (padded.map (·.text)))) :
    Text.isIdentifier (d.keyField (padded.map (·.text))) := by
  cases padded with
  | some padded => exact padded.isIdentifier_text
  | none =>
      cases hidField : d.idField with
      | none =>
          rw [keyField, hidField]
          decide
      | some key =>
          rw [keyField, hidField] at h
          exact absurd rfl h

namespace WrittenType

/-- The type is written as this text in the notation, or was read from it before. -/
inductive IsText : String → WrittenType → Prop
  | given {text : String} {type : FieldType} : FieldType.parse text = .ok type →
      IsText text (.given type)
  | text (text : String) : IsText text (.expression (.text text))
  | json (text : String) : IsText text (.json (.string text))

/-- What is written as a text is read from this text, whatever patterns are known. -/
theorem IsText.parse_eq {written : WrittenType} {text : String} (h : written.IsText text)
    {known : PatternLibrary} {type : FieldType} (hread : written.read known = .ok type) :
    FieldType.parse text = .ok type := by
  cases h with
  | given hparse =>
      cases hread
      exact hparse
  | text => exact hread
  | json => exact hread

end WrittenType

namespace Registry

variable {r : Registry} {calls : List BuilderCall} {call : BuilderCall}
  {typeName field text : String} {variant : Option String} {written : WrittenType}

/-- A field that is written as a text has the type that is read from the text, resolved against what
all calls declare. -/
theorem IsBuiltBy.exists_resolvesType (hr : r.IsBuiltBy calls) (hcall : call ∈ calls)
    (hwrites : call.Writes typeName variant field written) (htext : written.IsText text) :
    ∃ d number declared resolved, Declarations.build d number = .ok r ∧
      FieldType.parse text = .ok declared ∧
      r.fieldType? typeName variant field = some resolved ∧ d.ResolvesType declared resolved := by
  obtain ⟨hcalls, config, d, number, hd, hbuild⟩ := hr
  obtain ⟨before, after, rfl⟩ := List.append_of_mem hcall
  obtain ⟨known, -, definition, hmem, rfl, declared, hread, hdeclared⟩ :=
    Declarations.exists_declared_of_declareAll hcalls hd hwrites
  obtain ⟨resolved, hresolved, hresolves⟩ := exists_fieldType_of_build hbuild hmem hdeclared
  exact ⟨d, number, declared, resolved, hbuild, htext.parse_eq hread, hresolved, hresolves⟩

/-- The field type is a collection that is keyed by the identity field which its type declares. -/
def KeyedByIdentity (r : Registry) (type : FieldType) (key : String) : Prop :=
  ∃ target d, type.rule = .keyed target (some key) ∧ r.definition? target = some d ∧
    d.idField = some key

/-- A field type that is not keyed with a key is not keyed by an identity field. -/
theorem not_keyedByIdentity {type : FieldType} (h : type.rule.idField? = none) (key : String) :
    ¬ r.KeyedByIdentity type key := by
  rintro ⟨target, d, hrule, -, -⟩
  rw [hrule] at h
  cases h

/-- A field that is written in the notation and is not resolved to a named pattern has a canonical
text that is read back, unless it is keyed by an identity field that its type declares and that is
no identifier. -/
theorem isReadBack_of_isText (hr : r.IsBuiltBy calls) (hcall : call ∈ calls)
    (hwrites : call.Writes typeName variant field written) (htext : written.IsText text) :
    ∃ type, r.fieldType? typeName variant field = some type ∧
      (type.rule.patternName? = none →
        (type.IsReadBack ↔ ∀ key, r.KeyedByIdentity type key → Text.isIdentifier key)) := by
  obtain ⟨d, number, declared, type, hbuild, hparse, htype, hrule, hoptional, hdepth, -⟩ :=
    hr.exists_resolvesType hcall hwrites htext
  obtain ⟨expression, -, rfl⟩ := FieldType.parse_eq_ok.mp hparse
  refine ⟨type, htype, fun hpattern => ?_⟩
  -- Where the rule stays as it was read, so does the expression.
  have hkept : type.rule = expression.type.rule → type.rule.idField? = none →
      (type.IsReadBack ↔ ∀ key, r.KeyedByIdentity type key → Text.isIdentifier key) := by
    intro hsame hunkeyed
    have hread : type.IsReadBack := FieldType.isReadBack_iff.mpr
      ⟨expression, FieldType.agrees_iff.mpr ⟨hsame.symm, hoptional.symm, hdepth.symm⟩⟩
    exact iff_of_true hread fun key h => absurd h (not_keyedByIdentity hunkeyed key)
  generalize hdeclared : expression.type.rule = declared at hrule hkept
  generalize hresolved : type.rule = resolved at hrule hkept hpattern
  cases hrule with
  | type => exact hkept rfl rfl
  | pattern => cases hpattern
  | other hreference =>
      refine hkept rfl ?_
      cases declared <;> first | rfl | exact absurd rfl hreference
  | @keyed target named htarget =>
      obtain ⟨name, padded, hbody, hname, hkey⟩ := Grammar.Body.exists_keyed hdeclared
      obtain ⟨definition, hdefinition, hsame⟩ :=
        Declarations.exists_definition?_of_build hbuild target htarget
      rw [FieldType.isReadBack_keyed_iff hbody hname hresolved hoptional hdepth]
      constructor
      · rintro hidentifier key ⟨_, _, hkeyed, -, -⟩
        obtain ⟨-, heq⟩ := Rule.keyed.inj (hresolved.symm.trans hkeyed)
        rwa [← Option.some.inj heq]
      · intro h
        subst hkey
        by_cases hidField : target.idField = some (target.keyField (padded.map (·.text)))
        · exact h _ ⟨_, _, hresolved, hdefinition, hsame.idField_eq.trans hidField⟩
        · exact target.isIdentifier_keyField hidField

end Registry

/-! ## Accounts

Accounts declare their identity field, and a ledger has a collection of them that does not say by
which field it is keyed.
-/

namespace Accounts

/-- Accounts, with an identity field of this name, and ledgers. -/
def document (key : String) : Json :=
  .object [("types", .object [
    ("Account", .object [
      ("fields", .object [(key, .string "String")]), ("id_field", .string key)]),
    ("Ledger", .object [("fields", .object [("accounts", .string "{Account}")])])])]

/-- The document is the only call. -/
def calls (key : String) : List BuilderCall :=
  [.document (document key)]

/-- What the calls come to. -/
def build (key : String) : Except TypeError Registry := do
  (← (Declarations.empty .standard).declareAll (calls key)).build 0

/-- The rule of the accounts of a ledger. -/
def accountsRule? (key : String) : Option Rule :=
  ((build key).toOption.bind (·.fieldType? "Ledger" none "accounts")).map (·.rule)

/-- The accounts of a ledger are written as a text. -/
theorem writes_accounts (key : String) :
    BuilderCall.Writes (.document (document key)) "Ledger" none "accounts"
      (.json (.string "{Account}")) :=
  .documentRecord (List.mem_cons_of_mem _ List.mem_cons_self) List.mem_cons_self

theorem isBuiltBy_of_build {key : String} {r : Registry} (h : build key = .ok r) :
    r.IsBuiltBy (calls key) := by
  obtain ⟨d, hd, hr⟩ := bind_eq_ok.mp h
  refine ⟨?_, .standard, d, 0, hd, hr⟩
  simp [calls, BuilderCall.IsWellFormed, document]

/-- Where there is a rule, there is a registry with this rule. -/
theorem exists_registry (key : String) (rule : Rule) (h : accountsRule? key = some rule) :
    ∃ r : Registry, r.IsBuiltBy (calls key) ∧
      ∃ type, r.fieldType? "Ledger" none "accounts" = some type ∧ type.rule = rule := by
  rw [accountsRule?] at h
  cases hbuild : build key with
  | error error =>
      rw [hbuild] at h
      cases h
  | ok r =>
      rw [hbuild] at h
      obtain ⟨type, htype, hrule⟩ := Option.map_eq_some_iff.mp h
      exact ⟨r, isBuiltBy_of_build hbuild, type, htype, hrule⟩

end Accounts

/-- Accounts that are keyed by their number are read back as the collection that they are. -/
theorem Accounts.isReadBack_number :
    ∃ (r : Registry) (type : FieldType), r.IsBuiltBy (Accounts.calls "number") ∧
      r.fieldType? "Ledger" none "accounts" = some type ∧
      type.rule = .keyed "Account" (some "number") ∧ type.IsReadBack := by
  obtain ⟨r, hr, type, htype, hrule⟩ :=
    exists_registry "number" (.keyed "Account" (some "number")) (by decide +kernel)
  obtain ⟨other, hother, hread⟩ := Registry.isReadBack_of_isText hr List.mem_cons_self
    (writes_accounts "number") (.json "{Account}")
  obtain rfl := Option.some.inj (htype.symm.trans hother)
  refine ⟨r, type, hr, htype, hrule, (hread (by rw [hrule]; rfl)).mpr ?_⟩
  rintro key ⟨target, d, hkeyed, -, -⟩
  cases hrule.symm.trans hkeyed
  decide

/-- Not every field that is written in the notation has a canonical text that is read back. -/
theorem Accounts.not_forall_isReadBack :
    ¬ ∀ (r : Registry) (calls : List BuilderCall) (call : BuilderCall)
        (typeName field text : String) (variant : Option String) (written : WrittenType)
        (type : FieldType),
      r.IsBuiltBy calls → call ∈ calls → call.Writes typeName variant field written →
      written.IsText text → r.fieldType? typeName variant field = some type →
      type.rule.patternName? = none → type.IsReadBack := by
  intro h
  obtain ⟨r, hr, type, htype, hrule⟩ :=
    exists_registry "account no" (.keyed "Account" (some "account no")) (by decide +kernel)
  have hread := h r _ _ "Ledger" "accounts" "{Account}" none _ type hr List.mem_cons_self
    (writes_accounts "account no") (.json _) htype (by rw [hrule]; rfl)
  exact absurd (hread.isIdentifier hrule) (by decide)

end RecordSchema
