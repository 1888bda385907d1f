import RecordSchema.Proofs.ResolvedTexts

/-!
# Declared names

What a name stands for is told twice: a text is read without regard to what is declared, and names
are looked up when a registry is built. An element name is read as a keyword first. So it stands for
what is declared under it exactly if it is no keyword, while the type of a keyed collection is
always a declared one (`Registry.rule_of_isText`). Nothing keeps types and patterns from having the
name of a keyword.
-/

namespace RecordSchema

open Outcome

/-! ## Names in texts -/

namespace Grammar

/-- What stands inside all array brackets. -/
def Nested.element : Nested → Core
  | .core inner => inner
  | .array _ element _ => element.element

/-- Arrays have the rule of what stands in them. -/
theorem Nested.rule_eq (nested : Nested) : nested.rule = nested.element.rule := by
  induction nested with
  | core inner => rfl
  | array before element behind ih => exact ih

end Grammar

namespace FieldType

variable {text name : String} {type : FieldType}

/-- The text is this name inside any number of array brackets, maybe with the mark of
optionality. -/
def HasElementName (text name : String) : Prop :=
  ∃ (expression : Grammar.Expression) (nested : Grammar.Nested) (identifier : Grammar.Identifier),
    expression.chars = text.toList ∧ expression.body = .nested nested ∧
      nested.element = .name identifier ∧ identifier.1 = name.toList

/-- The text is a collection, maybe with a key and the mark of optionality, of the type of this
name. -/
def HasKeyedName (text name : String) : Prop :=
  ∃ (expression : Grammar.Expression) (typeName : Grammar.PaddedName)
    (key : Option Grammar.PaddedName),
    expression.chars = text.toList ∧ expression.body = .keyed typeName key ∧ typeName.text = name

/-- An identifier by itself is an element name. -/
theorem hasElementName_self (h : Text.isIdentifier name) : HasElementName name name :=
  ⟨⟨Grammar.noBlanks, _, Grammar.noBlanks, none⟩, .core (.name _), ⟨name.toList, h⟩,
    by simp [Grammar.Expression.chars, Grammar.Body.chars, Grammar.Nested.chars,
      Grammar.Core.chars, Grammar.noBlanks, Grammar.markChars], rfl, rfl, rfl⟩

/-- An element name is read as the keyword that it is, or as the name of a type. -/
theorem HasElementName.rule_eq (h : HasElementName text name) (hparse : parse text = .ok type) :
    type.rule = (Grammar.keywordRule? name.toList).getD (.tagged name) := by
  obtain ⟨expression, nested, identifier, hchars, hbody, helement, hname⟩ := h
  obtain rfl := Except.ok.inj ((parse_eq_ok.mpr ⟨expression, hchars, rfl⟩).symm.trans hparse)
  calc expression.body.rule
    _ = nested.element.rule := by rw [hbody, Grammar.Body.rule, nested.rule_eq]
    _ = _ := by rw [helement, Grammar.Core.rule, hname, String.ofList_toList]

/-- The type of a keyed collection is read as it is named. -/
theorem HasKeyedName.exists_rule_eq (h : HasKeyedName text name)
    (hparse : parse text = .ok type) : ∃ key, type.rule = .keyed name key := by
  obtain ⟨expression, typeName, key, hchars, hbody, rfl⟩ := h
  obtain rfl := Except.ok.inj ((parse_eq_ok.mpr ⟨expression, hchars, rfl⟩).symm.trans hparse)
  exact ⟨_, congrArg Grammar.Body.rule hbody⟩

end FieldType

/-! ## What names stand for -/

namespace Registry

/-- What is declared under a name, as the rule of a field: a reference to the type, or the
constraint that the pattern is. -/
inductive Declares (r : Registry) : String → Rule → Prop
  | type {name : String} : (r.definition? name).isSome → Declares r name (.tagged name)
  | pattern {name : String} {pattern : Pattern} : r.patterns.get? name = some pattern →
      Declares r name (.pattern name pattern)

variable {r : Registry} {d : Declarations} {number : Nat} {name : String}

/-- The types that are declared are those of the registry. -/
theorem isSome_definition?_iff (h : d.build number = .ok r) :
    (r.definition? name).isSome ↔ name ∈ d.typeNames := by
  rw [← (Declarations.names_types_of_build h).1, ← Entries.has_iff, Entries.has, definition?,
    Option.isSome_map]

/-- A name is declared as one thing. -/
theorem Declares.unique (h : d.build number = .ok r) {rule other : Rule}
    (hrule : r.Declares name rule) (hother : r.Declares name other) : rule = other := by
  obtain ⟨⟨-, hnotPattern, -⟩, ⟨-, hpatterns, -⟩, -⟩ := Declarations.build_eq_ok.mp h
  have hapart : ∀ pattern, (r.definition? name).isSome → r.patterns.get? name ≠ some pattern := by
    intro pattern htype hpattern
    refine hnotPattern name ((isSome_definition?_iff h).mp htype) ?_
    rw [Entries.has, ← hpatterns, hpattern, Option.isSome_some]
  cases hrule with
  | type htype =>
      cases hother with
      | type => rfl
      | pattern hpattern => exact absurd hpattern (hapart _ htype)
  | pattern hpattern =>
      cases hother with
      | type htype => exact absurd hpattern (hapart _ htype)
      | pattern hsame =>
          obtain rfl := Option.some.inj (hpattern.symm.trans hsame)
          rfl

/-- A reference is resolved to what is declared under its name. -/
theorem declares_of_resolvesRule (h : d.build number = .ok r) {resolved : Rule}
    (hresolves : d.ResolvesRule (.tagged name) resolved) : r.Declares name resolved := by
  obtain ⟨-, ⟨-, hpatterns, -⟩, -⟩ := Declarations.build_eq_ok.mp h
  cases hresolves with
  | type htype => exact .type ((isSome_definition?_iff h).mpr htype)
  | pattern _ hpattern => exact .pattern (hpatterns ▸ hpattern)
  | other hreference => exact absurd rfl hreference

/-- An element name that is a keyword stands for the keyword, whatever is declared. -/
theorem rule_of_keyword {text : String} (hname : FieldType.HasElementName text name)
    {keyword : Rule} (hkeyword : Grammar.keywordRule? name.toList = some keyword)
    {declared resolved : FieldType} (hparse : FieldType.parse text = .ok declared)
    (hresolves : d.ResolvesType declared resolved) : resolved.rule = keyword := by
  have hrule := hresolves.rule
  rw [hname.rule_eq hparse, hkeyword, Option.getD_some] at hrule
  have hprimitive := (Grammar.keywordRule?_eq_some.mp hkeyword).1
  generalize resolved.rule = rule at hrule
  cases hrule with
  | other => rfl
  | _ => cases hprimitive

/-- A keyed collection is resolved to one of the type that is declared under the same name. -/
theorem declares_of_resolvesRule_keyed (h : d.build number = .ok r) {key : Option String}
    {resolved : Rule} (hresolves : d.ResolvesRule (.keyed name key) resolved) :
    (∃ key, resolved = .keyed name (some key)) ∧ r.Declares name (.tagged name) := by
  cases hresolves with
  | keyed htarget =>
      exact ⟨⟨_, rfl⟩, .type ((isSome_definition?_iff h).mpr (List.mem_map_of_mem htarget))⟩
  | other hreference => exact absurd rfl hreference

variable {calls : List BuilderCall} {call : BuilderCall} {typeName field text : String}
  {variant : Option String} {written : WrittenType}

/-- A type that a field is written for is declared. -/
theorem IsBuiltBy.declares_of_writes (hr : r.IsBuiltBy calls) (hcall : call ∈ calls)
    (hwrites : call.Writes typeName variant field written) :
    r.Declares typeName (.tagged typeName) := by
  obtain ⟨hcalls, config, d, number, hd, hbuild⟩ := hr
  obtain ⟨before, after, rfl⟩ := List.append_of_mem hcall
  obtain ⟨-, -, definition, hmem, rfl, -⟩ :=
    Declarations.exists_declared_of_declareAll hcalls hd hwrites
  exact .type ((isSome_definition?_iff hbuild).mpr (List.mem_map_of_mem hmem))

/-- In a field that is written in the notation, an element name stands for what is declared under
it, or else for the keyword that it is. The type of a keyed collection is declared under its name,
so that an element of this name is a reference to it, unless it is a keyword. -/
theorem rule_of_isText (hr : r.IsBuiltBy calls) (hcall : call ∈ calls)
    (hwrites : call.Writes typeName variant field written) (htext : written.IsText text)
    (name : String) :
    ∃ type, r.fieldType? typeName variant field = some type ∧
      (FieldType.HasElementName text name →
        (Grammar.keywordRule? name.toList = none → r.Declares name type.rule) ∧
        ∀ rule, r.Declares name rule →
          type.rule = (Grammar.keywordRule? name.toList).getD rule) ∧
      (FieldType.HasKeyedName text name →
        ∃ key, type.rule = .keyed name (some key) ∧ r.Declares name (.tagged name)) := by
  obtain ⟨d, number, declared, type, hbuild, hparse, htype, hresolves⟩ :=
    hr.exists_resolvesType hcall hwrites htext
  have hrule := hresolves.rule
  refine ⟨type, htype, fun hname => ?_, fun hname => ?_⟩
  · cases hkeyword : Grammar.keywordRule? name.toList with
    | none =>
        rw [hname.rule_eq hparse, hkeyword, Option.getD_none] at hrule
        have hdeclares := declares_of_resolvesRule hbuild hrule
        exact ⟨fun _ => hdeclares, fun rule hother => hdeclares.unique hbuild hother⟩
    | some keyword =>
        exact ⟨nofun, fun _ _ => rule_of_keyword hname hkeyword hparse hresolves⟩
  · obtain ⟨key, hkeyed⟩ := hname.exists_rule_eq hparse
    rw [hkeyed] at hrule
    obtain ⟨⟨key, hresolved⟩, hdeclares⟩ := declares_of_resolvesRule_keyed hbuild hrule
    exact ⟨key, hresolved, hdeclares⟩

end Registry

/-! ## Calendars

A type has the name of the keyword for dates. Events take place on such a day, in rooms, and have a
code, which is a pattern.
-/

namespace Calendars

/-- The fields of an event. -/
def eventFields : List (String × FieldExpression) :=
  [("on", .text "Date"), ("rooms", .text " [ [Room]] ?"), ("code", .text "Code"),
    ("others", .text "{Date: year}")]

/-- Days, rooms and events, one after the other. -/
def calls : List BuilderCall :=
  [.pattern "Code" Teams.word,
    .record "Date" [("year", .text "Number")],
    .record "Room" [("number", .text "Number")],
    .record "Event" eventFields]

theorem exists_registry : ∃ r : Registry, r.IsBuiltBy calls := by
  have hbuild : ((Declarations.empty .standard).declareAll calls >>= (·.build 0)).isOk := by
    decide +kernel
  obtain ⟨r, hr⟩ := exists_ok_of_isOk hbuild
  obtain ⟨d, hd, hr⟩ := bind_eq_ok.mp hr
  refine ⟨r, ?_, .standard, d, 0, hd, hr⟩
  simp [calls, BuilderCall.IsWellFormed]

/-- Events are declared last. -/
theorem mem_calls : .record "Event" eventFields ∈ calls :=
  List.mem_of_getElem? (i := 3) rfl

theorem writes_event {field : String} {expression : FieldExpression}
    (h : (field, expression) ∈ eventFields) :
    BuilderCall.Writes (.record "Event" eventFields) "Event" none field (.expression expression) :=
  .record h

/-- There is a type of the name of the keyword. -/
theorem declares_date {r : Registry} (hr : r.IsBuiltBy calls) :
    r.Declares "Date" (.tagged "Date") :=
  hr.declares_of_writes (List.mem_of_getElem? (i := 1) rfl) (.record List.mem_cons_self)

/-- There can be two arrays around the name of the type. -/
theorem hasElementName_rooms : FieldType.HasElementName " [ [Room]] ?" "Room" :=
  ⟨⟨⟨[' '], rfl⟩, _, ⟨[' '], rfl⟩, some Grammar.noBlanks⟩,
    .array ⟨[' '], rfl⟩ (.array Grammar.noBlanks (.core (.name _)) Grammar.noBlanks)
      Grammar.noBlanks,
    ⟨"Room".toList, by decide⟩, rfl, rfl, rfl, rfl⟩

theorem hasKeyedName_others : FieldType.HasKeyedName "{Date: year}" "Date" :=
  ⟨⟨Grammar.noBlanks, _, Grammar.noBlanks, none⟩, .ofText "Date" (by decide),
    some ⟨⟨[' '], rfl⟩, ⟨"year".toList, by decide⟩, Grammar.noBlanks⟩, rfl, rfl, rfl⟩

end Calendars

/-- Rooms and codes are what is declared under their names. A day is a date, but a collection of
days is one of the type that has the name of the keyword. -/
theorem Calendars.rules_of_event : ∃ r : Registry, r.IsBuiltBy Calendars.calls ∧
    (∃ type, r.fieldType? "Event" none "rooms" = some type ∧ type.rule = .tagged "Room") ∧
    (∃ type, r.fieldType? "Event" none "code" = some type ∧
      type.rule = .pattern "Code" Teams.word) ∧
    (∃ type, r.fieldType? "Event" none "on" = some type ∧ type.rule = .date) ∧
    ∃ type key, r.fieldType? "Event" none "others" = some type ∧
      type.rule = .keyed "Date" (some key) ∧ r.Declares "Date" (.tagged "Date") := by
  obtain ⟨r, hr⟩ := exists_registry
  obtain ⟨rooms, hrooms, hroomsName, -⟩ := Registry.rule_of_isText hr mem_calls
    (writes_event (.tail _ (.head _))) (.text " [ [Room]] ?") "Room"
  obtain ⟨code, hcode, hcodeName, -⟩ := Registry.rule_of_isText hr mem_calls
    (writes_event (.tail _ (.tail _ (.head _)))) (.text "Code") "Code"
  obtain ⟨on, hon, honName, -⟩ := Registry.rule_of_isText hr mem_calls
    (writes_event (.head _)) (.text "Date") "Date"
  obtain ⟨others, hothers, -, hothersName⟩ := Registry.rule_of_isText hr mem_calls
    (writes_event (.tail _ (.tail _ (.tail _ (.head _))))) (.text "{Date: year}") "Date"
  have hroom : r.Declares "Room" (.tagged "Room") :=
    hr.declares_of_writes (List.mem_of_getElem? (i := 2) rfl) (.record List.mem_cons_self)
  have hword : r.Declares "Code" (.pattern "Code" Teams.word) :=
    .pattern ((hr.get?_patterns "Code").trans rfl)
  obtain ⟨key, hkey, hdate⟩ := hothersName hasKeyedName_others
  exact ⟨r, hr, ⟨rooms, hrooms, (hroomsName hasElementName_rooms).2 _ hroom⟩,
    ⟨code, hcode, (hcodeName (FieldType.hasElementName_self (by decide))).2 _ hword⟩,
    ⟨on, hon, (honName (FieldType.hasElementName_self (by decide))).2 _ (declares_date hr)⟩,
    others, key, hothers, hkey, hdate⟩

/-- Not every element name under which something is declared stands for it. -/
theorem Calendars.not_forall_rule_of_isText :
    ¬ ∀ (r : Registry) (calls : List BuilderCall) (call : BuilderCall)
        (typeName field text name : String) (variant : Option String) (written : WrittenType)
        (rule : Rule),
      r.IsBuiltBy calls → call ∈ calls → call.Writes typeName variant field written →
      written.IsText text → FieldType.HasElementName text name → r.Declares name rule →
      ∃ type, r.fieldType? typeName variant field = some type ∧ type.rule = rule := by
  intro h
  obtain ⟨r, hr⟩ := exists_registry
  have hname : FieldType.HasElementName "Date" "Date" :=
    FieldType.hasElementName_self (by decide)
  obtain ⟨type, htype, hrule⟩ := h r _ _ "Event" "on" "Date" "Date" none _ (.tagged "Date") hr
    mem_calls (writes_event (.head _)) (.text "Date") hname (declares_date hr)
  obtain ⟨d, number, declared, resolved, -, hparse, hresolved, hresolves⟩ :=
    hr.exists_resolvesType mem_calls (writes_event (.head _)) (.text "Date")
  obtain rfl := Option.some.inj (hresolved.symm.trans htype)
  cases (Registry.rule_of_keyword hname rfl hparse hresolves).symm.trans hrule

end RecordSchema
