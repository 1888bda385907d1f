import RecordSchema.Proofs.LoadOrder
import RecordSchema.Proofs.Parsed
import RecordSchema.Proofs.Parts

/-!
# Structured field types

`FieldType.Documented` says which objects are structured field types, and what they stand for: they
spell out a pattern, name a shared one, or hold a named one, and have no other members. The reader
looks up the members that it expects and does not notice others. `FieldType.essential` is the value
without what is not noticed: a value is read exactly if its essential part is documented, and as
what that part stands for (`FieldType.ofReference_exact`).
-/

namespace RecordSchema

open Outcome

namespace Entries

variable {α : Type}

/-- Among the entries of some names, what is found is found under these names only. -/
theorem get?_filter_names (kept : List String) (entries : Entries α) (name : String) :
    Entries.get? name (entries.filter (·.1 ∈ kept)) =
      if name ∈ kept then entries.get? name else none := by
  induction entries with
  | nil => simp
  | cons entry rest ih =>
      obtain ⟨key, value⟩ := entry
      rw [List.filter_cons, get?_cons]
      by_cases heq : key = name
      · by_cases hkept : name ∈ kept <;> simp [heq, hkept, get?_cons, ih]
      · by_cases hkept : key ∈ kept <;> simp [heq, hkept, get?_cons, ih]

end Entries

namespace Json

/-- A member holds something, or is left out and stands for a default. -/
def Optionally {α : Type} (wrap : α → Json) (default : α) (member? : Option Json) (a : α) : Prop :=
  member? = some (wrap a) ∨ member? = none ∧ a = default

/-- An object with the members of some names only. -/
def restrict (kept : List String) : Json → Json
  | .object members => .object (members.filter (·.1 ∈ kept))
  | value => value

/-- The value has no members of other names, if it is an object. -/
def HasOnly (kept : List String) (value : Json) : Prop :=
  ∀ members, value = .object members → Entries.names members ⊆ kept

variable {kept : List String} {members : Entries Json} {name : String} {value : Json}

/-- A value without members of other names loses none. -/
theorem restrict_of_hasOnly (h : value.HasOnly kept) : value.restrict kept = value := by
  cases value with
  | object members =>
      refine congrArg _ (List.filter_eq_self.mpr fun member hmember => ?_)
      exact decide_eq_true (h members rfl (Entries.mem_names_of_mem hmember))
  | _ => rfl

/-- A restricted value has no members of other names. -/
theorem hasOnly_restrict : (value.restrict kept).HasOnly kept := by
  intro members h name hname
  cases value with
  | object original =>
      obtain rfl := Json.object.inj h
      obtain ⟨part, hpart⟩ := Entries.exists_mem_of_mem_names hname
      exact of_decide_eq_true (List.mem_filter.mp hpart).2
  | _ => cases h

/-- A value has a text exactly if it is one. -/
theorem string?_eq_some {text : String} : value.string? = some text ↔ value = .string text := by
  cases value <;> simp [string?]

end Json

namespace FieldType

variable {patterns : PatternLibrary} {value : Json} {members : Entries Json} {type : FieldType}

/-! ## Documented shapes -/

/-- The structured field types, and what they stand for. Members that are not mentioned are not
there. -/
inductive Documented (patterns : PatternLibrary) : Json → FieldType → Prop where
  | regex {members : Entries Json} {source flags : String} {pattern : Pattern}
      (hnames : members.names ⊆ ["regex", "flags"])
      (hregex : members.get? "regex" = some (.string source))
      (hflags : Json.Optionally .string "" (members.get? "flags") flags)
      (hcompile : Pattern.compile source flags = .ok pattern) :
      Documented patterns (.object members) (ofPattern pattern)
  | shared {members : Entries Json} {name : String} {isOptional : Bool} {pattern : Pattern}
      (hnames : members.names ⊆ ["pattern", "optional"])
      (hpattern : members.get? "pattern" = some (.string name))
      (hoptional : Json.Optionally .bool false (members.get? "optional") isOptional)
      (hknown : patterns.get? name = some pattern) :
      Documented patterns (.object members) (ofNamedPattern name pattern isOptional)
  | inline {members inner : Entries Json} {name source : String} {isOptional : Bool}
      {pattern : Pattern}
      (hnames : members.names ⊆ ["pattern", "optional"])
      (hpattern : members.get? "pattern" = some (.object inner))
      (hoptional : Json.Optionally .bool false (members.get? "optional") isOptional)
      (hinner : inner.names ⊆ ["name", "regex"])
      (hname : inner.get? "name" = some (.string name))
      (hregex : inner.get? "regex" = some (.string source))
      (hcompile : Pattern.compile source "" = .ok pattern) :
      Documented patterns (.object members) (ofNamedPattern name pattern isOptional)

/-- The names of the members that are looked up in an object. -/
def lookedUp (members : Entries Json) : List String :=
  if members.has "regex" then ["regex", "flags", "pattern", "optional"]
  else ["pattern", "optional"]

/-- A member without what is not looked up in it. -/
def essentialMember (member : String × Json) : String × Json :=
  (member.1, if member.1 = "pattern" then member.2.restrict ["name", "regex"] else member.2)

/-- The members that are looked up, without what is not looked up in them. -/
def essentialMembers (members : Entries Json) : Entries Json :=
  (members.filter (·.1 ∈ lookedUp members)).map essentialMember

/-- A value without the members that its reader does not look up. -/
def essential : Json → Json
  | .object members => .object (essentialMembers members)
  | value => value

/-! ## What is read -/

theorem compilePattern_eq_ok {source flags : String} {pattern : Pattern} :
    compilePattern source flags = .ok pattern ↔ Pattern.compile source flags = .ok pattern :=
  mapError_eq_ok

/-- The pattern of an object is one that it names or one that it holds. -/
theorem namedPattern_eq_ok {member? : Option Json} {name : String} {pattern : Pattern} :
    namedPattern patterns member? = .ok (name, pattern) ↔
      member? = some (.string name) ∧ patterns.get? name = some pattern ∨
        ∃ inner source, member? = some (.object inner) ∧
          Entries.get? "name" inner = some (.string name) ∧
          Entries.get? "regex" inner = some (.string source) ∧
          Pattern.compile source "" = .ok pattern := by
  cases member? with
  | none => simp [namedPattern]
  | some value =>
      cases value with
      | string found =>
          rw [namedPattern_string_eq_ok]
          constructor
          · rintro ⟨rfl, hpattern⟩
            exact .inl ⟨rfl, hpattern⟩
          · simp +contextual
      | object inner =>
          rw [namedPattern]
          split
          next found source hname hsource =>
              simp only [Option.bind_eq_some_iff, Json.string?_eq_some] at hname hsource
              obtain ⟨_, hname, rfl⟩ := hname
              obtain ⟨_, hsource, rfl⟩ := hsource
              simp [-bind_pure_comp, bind_eq_ok, pure_eq_ok, compilePattern_eq_ok, hname, hsource,
                and_comm]
          next hnone =>
              have hsource : Entries.get? "name" inner = some (.string name) →
                  ∀ source, Entries.get? "regex" inner ≠ some (.string source) := by
                intro hname source hsource
                exact hnone name source (by rw [hname]; rfl) (by rw [hsource]; rfl)
              simp +contextual [hsource]
      | _ => simp [namedPattern]

/-- A pattern that is spelled out is read from its source and its flags. -/
theorem ofRegexMember_eq_ok {regex : Json} : ofRegexMember members regex = .ok type ↔
    ∃ source flags pattern, regex = .string source ∧
      Json.Optionally .string "" (members.get? "flags") flags ∧
      Pattern.compile source flags = .ok pattern ∧ ofPattern pattern = type := by
  cases regex with
  | string source =>
      rw [ofRegexMember, Json.string?, Option.elim_some]
      rcases hflags : members.get? "flags" with _ | value
      · simp [-bind_pure_comp, bind_eq_ok, pure_eq_ok, compilePattern_eq_ok, Json.Optionally]
      · cases value <;>
          simp [-bind_pure_comp, bind_eq_ok, pure_eq_ok, compilePattern_eq_ok, Json.Optionally]
  | _ => simp [ofRegexMember, Json.string?, bind_eq_ok]

/-- What the members of an object are read as. -/
theorem ofMembers_eq_ok : ofMembers patterns members = .ok type ↔
    (∃ regex, members.get? "regex" = some regex ∧ members.get? "pattern" = none ∧
      members.get? "optional" = none ∧ ofRegexMember members regex = .ok type) ∨
    (members.get? "regex" = none ∧ ∃ found isOptional,
      Json.Optionally .bool false (members.get? "optional") isOptional ∧
      namedPattern patterns (members.get? "pattern") = .ok found ∧
      ofNamedPattern found.1 found.2 isOptional = type) := by
  rw [ofMembers, Entries.has]
  cases hregex : members.get? "regex" with
  | none =>
      rcases hoptional : members.get? "optional" with _ | value
      · simp [-bind_pure_comp, bind_eq_ok, pure_eq_ok, Json.Optionally]
      · cases value <;> simp [-bind_pure_comp, bind_eq_ok, pure_eq_ok, Json.Optionally]
  | some regex =>
      rcases hoptional : members.get? "optional" with _ | value
      · cases members.get? "pattern" <;> simp [bind_eq_ok]
      · cases value <;> simp [bind_eq_ok]

/-- A value is read as the object that it is. -/
theorem ofReference_eq_ok : ofReference patterns value = .ok type ↔
    ∃ members, value = .object members ∧ ofMembers patterns members = .ok type := by
  rw [ofReference, mapError_eq_ok]
  cases value <;> simp [Json.members?]

/-! ## What is looked up -/

/-- Objects that spell out a pattern have the members of such an object looked up. -/
theorem lookedUp_of_regex {regex : Json} (h : members.get? "regex" = some regex) :
    lookedUp members = ["regex", "flags", "pattern", "optional"] := by
  rw [lookedUp, Entries.has, h, Option.isSome_some, if_pos rfl]

/-- A pattern is always looked up, and whether the field may be left out. -/
theorem subset_lookedUp : ["pattern", "optional"] ⊆ lookedUp members := by
  rw [lookedUp]
  split <;> simp

/-- Under each name that is looked up there is the essential part of the member. -/
theorem get?_essentialMembers (name : String) : (essentialMembers members).get? name =
    if name ∈ lookedUp members then (members.get? name).map fun part ↦
      (essentialMember (name, part)).2 else none := by
  have hmap : ∀ entries : Entries Json, Entries.get? name (entries.map essentialMember) =
      (entries.get? name).map fun part ↦ (essentialMember (name, part)).2 := by
    intro entries
    induction entries with
    | nil => rfl
    | cons entry rest ih =>
        obtain ⟨key, part⟩ := entry
        rw [List.map_cons, essentialMember, Entries.get?_cons, Entries.get?_cons, ih]
        split
        next heq => rw [heq, Option.map_some, essentialMember]
        next => rfl
  rw [essentialMembers, hmap, Entries.get?_filter_names]
  split <;> rfl

/-- What is not looked up in a pattern does not matter for it. -/
theorem namedPattern_restrict (member? : Option Json) :
    namedPattern patterns (member?.map (·.restrict ["name", "regex"])) =
      namedPattern patterns member? := by
  cases member? with
  | none => rfl
  | some value =>
      cases value with
      | object inner =>
          rw [Option.map_some, Json.restrict, namedPattern, Entries.get?_filter_names,
            Entries.get?_filter_names]
          rfl
      | _ => rfl

/-- Only members that are looked up are essential. -/
theorem names_essentialMembers_subset : (essentialMembers members).names ⊆ lookedUp members := by
  intro name hname
  obtain ⟨part, hpart⟩ := Entries.exists_mem_of_mem_names hname
  obtain ⟨member, hmember, heq⟩ := List.mem_map.mp hpart
  rw [← show member.1 = name from congrArg Prod.fst heq]
  exact of_decide_eq_true (List.mem_filter.mp hmember).2

theorem get?_essentialMembers_pattern : (essentialMembers members).get? "pattern" =
    (members.get? "pattern").map (·.restrict ["name", "regex"]) := by
  rw [get?_essentialMembers, if_pos (subset_lookedUp (by simp))]
  rfl

/-- Members that are looked up are essential as they are, apart from patterns. -/
theorem get?_essentialMembers_of_ne {name : String} (hname : name ∈ lookedUp members)
    (hne : name ≠ "pattern") : (essentialMembers members).get? name = members.get? name := by
  rw [get?_essentialMembers, if_pos hname]
  simp [essentialMember, hne]

theorem get?_essentialMembers_regex :
    (essentialMembers members).get? "regex" = members.get? "regex" := by
  cases h : members.get? "regex" with
  | none =>
      rw [get?_essentialMembers, h]
      split <;> rfl
  | some regex =>
      have hlooked : "regex" ∈ lookedUp members := by simp [lookedUp_of_regex h]
      rw [get?_essentialMembers_of_ne hlooked (by decide), h]

/-- What is not looked up in an object does not matter for what it is read as. -/
theorem ofMembers_essentialMembers_eq_ok :
    ofMembers patterns (essentialMembers members) = .ok type ↔
      ofMembers patterns members = .ok type := by
  have hoptional : (essentialMembers members).get? "optional" = members.get? "optional" :=
    get?_essentialMembers_of_ne (subset_lookedUp (by simp)) (by decide)
  rw [ofMembers_eq_ok, ofMembers_eq_ok, get?_essentialMembers_pattern, hoptional,
    get?_essentialMembers_regex, namedPattern_restrict, Option.map_eq_none_iff]
  refine or_congr_left (exists_congr fun regex => and_congr_right fun hregex => ?_)
  have hflags : (essentialMembers members).get? "flags" = members.get? "flags" :=
    get?_essentialMembers_of_ne (by simp [lookedUp_of_regex hregex]) (by decide)
  rw [ofRegexMember_eq_ok, ofRegexMember_eq_ok, hflags]

/-- An object that has only members that are looked up, and whose pattern has only such members
too, is essential. -/
theorem essentialMembers_eq_self (hnames : members.names ⊆ lookedUp members)
    (hpattern : ∀ part, ("pattern", part) ∈ members → part.restrict ["name", "regex"] = part) :
    essentialMembers members = members := by
  have hfilter : members.filter (·.1 ∈ lookedUp members) = members := by
    refine List.filter_eq_self.mpr fun member hmember => ?_
    exact decide_eq_true (hnames (Entries.mem_names_of_mem hmember))
  have hmember : ∀ member ∈ members, essentialMember member = member := by
    rintro ⟨name, part⟩ hmem
    rw [essentialMember]
    split
    next heq =>
        obtain rfl : name = "pattern" := heq
        rw [hpattern part hmem]
    next => rfl
  rw [essentialMembers, hfilter, List.map_congr_left hmember, List.map_id']

/-! ## Exactly the documented shapes -/

/-- A documented value has no other members than those that are looked up. -/
theorem Documented.essential_eq (hvalue : value.WellFormed)
    (h : Documented patterns value type) : essential value = value := by
  -- Only the object under `pattern` can have members that are not looked up.
  have hpattern : ∀ {members : Entries Json} {part : Json}, (Json.object members).WellFormed →
      members.names ⊆ ["pattern", "optional"] → members.get? "pattern" = some part →
      part.restrict ["name", "regex"] = part → essential (.object members) = .object members := by
    intro members part hmembers hnames hget hpart
    have hdistinct := (Json.wellFormed_object.mp hmembers).1
    have hlooked : members.names ⊆ lookedUp members := List.Subset.trans hnames subset_lookedUp
    refine congrArg _ (essentialMembers_eq_self hlooked fun other hother => ?_)
    cases hget.symm.trans (Entries.get?_of_mem hdistinct hother)
    exact hpart
  cases h with
  | regex hnames hregex =>
      refine congrArg _ (essentialMembers_eq_self ?_ fun part hpart => ?_)
      · rw [lookedUp_of_regex hregex]
        exact List.Subset.trans hnames (by simp)
      · exact absurd (hnames (Entries.mem_names_of_mem hpart)) (by decide)
  | shared hnames hget => exact hpattern hvalue hnames hget rfl
  | inline hnames hget _ hinner =>
      refine hpattern hvalue hnames hget (Json.restrict_of_hasOnly fun inner heq => ?_)
      exact Json.object.inj heq ▸ hinner

/-- A documented value is read as what it stands for. -/
theorem Documented.ofReference_eq (h : Documented patterns value type) :
    ofReference patterns value = .ok type := by
  have hregex : ∀ {members : Entries Json}, members.names ⊆ ["pattern", "optional"] →
      members.get? "regex" = none := fun hnames =>
    Entries.get?_eq_none_iff.mpr fun hmem => absurd (hnames hmem) (by decide)
  refine ofReference_eq_ok.mpr ?_
  cases h with
  | @regex members source flags pattern hnames hregex hflags hcompile =>
      have habsent : ∀ name ∉ ["regex", "flags"], members.get? name = none := fun name hname =>
        Entries.get?_eq_none_iff.mpr fun hmem => hname (hnames hmem)
      refine ⟨members, rfl, ofMembers_eq_ok.mpr (.inl ⟨_, hregex, ?_, ?_, ?_⟩)⟩
      · exact habsent "pattern" (by decide)
      · exact habsent "optional" (by decide)
      · exact ofRegexMember_eq_ok.mpr ⟨source, flags, pattern, rfl, hflags, hcompile, rfl⟩
  | @shared members name isOptional pattern hnames hpattern hoptional hknown =>
      refine ⟨members, rfl, ofMembers_eq_ok.mpr (.inr ⟨hregex hnames, (name, pattern), isOptional,
        hoptional, ?_, rfl⟩)⟩
      exact namedPattern_eq_ok.mpr (.inl ⟨hpattern, hknown⟩)
  | @inline members inner name source isOptional pattern hnames hpattern hoptional _ hname hsource
      hcompile =>
      refine ⟨members, rfl, ofMembers_eq_ok.mpr (.inr ⟨hregex hnames, (name, pattern), isOptional,
        hoptional, ?_, rfl⟩)⟩
      exact namedPattern_eq_ok.mpr (.inr ⟨inner, source, hpattern, hname, hsource, hcompile⟩)

/-- What is read is documented, apart from the members that are not looked up. -/
theorem Documented.of_ofReference (h : ofReference patterns value = .ok type) :
    Documented patterns (essential value) type := by
  obtain ⟨members, rfl, hread⟩ := ofReference_eq_ok.mp h
  rw [← ofMembers_essentialMembers_eq_ok, ofMembers_eq_ok] at hread
  have hnames : (essentialMembers members).names ⊆ lookedUp members := names_essentialMembers_subset
  rcases hread with ⟨regex, hregex, hpattern, hoptional, hread⟩ |
    ⟨hregex, ⟨name, pattern⟩, isOptional, hoptional, hread, rfl⟩
  · obtain ⟨source, flags, pattern, rfl, hflags, hcompile, rfl⟩ := ofRegexMember_eq_ok.mp hread
    refine .regex (fun name hname => ?_) hregex hflags hcompile
    have hlooked := hnames hname
    rw [lookedUp_of_regex (get?_essentialMembers_regex.symm.trans hregex)] at hlooked
    rw [Entries.get?_eq_none_iff] at hpattern hoptional
    have hne : name ≠ "pattern" := fun heq => hpattern (heq ▸ hname)
    have hne' : name ≠ "optional" := fun heq => hoptional (heq ▸ hname)
    simpa [hne, hne'] using hlooked
  · have hlooked : lookedUp members = ["pattern", "optional"] := by
      rw [lookedUp, Entries.has, ← get?_essentialMembers_regex, hregex]
      rfl
    rw [hlooked] at hnames
    rcases namedPattern_eq_ok.mp hread with ⟨hpattern, hknown⟩ |
      ⟨inner, source, hpattern, hname, hsource, hcompile⟩
    · exact .shared hnames hpattern hoptional hknown
    · refine .inline hnames hpattern hoptional ?_ hname hsource hcompile
      rw [get?_essentialMembers_pattern] at hpattern
      obtain ⟨part, -, hpart⟩ := Option.map_eq_some_iff.mp hpattern
      exact Json.hasOnly_restrict inner hpart

/-- A value is read exactly if it is documented apart from the members that are not looked up, and
as what the documented part stands for. So all documented shapes are read, and the values that are
read are documented exactly if they have no other members. An error tells the text of the value. -/
theorem ofReference_exact (hvalue : value.WellFormed) :
    (∀ type, ofReference patterns value = .ok type ↔ Documented patterns (essential value) type) ∧
      (∀ type, Documented patterns value type ↔
        ofReference patterns value = .ok type ∧ essential value = value) ∧
      ∀ e, ofReference patterns value = .error e → e.expression = value.compact := by
  have hread : ∀ type, ofReference patterns value = .ok type ↔
      Documented patterns (essential value) type := by
    intro type
    refine ⟨Documented.of_ofReference, fun h => ?_⟩
    obtain ⟨members, hmembers, hread⟩ := ofReference_eq_ok.mp h.ofReference_eq
    cases value with
    | object original =>
        obtain rfl := Json.object.inj hmembers
        exact ofReference_eq_ok.mpr ⟨original, rfl, ofMembers_essentialMembers_eq_ok.mp hread⟩
    | _ => cases hmembers
  refine ⟨hread, fun type => ⟨fun h => ⟨h.ofReference_eq, h.essential_eq hvalue⟩, ?_⟩, ?_⟩
  · rintro ⟨h, hessential⟩
    exact hessential ▸ (hread type).mp h
  · intro e he
    obtain ⟨fault, -, rfl⟩ := mapError_eq_error.mp he
    rfl

end FieldType

/-! ## Words

A word is written with a flag that nothing looks up: it is read, but as a word in small letters.
-/

namespace Words

open FieldType

/-- A pattern for words; whoever wrote it meant words in capital letters too. -/
def word : Json :=
  .object [("pattern", .object [("name", .string "Word"), ("regex", .string "[a-z]+"),
    ("flags", .string "i")])]

/-- What is looked up in it. -/
def smallWord : Json :=
  .object [("pattern", .object [("name", .string "Word"), ("regex", .string "[a-z]+")])]

theorem exists_compile : ∃ pattern, Pattern.compile "[a-z]+" "" = .ok pattern := by
  have hprogram : (Pattern.program? "[a-z]+" []).isSome := by decide +kernel
  obtain ⟨program, hprogram⟩ := Option.isSome_iff_exists.mp hprogram
  exact ⟨⟨"[a-z]+", "", program, hprogram⟩, Pattern.compile_eq_ok.mpr ⟨rfl, rfl, rfl⟩⟩

theorem wellFormed_word : word.WellFormed := by
  simp [word]

/-- The word is read; its flag is not. -/
theorem exists_ofReference_word :
    ∃ pattern, pattern.flags = "" ∧
      ofReference [] word = .ok (ofNamedPattern "Word" pattern false) := by
  obtain ⟨pattern, hpattern⟩ := exists_compile
  refine ⟨pattern, (Pattern.compile_eq_ok.mp hpattern).2.1, ofReference_eq_ok.mpr ⟨_, rfl, ?_⟩⟩
  refine ofMembers_eq_ok.mpr (.inr ⟨rfl, ("Word", pattern), false, .inr ⟨rfl, rfl⟩, ?_, rfl⟩)
  exact namedPattern_eq_ok.mpr (.inr ⟨_, _, rfl, rfl, rfl, hpattern⟩)

/-- A pattern that an object holds has no flags. -/
theorem not_documented_word : ¬ ∃ type, Documented [] word type := by
  rintro ⟨type, h⟩
  cases h with
  | regex hnames => exact absurd (hnames List.mem_cons_self) (by decide)
  | shared _ hpattern => cases hpattern
  | inline _ hpattern _ hinner =>
      cases hpattern
      exact absurd (@hinner "flags" (by simp)) (by decide)

/-- The word is read as what is looked up in it stands for. -/
theorem ofReference_word : word.WellFormed ∧ essential word = smallWord ∧
    (∃ pattern, pattern.flags = "" ∧
      Documented [] smallWord (ofNamedPattern "Word" pattern false)) ∧
    ¬ ∃ type, Documented [] word type := by
  have hessential : essential word = smallWord := rfl
  obtain ⟨pattern, hflags, hread⟩ := exists_ofReference_word
  exact ⟨wellFormed_word, hessential, ⟨pattern, hflags,
    hessential ▸ ((ofReference_exact wellFormed_word).1 _).mp hread⟩, not_documented_word⟩

/-- Some values are read that are not documented. -/
theorem not_forall_documented :
    ¬ ∀ (patterns : PatternLibrary) (value : Json), value.WellFormed →
      ((∃ type, ofReference patterns value = .ok type) ↔
        ∃ type, Documented patterns value type) := by
  intro h
  obtain ⟨pattern, -, hread⟩ := exists_ofReference_word
  exact not_documented_word ((h [] word wellFormed_word).mp ⟨_, hread⟩)

end Words

end RecordSchema
