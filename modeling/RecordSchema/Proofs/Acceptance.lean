import RecordSchema.Coercion
import RecordSchema.Proofs.Built
import RecordSchema.Proofs.Parts

/-!
# Accepted values

`Registry.Accepts` says which values a rule takes inside a number of arrays, and what their normal
form is. It leaves out the path and the rejections: `coerceValue_eq_ok` shows that coercion gives a
result exactly when a value is accepted, and that the result is then the normal form, wherever the
value stands.
-/

namespace RecordSchema

open Outcome

namespace Registry

/-- The variant that a shape of this type names; none for the shape of a record. -/
def shapeVariant? (r : Registry) (d : TypeDefinition) (members : Entries Value) :
    Option (Option String) :=
  match d.shape with
  | .record _ => some none
  | .union _ =>
      match members.get? r.config.codec.variantKey with
      | some (.string variant) => some (some variant)
      | _ => none

/-- The members of a shape in which fields are looked up: all but the variant of a union. -/
def fieldMembers (r : Registry) (d : TypeDefinition) (members : Entries Value) : Entries Value :=
  if d.isUnion then members.erase r.config.codec.variantKey else members

mutual

/-- `r.Accepts rule depth value normal` says that the rule takes the value inside `depth` arrays,
and that `normal` is the value with instances in place of the shapes that stand for them. -/
inductive Accepts (r : Registry) : Rule → Nat → Value → Value → Prop where
  | any (value) : Accepts r .any 0 value value
  | string (s) : Accepts r .string 0 (.string s) (.string s)
  | number (x) : Accepts r .number 0 (.number x) (.number x)
  | boolean (b) : Accepts r .boolean 0 (.bool b) (.bool b)
  | date (i) : Accepts r .date 0 (.date i) (.date i)
  | object (members) : Accepts r .object 0 (.object members) (.object members)
  | objectInstance (tag variant fields) :
      Accepts r .object 0 (.tagged tag variant fields) (.tagged tag variant fields)
  | pattern {rule pattern s} : rule.pattern? = some pattern → pattern.isFullMatch s →
      Accepts r rule 0 (.string s) (.string s)
  | owned {typeName d variant fields} : r.definition? typeName = some d →
      Accepts r (.tagged typeName) 0 (.tagged (r.tag typeName) variant fields)
        (.tagged (r.tag typeName) variant fields)
  | array {rule depth items normals} : items.length = normals.length →
      (∀ value normal, (value, normal) ∈ items.zip normals → Accepts r rule depth value normal) →
      Accepts r rule (depth + 1) (.array items) (.array normals)
  | shape {typeName d variant declared members} {fields : Entries Value} :
      r.definition? typeName = some d → r.shapeVariant? d members = some variant →
      d.fieldsOf? variant = some declared → fields.names.Sublist declared.names →
      (∀ field ∈ declared, AcceptsField r field.2 ((r.fieldMembers d members).get? field.1)
        (fields.get? field.1)) →
      Accepts r (.tagged typeName) 0 (.object members) (.tagged (r.tag typeName) variant fields)
  | keyed {typeName idField} {members normals : Entries Value} :
      members.names = normals.names →
      (∀ value normal, (value, normal) ∈ members.values.zip normals.values →
        Accepts r (.tagged typeName) 0 value normal) →
      (∀ member ∈ normals, member.2.instance?.bind (·.keyText? idField) = some member.1) →
      Accepts r (.keyed typeName (some idField)) 0 (.object members) (.object normals)

/-- The field takes its candidate, which may be absent, and the second value is its normal form. -/
inductive AcceptsField (r : Registry) : FieldType → Option Value → Option Value → Prop where
  | absent {type} : type.isOptional → AcceptsField r type none none
  | present {type value normal} : Accepts r type.rule type.depth value normal →
      AcceptsField r type (some value) (some normal)

end

/-- A field takes either nothing, if it is optional, or a value that its rule accepts. -/
theorem acceptsField_iff {r : Registry} {type : FieldType} {candidate result : Option Value} :
    r.AcceptsField type candidate result ↔
      (candidate = none ∧ result = none ∧ type.isOptional) ∨
        ∃ value normal, candidate = some value ∧ result = some normal ∧
          r.Accepts type.rule type.depth value normal := by
  constructor
  · intro h
    rcases h with h | h
    · exact .inl ⟨rfl, rfl, h⟩
    · exact .inr ⟨_, _, rfl, rfl, h⟩
  · intro h
    rcases h with ⟨rfl, rfl, h⟩ | ⟨value, normal, rfl, rfl, h⟩
    · exact .absent h
    · exact .present h

variable {r : Registry}

/-- Arrays are accepted item by item. -/
theorem accepts_array_iff {rule : Rule} {depth : Nat} {items : List Value} {normal : Value} :
    r.Accepts rule (depth + 1) (.array items) normal ↔
      ∃ normals, normal = .array normals ∧ List.Forall₂ (r.Accepts rule depth) items normals := by
  constructor
  · intro h
    cases h with
    | @array _ _ _ normals hlength hall =>
        exact ⟨normals, rfl, List.forall₂_iff_zip.mpr ⟨hlength, fun h => hall _ _ h⟩⟩
  · intro h
    obtain ⟨normals, rfl, h⟩ := h
    exact .array h.length_eq fun _ _ => (List.forall₂_iff_zip.mp h).2

/-- Keyed collections are accepted member by member, and every member is under its own key. -/
theorem accepts_keyed_iff {typeName idField : String} {members : Entries Value} {normal : Value} :
    r.Accepts (.keyed typeName (some idField)) 0 (.object members) normal ↔
      ∃ normals : Entries Value, normal = .object normals ∧
        List.Forall₂ (fun left right => left.1 = right.1 ∧
          r.Accepts (.tagged typeName) 0 left.2 right.2) members normals ∧
        ∀ member ∈ normals, member.2.instance?.bind (·.keyText? idField) = some member.1 := by
  simp only [Entries.forall₂_iff]
  constructor
  · intro h
    cases h with
    | @keyed _ _ _ normals hnames hall hkeys =>
        have hlength := congrArg List.length hnames
        rw [Entries.length_names, Entries.length_names] at hlength
        refine ⟨normals, rfl, ⟨hnames, List.forall₂_iff_zip.mpr ⟨?_, fun h => hall _ _ h⟩⟩, hkeys⟩
        rw [Entries.length_values, Entries.length_values, hlength]
  · intro h
    obtain ⟨normals, rfl, ⟨hnames, h⟩, hkeys⟩ := h
    exact .keyed hnames (fun _ _ => (List.forall₂_iff_zip.mp h).2) hkeys

/-! ## Coercion accepts -/

/-- Fields are looked up among the members of the shape. -/
theorem mem_of_mem_fieldMembers {d : TypeDefinition} {members : Entries Value}
    {member : String × Value} (h : member ∈ r.fieldMembers d members) : member ∈ members := by
  rw [fieldMembers] at h
  split at h
  · exact Entries.mem_of_mem_erase h
  · exact h

theorem candidates_eq_mapValues (members : Entries Value) :
    r.candidates members = members.mapValues fun value ↦ ⟨value, r.coerceValue value⟩ := by
  induction members with
  | nil => rfl
  | cons member members ih =>
      rw [candidates, ih]
      rfl

/-- Rules that do not look into a value accept it as it is. -/
theorem accepts_of_isAccepted {rule : Rule} {value : Value}
    (h : Coercion.isAccepted rule value) : r.Accepts rule 0 value value := by
  cases rule <;> cases value <;> cases h <;> constructor

/-- What a check without a look at parts lets through is accepted as it is. -/
theorem accepts_of_atom {value normal : Value} {rule : Rule} {depth : Nat} {path : Path}
    (h : Coercion.atom r value rule depth path = .ok normal) :
    r.Accepts rule depth value normal := by
  -- One case for each check, in their order: depth, instances, unresolved collections, patterns.
  unfold Coercion.atom at h
  split at h
  next => cases h
  next hdepth =>
      obtain rfl := not_not.mp hdepth
      split at h
      next typeName =>
          split at h
          next => cases h
          next d i hd hi =>
              split at h
              next howns =>
                  cases h
                  cases value <;> cases hi
                  obtain rfl := of_decide_eq_true howns
                  exact .owned hd
              next => cases h
          next => cases h
      next => cases h
      next =>
          split at h
          next p s hp =>
              split at h
              next hmatch =>
                  cases h
                  exact .pattern hp hmatch
              next => cases h
          next =>
              split at h
              next haccepted =>
                  cases h
                  exact accepts_of_isAccepted haccepted
              next => cases h

/-- Fields are coerced in a walk over their declaration. -/
theorem fields_eq_collect (candidate : String → Option Coercer) (path : Path) (declared : Fields) :
    Coercion.fields candidate path declared =
      declared.collect fun name type ↦ Coercion.field type (candidate name) (path.field name) := by
  induction declared with
  | nil => rfl
  | cons field rest ih =>
      obtain ⟨name, type⟩ := field
      rw [Coercion.fields, ih, Entries.collect]
      exact congrArg _ (funext fun value => by cases value <;> rfl)

/-- Fields are coerced one by one: the result follows the order of declaration, and each field has
there what its own candidate gives. -/
theorem fields_eq_ok {candidate : String → Option Coercer} {path : Path} {declared : Fields}
    {present : Entries Value} (hdistinct : declared.names.Nodup) :
    Coercion.fields candidate path declared = .ok present ↔
      present.names.Sublist declared.names ∧ ∀ field ∈ declared,
        Coercion.field field.2 (candidate field.1) (path.field field.1) =
          .ok (present.get? field.1) := by
  rw [fields_eq_collect, Entries.collect_eq_ok hdistinct]

/-- A shape becomes an instance of the variant that it names, with its fields coerced. -/
theorem coerceShape_eq_ok {d : TypeDefinition} {members : Entries Value} {path : Path}
    {i : Instance} :
    r.coerceShape d members path = .ok i ↔
      ∃ declared, r.shapeVariant? d members = some i.variant ∧
        d.fieldsOf? i.variant = some declared ∧
        i.tag = r.tag d.name ∧
        Coercion.fields (fun name ↦ ((r.fieldMembers d members).get? name).map r.coerceValue) path
          declared = .ok i.fields := by
  obtain ⟨tag, variant, present⟩ := i
  obtain ⟨name, _ | variants, idField⟩ := d <;>
    simp only [coerceShape, Coercion.shape, candidates_eq_mapValues, shapeVariant?, fieldMembers,
      TypeDefinition.isUnion, TypeDefinition.variants?, Shape.variants?, Option.isSome,
      Entries.erase_mapValues, Entries.get?_mapValues, Option.map_map]
  · rw [bind_eq_ok]
    constructor
    · intro h
      obtain ⟨fields, hfields, h⟩ := h
      cases h
      exact ⟨_, rfl, rfl, rfl, hfields⟩
    · intro h
      obtain ⟨declared, hv, hdeclared, rfl, hfields⟩ := h
      cases hv
      cases hdeclared
      exact ⟨_, hfields, rfl⟩
  -- A union reads its variant first: it may be absent, not a string, or not declared.
  · cases hget : members.get? r.config.codec.variantKey with
    | none => simp
    | some named =>
        cases named with
        | string s =>
            cases hfields : variants.get? s with
            | none =>
                simp only [Option.map_some, Function.comp, hfields]
                constructor
                · intro h
                  cases h
                · intro h
                  obtain ⟨declared, hv, hdeclared, -⟩ := h
                  cases hv
                  cases hfields.symm.trans hdeclared
            | some declared =>
                simp only [Option.map_some, Function.comp, hfields]
                rw [bind_eq_ok]
                constructor
                · intro h
                  obtain ⟨fields, hcoerced, h⟩ := h
                  cases h
                  exact ⟨_, rfl, hfields, rfl, hcoerced⟩
                · intro h
                  obtain ⟨others, hv, hothers, rfl, hcoerced⟩ := h
                  cases hv
                  cases hfields.symm.trans hothers
                  exact ⟨_, hcoerced, rfl⟩
        | _ => simp

/-- A field is accepted when its candidate is, if coercion accepts that candidate's value. -/
theorem field_eq_ok {type : FieldType} {candidate result : Option Value} {path : Path}
    (h : ∀ value ∈ candidate, ∀ path normal,
      r.coerceValue value type.rule type.depth path = .ok normal ↔
        r.Accepts type.rule type.depth value normal) :
    Coercion.field type (candidate.map r.coerceValue) path = .ok result ↔
      r.AcceptsField type candidate result := by
  rw [acceptsField_iff]
  cases candidate with
  | none => cases hopt : type.isOptional <;> simp [Coercion.field, hopt, eq_comm]
  | some value =>
      simp only [Coercion.field, Option.map_some, map_eq_ok, h value rfl]
      constructor
      · intro h
        obtain ⟨normal, hnormal, rfl⟩ := h
        exact .inr ⟨value, normal, rfl, rfl, hnormal⟩
      · intro h
        rcases h with ⟨⟨⟩, -⟩ | ⟨_, normal, ⟨⟩, rfl, hnormal⟩
        exact ⟨normal, hnormal, rfl⟩

/-- The items of an array are accepted one by one. -/
theorem coerceItems_eq_ok {items normals : List Value} {rule : Rule} {depth index : Nat}
    {path : Path}
    (h : ∀ item ∈ items, ∀ path normal, r.coerceValue item rule depth path = .ok normal ↔
      r.Accepts rule depth item normal) :
    r.coerceItems items rule depth path index = .ok normals ↔
      List.Forall₂ (r.Accepts rule depth) items normals := by
  induction items generalizing normals index with
  | nil => cases normals <;> simp [coerceItems]
  | cons item items ih =>
      obtain ⟨hitem, hitems⟩ := List.forall_mem_cons.mp h
      rw [coerceItems, bind_eq_ok]
      constructor
      · intro h
        obtain ⟨first, hfirst, hrest⟩ := h
        obtain ⟨others, hothers, hrest⟩ := bind_eq_ok.mp hrest
        rw [← pure_eq_ok.mp hrest]
        exact .cons ((hitem _ _).mp hfirst) ((ih hitems).mp hothers)
      · intro hall
        cases hall with
        | cons hfirst hrest =>
            exact ⟨_, (hitem _ _).mpr hfirst,
              bind_eq_ok.mpr ⟨_, (ih hitems).mpr hrest, rfl⟩⟩

/-- A member passes the check of its key when it has the key that it is filed under. -/
theorem checkKey_eq_ok {idField key : String} {member : Value} {path : Path} :
    Coercion.checkKey idField key member path = .ok () ↔
      member.instance?.bind (·.keyText? idField) = some key := by
  rw [Coercion.checkKey]
  split <;> simp_all

/-- The members of a keyed collection are accepted one by one, each under its own key. -/
theorem coerceMembers_eq_ok {members normals : Entries Value} {typeName idField : String}
    {path : Path}
    (h : ∀ member ∈ members, ∀ path normal,
      r.coerceValue member.2 (.tagged typeName) 0 path = .ok normal ↔
        r.Accepts (.tagged typeName) 0 member.2 normal) :
    r.coerceMembers members typeName idField path = .ok normals ↔
      List.Forall₂ (fun left right => left.1 = right.1 ∧
        r.Accepts (.tagged typeName) 0 left.2 right.2) members normals ∧
      ∀ member ∈ normals, member.2.instance?.bind (·.keyText? idField) = some member.1 := by
  induction members generalizing normals with
  | nil => cases normals <;> simp [coerceMembers]
  | cons member members ih =>
      obtain ⟨key, value⟩ := member
      obtain ⟨hmember, hmembers⟩ := List.forall_mem_cons.mp h
      rw [coerceMembers, bind_eq_ok]
      constructor
      · intro h
        obtain ⟨first, hfirst, hrest⟩ := h
        obtain ⟨_, hkey, hrest⟩ := bind_eq_ok.mp hrest
        obtain ⟨others, hothers, hrest⟩ := bind_eq_ok.mp hrest
        obtain ⟨hall, hkeys⟩ := (ih hmembers).mp hothers
        rw [← pure_eq_ok.mp hrest]
        exact ⟨.cons ⟨rfl, (hmember _ _).mp hfirst⟩ hall,
          List.forall_mem_cons.mpr ⟨checkKey_eq_ok.mp hkey, hkeys⟩⟩
      · intro h
        obtain ⟨hall, hkeys⟩ := h
        cases hall with
        | @cons _ normal _ normals hfirst hrest =>
            obtain ⟨hkey, hkeys⟩ := List.forall_mem_cons.mp hkeys
            obtain ⟨rfl, hfirst⟩ := hfirst
            exact ⟨_, (hmember _ _).mpr hfirst, bind_eq_ok.mpr ⟨(), checkKey_eq_ok.mpr hkey,
              bind_eq_ok.mpr ⟨_, (ih hmembers).mpr ⟨hrest, hkeys⟩, rfl⟩⟩⟩

/-- A string under a rule with a pattern is accepted when the pattern matches all of it. -/
theorem atom_of_pattern {rule : Rule} {p : Pattern} {s : String} {path : Path}
    (hp : rule.pattern? = some p) (hmatch : p.isFullMatch s) :
    Coercion.atom r (.string s) rule 0 path = .ok (.string s) := by
  cases rule <;> cases hp <;> simp [Coercion.atom, Rule.pattern?, hmatch]

/-- An instance of a declared type is accepted where the type is expected. -/
theorem atom_of_owned {typeName : String} {d : TypeDefinition} {variant : Option String}
    {fields : Entries Value} {path : Path} (hd : r.definition? typeName = some d) :
    Coercion.atom r (.tagged (r.tag typeName) variant fields) (.tagged typeName) 0 path =
      .ok (.tagged (r.tag typeName) variant fields) := by
  simp [Coercion.atom, hd, Value.instance?, owns]

/-- A plain object is accepted where a type is expected when it is a shape of the type. -/
theorem coerceValue_shape_eq_ok (hr : r.Checked) {members : Entries Value} {typeName : String}
    {path : Path} {normal : Value}
    (h : ∀ member ∈ members, ∀ rule depth path normal,
      r.coerceValue member.2 rule depth path = .ok normal ↔ r.Accepts rule depth member.2 normal) :
    r.coerceValue (.object members) (.tagged typeName) 0 path = .ok normal ↔
      r.Accepts (.tagged typeName) 0 (.object members) normal := by
  have hfields : ∀ {d type name path result},
      Coercion.field type (((r.fieldMembers d members).get? name).map r.coerceValue) path =
          .ok result ↔
        r.AcceptsField type ((r.fieldMembers d members).get? name) result := by
    intro d type name path result
    refine field_eq_ok fun value hvalue => ?_
    exact fun path normal => h _ (mem_of_mem_fieldMembers (Entries.mem_of_get? hvalue)) _ _ _ _
  cases hd : r.definition? typeName with
  | none =>
      simp only [coerceValue, hd]
      constructor
      · intro h
        cases h
      · intro haccepts
        cases haccepts with
        | shape hd' => cases hd.symm.trans hd'
  | some d =>
      have hnames := hr.names hd
      have hname := hr.name_eq hd
      simp only [coerceValue, hd]
      constructor
      · intro hshape
        obtain ⟨i, hi, rfl⟩ := map_eq_ok.mp hshape
        obtain ⟨declared, hv, hdeclared, htag, hcoerced⟩ := coerceShape_eq_ok.mp hi
        obtain ⟨hsub, hcoerced⟩ := (fields_eq_ok (hnames.distinct hdeclared)).mp hcoerced
        rw [Value.ofInstance, htag, hname]
        exact .shape hd hv hdeclared hsub fun field hfield => hfields.mp (hcoerced field hfield)
      · intro haccepts
        cases haccepts with
        | @shape _ d' variant declared _ fields hd' hv hdeclared hsub haccepted =>
            cases hd.symm.trans hd'
            refine map_eq_ok.mpr ⟨⟨r.tag typeName, variant, fields⟩, ?_, rfl⟩
            refine coerceShape_eq_ok.mpr ⟨declared, hv, hdeclared, by rw [hname], ?_⟩
            refine (fields_eq_ok (hnames.distinct hdeclared)).mpr ⟨hsub, fun field hfield => ?_⟩
            exact hfields.mpr (haccepted field hfield)

/-- Coercion gives a result exactly for what the rule accepts, and the result is the normal form. -/
theorem coerceValue_eq_ok (hr : r.Checked) {value normal : Value} {rule : Rule} {depth : Nat}
    (path : Path) :
    r.coerceValue value rule depth path = .ok normal ↔ r.Accepts rule depth value normal := by
  induction value using Value.induction generalizing normal rule depth path with
  | null => exact ⟨accepts_of_atom, fun h => by cases h; rfl⟩
  | bool b => exact ⟨accepts_of_atom, fun h => by cases h <;> rfl⟩
  | number x => exact ⟨accepts_of_atom, fun h => by cases h <;> rfl⟩
  | date i => exact ⟨accepts_of_atom, fun h => by cases h <;> rfl⟩
  | string s =>
      refine ⟨accepts_of_atom, fun h => ?_⟩
      cases h with
      | any => rfl
      | string => rfl
      | pattern hp hmatch => exact atom_of_pattern hp hmatch
  | tagged tag variant fields =>
      refine ⟨accepts_of_atom, fun h => ?_⟩
      cases h with
      | any => rfl
      | objectInstance => rfl
      | owned hd => exact atom_of_owned hd
  | array items ih =>
      cases depth with
      | zero => exact ⟨accepts_of_atom, fun h => by cases h; rfl⟩
      | succ depth =>
          rw [coerceValue, map_eq_ok, accepts_array_iff]
          refine exists_congr fun normals => ?_
          rw [coerceItems_eq_ok fun item hitem path _ => ih item hitem path, and_comm, eq_comm]
  | object members ih =>
      cases depth with
      | succ depth =>
          -- No object is an array, so the rule does not matter here.
          have hatom : r.coerceValue (.object members) rule (depth + 1) path =
              Coercion.atom r (.object members) rule (depth + 1) path := by
            cases rule with
            | keyed typeName idField => cases idField <;> rfl
            | _ => rfl
          exact ⟨fun h => accepts_of_atom (hatom.symm.trans h), fun h => nomatch h⟩
      | zero =>
          cases rule with
          | tagged typeName =>
              exact coerceValue_shape_eq_ok hr fun member hmember _ _ path _ =>
                ih member hmember path
          | keyed typeName idField =>
              cases idField with
              | none =>
                  exact ⟨accepts_of_atom, fun h => nomatch h⟩
              | some idField =>
                  rw [coerceValue, map_eq_ok, accepts_keyed_iff]
                  refine exists_congr fun normals => ?_
                  rw [coerceMembers_eq_ok fun member hmember path _ => ih member hmember path,
                    and_comm, eq_comm]
          | _ => exact ⟨accepts_of_atom, fun h => by cases h <;> rfl⟩

end Registry

end RecordSchema
