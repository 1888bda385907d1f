import RecordSchema.Proofs.Session

/-!
# Acceptable values and their normal forms

`Registry.Accepts` relates a value to its normal form. Here the two are taken apart:
`Registry.Acceptable` is the decision alone, the least relation that the rules ask for, and
`Registry.normalForm` is a function of every value, acceptable or not. Coercion decides the one and
computes the other (`coerce_eq_ok_iff`).
-/

namespace RecordSchema

open Outcome

/-- The declared fields for which something is given, in order of declaration. -/
def presentFields (declared : Fields) (given : Entries (FieldType → Value)) : Entries Value :=
  declared.filterMap fun field ↦ (given.get? field.1).map fun value ↦ (field.1, value field.2)

section PresentFields

variable {declared : Fields} {given : Entries (FieldType → Value)}

/-- Present fields follow the declaration. -/
theorem names_presentFields_sublist :
    (presentFields declared given).names.Sublist declared.names := by
  induction declared with
  | nil => exact .slnil
  | cons field rest ih =>
      rw [presentFields, List.filterMap_cons]
      cases given.get? field.1 with
      | none => exact ih.cons _
      | some value => exact ih.cons_cons _

/-- A declared field has what is given for it. -/
theorem get?_presentFields (hdistinct : declared.names.Nodup) {name : String} {type : FieldType}
    (h : (name, type) ∈ declared) :
    (presentFields declared given).get? name = (given.get? name).map (· type) := by
  induction declared with
  | nil => cases h
  | cons field rest ih =>
      rw [Entries.names_cons, List.nodup_cons] at hdistinct
      rw [presentFields, List.filterMap_cons]
      rcases List.mem_cons.mp h with rfl | hrest
      · cases hgiven : given.get? name with
        | none =>
            refine Entries.get?_eq_none_iff.mpr fun hmem => hdistinct.1 ?_
            exact names_presentFields_sublist.subset hmem
        | some value => simp [Entries.get?_cons]
      · have hne : field.1 ≠ name := fun heq =>
          hdistinct.1 (heq ▸ Entries.mem_names_of_mem hrest)
        cases given.get? field.1 with
        | none => exact ih hdistinct.2 hrest
        | some value =>
            rw [Option.map_some, Entries.get?_cons, if_neg hne]
            exact ih hdistinct.2 hrest

end PresentFields

namespace Registry

/-! ## Normal forms -/

/-- The instance that a shape of the type stands for, from the normal forms of its members. -/
def shapeInstance? (r : Registry) (typeName : String) (members : Entries Value)
    (normals : Entries (FieldType → Value)) : Option Value := do
  let d ← r.definition? typeName
  let variant ← r.shapeVariant? d members
  let declared ← d.fieldsOf? variant
  let given := if d.isUnion then normals.erase r.config.codec.variantKey else normals
  return .tagged (r.tag typeName) variant (presentFields declared given)

mutual

/-- The value with instances in place of the shapes that stand for them where the rule expects a
type or the members of a keyed collection. -/
def normalForm (r : Registry) : Value → Rule → Nat → Value
  | .array items, rule, depth + 1 => .array (normalItems r items rule depth)
  | .object members, .tagged typeName, 0 =>
      (shapeInstance? r typeName members (normalForms r members)).getD (.object members)
  | .object members, .keyed typeName (some _), 0 => .object (normalMembers r members typeName)
  | value, _, _ => value

/-- The normal forms of the items. -/
def normalItems (r : Registry) : List Value → Rule → Nat → List Value
  | [], _, _ => []
  | item :: items, rule, depth => normalForm r item rule depth :: normalItems r items rule depth

/-- The members with their normal forms as instances of a type. -/
def normalMembers (r : Registry) : List (String × Value) → String → List (String × Value)
  | [], _ => []
  | (key, member) :: members, typeName =>
      (key, normalForm r member (.tagged typeName) 0) :: normalMembers r members typeName

/-- The members with their normal forms for any type of field. -/
def normalForms (r : Registry) : List (String × Value) → Entries (FieldType → Value)
  | [] => []
  | (key, value) :: members =>
      (key, fun type ↦ normalForm r value type.rule type.depth) :: normalForms r members

end

variable {r : Registry}

theorem normalItems_eq_map (items : List Value) (rule : Rule) (depth : Nat) :
    r.normalItems items rule depth = items.map (r.normalForm · rule depth) := by
  induction items with
  | nil => rfl
  | cons item items ih => rw [normalItems, ih, List.map_cons]

theorem normalMembers_eq_mapValues (members : Entries Value) (typeName : String) :
    r.normalMembers members typeName =
      members.mapValues (r.normalForm · (.tagged typeName) 0) := by
  induction members with
  | nil => rfl
  | cons member members ih =>
      rw [normalMembers, ih]
      rfl

theorem normalForms_eq_mapValues (members : Entries Value) :
    r.normalForms members =
      members.mapValues fun value type ↦ r.normalForm value type.rule type.depth := by
  induction members with
  | nil => rfl
  | cons member members ih =>
      rw [normalForms, ih]
      rfl

/-- The normal form of an array has the normal forms of its items. -/
theorem normalForm_array (items : List Value) (rule : Rule) (depth : Nat) :
    r.normalForm (.array items) rule (depth + 1) =
      .array (items.map (r.normalForm · rule depth)) := by
  rw [normalForm, normalItems_eq_map]

/-- The normal form of a keyed collection has the normal forms of its members. -/
theorem normalForm_keyed (members : Entries Value) (typeName idField : String) :
    r.normalForm (.object members) (.keyed typeName (some idField)) 0 =
      .object (members.mapValues (r.normalForm · (.tagged typeName) 0)) := by
  rw [normalForm, normalMembers_eq_mapValues]

/-- The normal form of a shape is the instance with the normal forms of the members that are
declared as fields, in order of declaration. -/
theorem normalForm_shape {typeName : String} {d : TypeDefinition} {variant : Option String}
    {declared : Fields} {members : Entries Value} (hd : r.definition? typeName = some d)
    (hv : r.shapeVariant? d members = some variant)
    (hdeclared : d.fieldsOf? variant = some declared) :
    r.normalForm (.object members) (.tagged typeName) 0 =
      .tagged (r.tag typeName) variant (presentFields declared
        ((r.fieldMembers d members).mapValues fun value type ↦
          r.normalForm value type.rule type.depth)) := by
  rw [normalForm, normalForms_eq_mapValues, shapeInstance?, hd, Option.bind_eq_bind,
    Option.bind_some, hv, Option.bind_eq_bind, Option.bind_some, hdeclared, fieldMembers]
  cases d.isUnion with
  | false => rfl
  | true =>
      rw [if_pos rfl, if_pos rfl, Entries.erase_mapValues]
      rfl

/-! ## Acceptable values -/

/-- `r.Acceptable rule depth value` says that the rule takes the value inside `depth` arrays. -/
inductive Acceptable (r : Registry) : Rule → Nat → Value → Prop where
  | any (value) : Acceptable r .any 0 value
  | string (s) : Acceptable r .string 0 (.string s)
  | number (x) : Acceptable r .number 0 (.number x)
  | boolean (b) : Acceptable r .boolean 0 (.bool b)
  | date (i) : Acceptable r .date 0 (.date i)
  | object (members) : Acceptable r .object 0 (.object members)
  | objectInstance (tag variant fields) : Acceptable r .object 0 (.tagged tag variant fields)
  | pattern {rule pattern s} : rule.pattern? = some pattern → pattern.isFullMatch s →
      Acceptable r rule 0 (.string s)
  | array {rule depth items} : (∀ item ∈ items, Acceptable r rule depth item) →
      Acceptable r rule (depth + 1) (.array items)
  | owned {typeName d variant fields} : r.definition? typeName = some d →
      Acceptable r (.tagged typeName) 0 (.tagged (r.tag typeName) variant fields)
  | shape {typeName d variant declared members} : r.definition? typeName = some d →
      r.shapeVariant? d members = some variant → d.fieldsOf? variant = some declared →
      (∀ field ∈ declared, (r.fieldMembers d members).get? field.1 = none → field.2.isOptional) →
      (∀ field ∈ declared, ∀ value, (r.fieldMembers d members).get? field.1 = some value →
        Acceptable r field.2.rule field.2.depth value) →
      Acceptable r (.tagged typeName) 0 (.object members)
  | keyed {typeName idField} {members : Entries Value} :
      (∀ member ∈ members, Acceptable r (.tagged typeName) 0 member.2) →
      (∀ member ∈ members, (r.normalForm member.2 (.tagged typeName) 0).instance?.bind
        (·.keyText? idField) = some member.1) →
      Acceptable r (.keyed typeName (some idField)) 0 (.object members)

/-- An acceptable value is accepted, with its normal form. -/
theorem Acceptable.accepts (hr : r.Checked) {rule : Rule} {depth : Nat} {value : Value}
    (h : r.Acceptable rule depth value) :
    r.Accepts rule depth value (r.normalForm value rule depth) := by
  induction h with
  | any value =>
      cases value <;> exact .any _
  | string s => exact .string s
  | number x => exact .number x
  | boolean b => exact .boolean b
  | date i => exact .date i
  | object members => exact .object members
  | objectInstance tag variant fields => exact .objectInstance tag variant fields
  | pattern hp hmatch => exact .pattern hp hmatch
  | owned hd => exact .owned hd
  | array _ ih =>
      rw [normalForm_array]
      exact accepts_array_iff.mpr ⟨_, rfl, forall₂_map_right ih⟩
  | @shape typeName d variant declared members hd hv hdeclared hrequired _ ih =>
      rw [normalForm_shape hd hv hdeclared]
      refine .shape hd hv hdeclared names_presentFields_sublist fun field hfield => ?_
      rw [get?_presentFields ((hr.names hd).distinct hdeclared) hfield, Entries.get?_mapValues]
      cases hget : (r.fieldMembers d members).get? field.1 with
      | none => exact .absent (hrequired field hfield hget)
      | some value => exact .present (ih field hfield value hget)
  | @keyed typeName idField members _ hkeys ih =>
      rw [normalForm_keyed]
      refine accepts_keyed_iff.mpr ⟨_, rfl, forall₂_map_right fun member hmember => ⟨rfl, ?_⟩, ?_⟩
      · exact ih member hmember
      · intro normal hnormal
        obtain ⟨member, hmember, rfl⟩ := List.mem_map.mp hnormal
        exact hkeys member hmember

/-- What is accepted is acceptable. -/
theorem Accepts.acceptable (hr : r.Checked) {rule : Rule} {depth : Nat} {value normal : Value}
    (h : r.Accepts rule depth value normal) : r.Acceptable rule depth value := by
  -- `Accepts` is mutual with `AcceptsField`, so the induction is on the value.
  induction value using Value.induction generalizing rule depth normal with
  | array items ih =>
      cases depth with
      | zero =>
          cases h with
          | any => exact .any _
      | succ depth =>
          obtain ⟨normals, rfl, hall⟩ := accepts_array_iff.mp h
          refine .array fun item hitem => ?_
          obtain ⟨_, -, haccepts⟩ := exists_of_mem_left hall hitem
          exact ih item hitem haccepts
  | object members ih =>
      cases h with
      | any => exact .any _
      | object => exact .object _
      | @shape _ d _ declared _ fields hd hv hdeclared _ hfields =>
          refine .shape hd hv hdeclared (fun field hfield hnone => ?_)
            fun field hfield value hvalue => ?_
          · rcases acceptsField_iff.mp (hfields field hfield) with ⟨-, -, h⟩ | ⟨_, _, hsome, -⟩
            · exact h
            · cases hnone.symm.trans hsome
          · rcases acceptsField_iff.mp (hfields field hfield) with ⟨hnone, -⟩ | ⟨_, _, hsome, -, h⟩
            · cases hnone.symm.trans hvalue
            · cases hsome.symm.trans hvalue
              exact ih _ (mem_of_mem_fieldMembers (Entries.mem_of_get? hvalue)) h
      | @keyed typeName idField _ normals hnames hall hkeys =>
          obtain ⟨_, heq, hall, hkeys⟩ := accepts_keyed_iff.mp (.keyed hnames hall hkeys)
          cases heq
          have hmembers : ∀ member ∈ members, r.Acceptable (.tagged typeName) 0 member.2 := by
            intro member hmember
            obtain ⟨_, -, -, haccepts⟩ := exists_of_mem_left hall hmember
            exact ih member hmember haccepts
          refine .keyed hmembers fun member hmember => ?_
          -- Keys are compared with those of the normal forms, which are the only ones to accept.
          obtain ⟨normal, hnormal, hkey, haccepts⟩ := exists_of_mem_left hall hmember
          rw [hkey, ← haccepts.unique hr ((hmembers member hmember).accepts hr)]
          exact hkeys normal hnormal
  | tagged tag variant fields =>
      cases h with
      | any => exact .any _
      | objectInstance => exact .objectInstance _ _ _
      | owned hd => exact .owned hd
  | string s =>
      cases h with
      | any => exact .any _
      | string => exact .string _
      | pattern hp hmatch => exact .pattern hp hmatch
  | _ => cases h <;> constructor

/-- Accepting a value is finding it acceptable and giving its normal form. -/
theorem accepts_iff (hr : r.Checked) {rule : Rule} {depth : Nat} {value normal : Value} :
    r.Accepts rule depth value normal ↔
      r.Acceptable rule depth value ∧ normal = r.normalForm value rule depth := by
  constructor
  · intro h
    have hacceptable := h.acceptable hr
    exact ⟨hacceptable, h.unique hr (hacceptable.accepts hr)⟩
  · intro h
    obtain ⟨hacceptable, rfl⟩ := h
    exact hacceptable.accepts hr

/-- A built registry takes for a field nothing, if the field is optional, or an acceptable value,
wherever the field stands; and what it gives is the normal form. -/
theorem coerce_eq_ok_iff (hr : r.IsBuiltWithCodecs) {type : FieldType} {value result : Option Value}
    (path : Path) :
    r.coerce type value path = .ok result ↔
      (value = none ∧ type.isOptional ∨
        ∃ present, value = some present ∧ r.Acceptable type.rule type.depth present) ∧
      result = value.map (r.normalForm · type.rule type.depth) := by
  have hchecked := hr.checked
  rw [coerce, field_eq_ok fun _ _ path _ => coerceValue_eq_ok hchecked path, acceptsField_iff]
  simp only [accepts_iff hchecked]
  constructor
  · intro h
    rcases h with ⟨rfl, rfl, hoptional⟩ | ⟨present, normal, rfl, rfl, hacceptable, rfl⟩
    · exact ⟨.inl ⟨rfl, hoptional⟩, rfl⟩
    · exact ⟨.inr ⟨present, rfl, hacceptable⟩, rfl⟩
  · intro h
    obtain ⟨⟨rfl, hoptional⟩ | ⟨present, rfl, hacceptable⟩, rfl⟩ := h
    · exact .inl ⟨rfl, rfl, hoptional⟩
    · exact .inr ⟨present, _, rfl, rfl, hacceptable, rfl⟩

end Registry

/-! ## Events as shapes -/

namespace Boards

/-- A list of events, which may be absent. -/
def eventsType : FieldType :=
  ⟨.tagged "Event", true, 1, none⟩

/-- The shape of the event that the task `c` was opened, with a member that is no field. -/
def openedShape : Value :=
  .object [("task", .object [("id", .string "c")]), ("more", .null), ("@tag", .string "Opened")]

/-- A list of a shape and an instance is coerced into one of instances. -/
theorem coerce_events :
    registry.coerce eventsType (some (.array [openedShape, .ofInstance (opened dueTask)])) [] =
      .ok (some (.array [.ofInstance (opened (task "c")), .ofInstance (opened dueTask)])) :=
  rfl

end Boards

/-- A list of events may hold shapes, and its normal form has instances in their places. -/
theorem Boards.acceptable_events : Boards.registry.IsBuiltWithCodecs ∧
    Boards.registry.Acceptable (.tagged "Event") 1
      (.array [Boards.openedShape, .ofInstance (Boards.opened Boards.dueTask)]) ∧
    Boards.registry.normalForm
        (.array [Boards.openedShape, .ofInstance (Boards.opened Boards.dueTask)])
        (.tagged "Event") 1 =
      .array [.ofInstance (Boards.opened (Boards.task "c")),
        .ofInstance (Boards.opened Boards.dueTask)] := by
  have hr := isBuilt_registry.isBuiltWithCodecs
  obtain ⟨⟨hnone, -⟩ | ⟨_, hpresent, hacceptable⟩, hnormal⟩ :=
    (Registry.coerce_eq_ok_iff hr []).mp coerce_events
  · cases hnone
  · cases hpresent
    exact ⟨hr, hacceptable, (Option.some.inj hnormal).symm⟩

end RecordSchema
