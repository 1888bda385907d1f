import RecordSchema.Proofs.Acceptance

/-!
# Valid values

`Registry.Meets` says that a value meets a rule inside a number of arrays, all the way down, and
`Registry.IsInstance` that an instance is valid for a type. A value is sound when every instance
inside it is valid, wherever it stands. Coercion makes valid values of sound ones
(`Accepts.meets`), and valid values are their own normal forms (`Meets.accepts`).
-/

namespace RecordSchema

open Outcome

namespace Registry

/-- `r.Meets rule depth value` says that the value meets the rule inside `depth` arrays. Where a
type is expected there is an instance of it, whose present fields follow the declaration; a keyed
collection has instances under their own keys. -/
inductive Meets (r : Registry) : Rule → Nat → Value → Prop where
  | any (value) : Meets r .any 0 value
  | string (s) : Meets r .string 0 (.string s)
  | number (x) : Meets r .number 0 (.number x)
  | boolean (b) : Meets r .boolean 0 (.bool b)
  | date (i) : Meets r .date 0 (.date i)
  | object (members) : Meets r .object 0 (.object members)
  | objectInstance (tag variant fields) : Meets r .object 0 (.tagged tag variant fields)
  | pattern {rule pattern s} : rule.pattern? = some pattern → pattern.isFullMatch s →
      Meets r rule 0 (.string s)
  | array {rule depth items} : (∀ item ∈ items, Meets r rule depth item) →
      Meets r rule (depth + 1) (.array items)
  | tagged {typeName d variant declared} {fields : Entries Value} :
      r.definition? typeName = some d → d.fieldsOf? variant = some declared →
      fields.names.Sublist declared.names →
      (∀ field ∈ declared, fields.get? field.1 = none → field.2.isOptional) →
      (∀ field ∈ declared, ∀ value, fields.get? field.1 = some value →
        Meets r field.2.rule field.2.depth value) →
      Meets r (.tagged typeName) 0 (.tagged (r.tag typeName) variant fields)
  | keyed {typeName idField} {members : Entries Value} :
      (∀ member ∈ members, Meets r (.tagged typeName) 0 member.2) →
      (∀ member ∈ members, member.2.instance?.bind (·.keyText? idField) = some member.1) →
      Meets r (.keyed typeName (some idField)) 0 (.object members)

/-- The instance is a valid instance of the type of this name. -/
def IsInstance (r : Registry) (typeName : String) (i : Instance) : Prop :=
  r.Meets (.tagged typeName) 0 (.ofInstance i)

variable {r : Registry} {rule : Rule} {depth : Nat} {value normal : Value} {typeName : String}

/-- An instance has the tag of the type that it is valid for. -/
theorem IsInstance.tag_eq {i : Instance} (h : r.IsInstance typeName i) :
    i.tag = r.tag typeName := by
  obtain ⟨tag, variant, fields⟩ := i
  cases h
  rfl

/-- Only instances meet the rule of a type. -/
theorem Meets.isInstance (h : r.Meets (.tagged typeName) 0 value) :
    ∃ i : Instance, value = .ofInstance i ∧ r.IsInstance typeName i := by
  cases h with
  | pattern hp => cases hp
  | @tagged _ _ variant _ fields hd hdeclared hsub hrequired hfields =>
      exact ⟨⟨_, variant, fields⟩, rfl, .tagged hd hdeclared hsub hrequired hfields⟩

/-- What meets a rule is accepted as it is. -/
theorem Meets.accepts (h : r.Meets rule depth value) : r.Accepts rule depth value value := by
  induction value using Value.induction generalizing rule depth with
  | array items ih =>
      cases h with
      | any => exact .any _
      | array hitems =>
          refine accepts_array_iff.mpr ⟨items, rfl, List.forall₂_same.mpr ?_⟩
          exact fun item hmem => ih item hmem (hitems item hmem)
  | object members ih =>
      cases h with
      | any => exact .any _
      | object => exact .object _
      | keyed hmembers hkeys =>
          refine accepts_keyed_iff.mpr ⟨members, rfl, List.forall₂_same.mpr ?_, hkeys⟩
          exact fun member hmem => ⟨rfl, ih member hmem (hmembers member hmem)⟩
  | tagged tag variant fields =>
      cases h with
      | any => exact .any _
      | objectInstance => exact .objectInstance _ _ _
      | tagged hd => exact .owned hd
  | string s =>
      cases h with
      | any => exact .any _
      | string => exact .string _
      | pattern hp hmatch => exact .pattern hp hmatch
  | _ => cases h <;> constructor

/-- There is one normal form. -/
theorem Accepts.unique (hr : r.Checked) {other : Value} (h : r.Accepts rule depth value normal)
    (hother : r.Accepts rule depth value other) : normal = other :=
  Except.ok.inj (((coerceValue_eq_ok hr []).mpr h).symm.trans
    ((coerceValue_eq_ok hr []).mpr hother))

end Registry

namespace Value

/-- An object has each key once, and an instance is valid for a type of one of the registries. -/
def IsSoundHere (registries : List Registry) : Value → Prop
  | .object members => (Entries.names members).Nodup
  | .tagged tag variant fields =>
      ∃ r ∈ registries, ∃ typeName, r.IsInstance typeName ⟨tag, variant, fields⟩
  | _ => True

/-- Every object inside the value has each key once, and every instance inside it is valid for a
type of one of the registries. -/
def Sound (registries : List Registry) : Value → Prop :=
  Everywhere (IsSoundHere registries)

end Value

namespace Registry

variable {r : Registry} {rule : Rule} {depth : Nat} {value normal : Value}
  {registries : List Registry}

/-- An instance that carries the tag of a type is valid for this type, if it is valid for any type
and the registries have different numbers. -/
theorem isInstance_of_sound
    (hnumbers : ∀ other ∈ registries, other.number = r.number → other = r) {typeName : String}
    {variant : Option String} {fields : Entries Value}
    (h : (Value.tagged (r.tag typeName) variant fields).Sound registries) :
    r.IsInstance typeName ⟨r.tag typeName, variant, fields⟩ := by
  obtain ⟨other, hother, name, hvalid⟩ := h.here
  have htag := hvalid.tag_eq
  obtain rfl := hnumbers other hother (congrArg TypeTag.registry htag).symm
  obtain rfl : typeName = name := congrArg TypeTag.typeName htag
  exact hvalid

/-- Fields are valid if each is the normal form of a candidate and the normal forms of the
candidates are valid. -/
theorem valid_of_acceptsField {declared : Fields} {fields : Entries Value}
    {candidate : String → Option Value}
    (hparts : ∀ name, ∀ value ∈ candidate name, ∀ {rule depth normal},
      r.Accepts rule depth value normal → r.Meets rule depth normal ∧ normal.Sound registries)
    (hfields : ∀ field ∈ declared,
      r.AcceptsField field.2 (candidate field.1) (fields.get? field.1)) :
    ∀ field ∈ declared, (fields.get? field.1 = none → field.2.isOptional) ∧
      ∀ normal, fields.get? field.1 = some normal →
        r.Meets field.2.rule field.2.depth normal ∧ normal.Sound registries := by
  intro field hfield
  rcases acceptsField_iff.mp (hfields field hfield) with
    ⟨-, hnone, hoptional⟩ | ⟨value, normal, hvalue, hnormal, haccepts⟩
  · exact ⟨fun _ => hoptional, fun normal hnormal => nomatch hnone.symm.trans hnormal⟩
  · refine ⟨fun hnone => (nomatch hnone.symm.trans hnormal), fun other hother => ?_⟩
    cases hnormal.symm.trans hother
    exact hparts _ value hvalue haccepts

/-- An instance is valid and sound if its present fields follow the declaration, and are valid and
sound as what is declared. -/
theorem meets_of_fields (hr : r.Checked) (hmem : r ∈ registries) {typeName : String}
    {d : TypeDefinition} {variant : Option String} {declared : Fields} {fields : Entries Value}
    (hd : r.definition? typeName = some d) (hdeclared : d.fieldsOf? variant = some declared)
    (hsub : fields.names.Sublist declared.names)
    (hfields : ∀ field ∈ declared, (fields.get? field.1 = none → field.2.isOptional) ∧
      ∀ normal, fields.get? field.1 = some normal →
        r.Meets field.2.rule field.2.depth normal ∧ normal.Sound registries) :
    r.Meets (.tagged typeName) 0 (.tagged (r.tag typeName) variant fields) ∧
      (Value.tagged (r.tag typeName) variant fields).Sound registries := by
  have hvalid : r.Meets (.tagged typeName) 0 (.tagged (r.tag typeName) variant fields) :=
    .tagged hd hdeclared hsub (fun field hfield => (hfields field hfield).1)
      fun field hfield normal hnormal => ((hfields field hfield).2 normal hnormal).1
  refine ⟨hvalid, Value.everywhere_tagged.mpr ⟨⟨r, hmem, typeName, hvalid⟩, fun field hfield => ?_⟩⟩
  obtain ⟨type, htype, hget⟩ :=
    Entries.exists_of_mem_of_sublist ((hr.names hd).distinct hdeclared) hsub hfield
  exact ((hfields _ htype).2 _ hget).2

/-- The normal form of a sound value meets the rule that accepts it, and is sound. -/
theorem Accepts.meets (hr : r.Checked) (hmem : r ∈ registries)
    (hnumbers : ∀ other ∈ registries, other.number = r.number → other = r)
    (hsound : value.Sound registries) (h : r.Accepts rule depth value normal) :
    r.Meets rule depth normal ∧ normal.Sound registries := by
  -- The induction is on the value: a shape has its members in another order than its fields.
  induction value using Value.induction generalizing rule depth normal with
  | array items ih =>
      cases depth with
      | zero =>
          cases h with
          | any => exact ⟨.any _, hsound⟩
      | succ depth =>
          obtain ⟨normals, rfl, hall⟩ := accepts_array_iff.mp h
          have hitems : ∀ normal ∈ normals,
              r.Meets rule depth normal ∧ normal.Sound registries := by
            intro normal hnormal
            obtain ⟨item, hitem, haccepts⟩ := exists_of_mem_right hall hnormal
            exact ih item hitem ((Value.everywhere_array.mp hsound).2 item hitem) haccepts
          exact ⟨.array fun item hitem => (hitems item hitem).1,
            Value.everywhere_array.mpr ⟨trivial, fun item hitem => (hitems item hitem).2⟩⟩
  | object members ih =>
      obtain ⟨hdistinct, hparts⟩ := Value.everywhere_object.mp hsound
      cases h with
      | any => exact ⟨.any _, hsound⟩
      | object => exact ⟨.object _, hsound⟩
      | @shape _ d _ _ _ _ hd _ hdeclared hsub hfields =>
          have hcandidates : ∀ name, ∀ value ∈ (r.fieldMembers d members).get? name,
              ∀ {rule depth normal}, r.Accepts rule depth value normal →
              r.Meets rule depth normal ∧ normal.Sound registries := by
            intro name value hvalue rule depth normal
            have hmember := mem_of_mem_fieldMembers (Entries.mem_of_get? hvalue)
            exact ih _ hmember (hparts _ hmember)
          exact meets_of_fields hr hmem hd hdeclared hsub
            (valid_of_acceptsField hcandidates hfields)
      | @keyed typeName _ _ normals hnames hall hkeys =>
          obtain ⟨_, heq, hall, hkeys⟩ := accepts_keyed_iff.mp (.keyed hnames hall hkeys)
          cases heq
          have hmembers : ∀ member ∈ normals,
              r.Meets (.tagged typeName) 0 member.2 ∧ member.2.Sound registries := by
            intro member hmember
            obtain ⟨original, horiginal, -, haccepts⟩ := exists_of_mem_right hall hmember
            exact ih original horiginal (hparts original horiginal) haccepts
          have hdistinct' : normals.names.Nodup := hnames ▸ hdistinct
          refine ⟨.keyed (fun member hmember => (hmembers member hmember).1) hkeys, ?_⟩
          exact Value.everywhere_object.mpr
            ⟨hdistinct', fun member hmember => (hmembers member hmember).2⟩
  | tagged tag variant fields =>
      cases h with
      | any => exact ⟨.any _, hsound⟩
      | objectInstance => exact ⟨.objectInstance _ _ _, hsound⟩
      -- An instance is not looked into again, so it is valid because it was valid before.
      | owned hd => exact ⟨isInstance_of_sound hnumbers hsound, hsound⟩
  | string s =>
      cases h with
      | any => exact ⟨.any _, hsound⟩
      | string => exact ⟨.string _, hsound⟩
      | pattern hp hmatch => exact ⟨.pattern hp hmatch, hsound⟩
  | _ => cases h <;> exact ⟨by constructor, hsound⟩

end Registry

end RecordSchema
