import RecordSchema.Proofs.Readers

/-!
# Where rejections lie

`Registry.Rejects` lists what can be wrong with a value, and coercion rejects nothing else
(`rejects_of_coerceValue`). A rejection lies at the path of what was checked or below it, so that
the first step of its path is the field that failed. This holds of coercion
(`isBelow_of_coerceValue`) and of what is rejected while a JSON value is read (`isBelow_of_value`),
whatever codecs the types have.
-/

namespace RecordSchema

open Outcome

/-- The rejection is of something at the path or below it. -/
def Rejection.IsBelow (path : Path) (rejection : Rejection) : Prop :=
  path <+: rejection.path

namespace Rejection

variable {path : Path} {rejection : Rejection} {name key : String} {position : Nat}

theorem IsBelow.of_field (h : rejection.IsBelow (path.field name)) : rejection.IsBelow path :=
  (List.prefix_append _ _).trans h

theorem IsBelow.of_index (h : rejection.IsBelow (path.index position)) : rejection.IsBelow path :=
  (List.prefix_append _ _).trans h

theorem IsBelow.of_key (h : rejection.IsBelow (path.key key)) : rejection.IsBelow path :=
  (List.prefix_append _ _).trans h

/-- A rejection at the path of a field names this field first. -/
theorem IsBelow.firstField?_eq (h : rejection.IsBelow (Path.field [] name)) :
    rejection.path.firstField? = some name := by
  obtain ⟨rest, hpath⟩ := h
  rw [← hpath]
  rfl

end Rejection

/-- The rejection that the error reports, if it does, is of something at the path or below it. -/
def TypeError.IsBelow (path : Path) (error : TypeError) : Prop :=
  ∀ rejection, error.rejection? = some rejection → rejection.IsBelow path

/-! ## Rejections by coercion -/

namespace Registry

/-- The members do not name a variant of the type, which is a union. -/
inductive RejectsVariant (r : Registry) (d : TypeDefinition) (members : Entries Value)
    (path : Path) : Rejection → Prop where
  | missing {variants} : d.shape = .union variants →
      members.get? r.config.codec.variantKey = none →
      RejectsVariant r d members path
        (.missing (path.field r.config.codec.variantKey) (joinTexts " | " variants.names))
  | unknown {variants named} : d.shape = .union variants →
      members.get? r.config.codec.variantKey = some named →
      (∀ variant, named = .string variant → variants.get? variant = none) →
      RejectsVariant r d members path ⟨path.field r.config.codec.variantKey, .unknownVariant,
        joinTexts " | " variants.names, named.text⟩

/-- `r.Rejects value rule depth path rejection` says that the rejection is one of the things that
are wrong with the value at the path: with the value itself, with an item of it, with the variant
or a field of the shape that it is, or with a member of the collection that it is. -/
inductive Rejects (r : Registry) : Value → Rule → Nat → Path → Rejection → Prop where
  | atom {value rule depth path rejection} :
      Coercion.atom r value rule depth path = .error rejection →
      Rejects r value rule depth path rejection
  | item {items item rule depth path rejection} {position : Nat} : items[position]? = some item →
      Rejects r item rule depth (path.index position) rejection →
      Rejects r (.array items) rule (depth + 1) path rejection
  | variant {members typeName d path rejection} : r.definition? typeName = some d →
      r.RejectsVariant d members path rejection →
      Rejects r (.object members) (.tagged typeName) 0 path rejection
  | absent {members typeName d variant declared path} {field : String × FieldType} :
      r.definition? typeName = some d → r.shapeVariant? d members = some variant →
      d.fieldsOf? variant = some declared → field ∈ declared →
      (r.fieldMembers d members).get? field.1 = none → ¬ field.2.isOptional →
      Rejects r (.object members) (.tagged typeName) 0 path
        (.missing (path.field field.1) (field.2.rule.textAtDepth field.2.depth))
  | field {members typeName d variant declared path value rejection}
      {field : String × FieldType} :
      r.definition? typeName = some d → r.shapeVariant? d members = some variant →
      d.fieldsOf? variant = some declared → field ∈ declared →
      (r.fieldMembers d members).get? field.1 = some value →
      Rejects r value field.2.rule field.2.depth (path.field field.1) rejection →
      Rejects r (.object members) (.tagged typeName) 0 path rejection
  | member {members typeName idField path rejection} {member : String × Value} :
      member ∈ members → Rejects r member.2 (.tagged typeName) 0 (path.key member.1) rejection →
      Rejects r (.object members) (.keyed typeName (some idField)) 0 path rejection
  | key {members typeName idField path normal rejection} {member : String × Value} :
      member ∈ members →
      r.coerceValue member.2 (.tagged typeName) 0 (path.key member.1) = .ok normal →
      Coercion.checkKey idField member.1 normal (path.key member.1) = .error rejection →
      Rejects r (.object members) (.keyed typeName (some idField)) 0 path rejection

variable {r : Registry} {rule : Rule} {depth index : Nat} {path : Path} {rejection : Rejection}
  {typeName : String} {d : TypeDefinition}

/-- A required field is rejected where it is absent, and any field where its candidate is. -/
theorem field_eq_error {type : FieldType} {candidate : Option Value}
    (h : Coercion.field type (candidate.map r.coerceValue) path = .error rejection) :
    (candidate = none ∧ ¬ type.isOptional ∧
      rejection = .missing path (type.rule.textAtDepth type.depth)) ∨
    ∃ value, candidate = some value ∧
      r.coerceValue value type.rule type.depth path = .error rejection := by
  cases candidate with
  | some value => exact .inr ⟨value, rfl, map_eq_error.mp h⟩
  | none =>
      rw [Option.map_none, Coercion.field] at h
      split at h
      · cases h
      next hrequired => exact .inl ⟨rfl, hrequired, (Except.error.inj h).symm⟩

/-- A shape is rejected for its variant, or for the first of its fields that is. -/
theorem coerceShape_eq_error {members : Entries Value}
    (h : r.coerceShape d members path = .error rejection) :
    r.RejectsVariant d members path rejection ∨
      ∃ variant declared, r.shapeVariant? d members = some variant ∧
        d.fieldsOf? variant = some declared ∧
        Coercion.fields (fun name ↦ ((r.fieldMembers d members).get? name).map r.coerceValue) path
          declared = .error rejection := by
  obtain ⟨name, declared | variants, idField⟩ := d <;>
    simp only [coerceShape, Coercion.shape, candidates_eq_mapValues, Entries.erase_mapValues,
      Entries.get?_mapValues, Option.map_map] at h
  · rcases bind_eq_error.mp h with hfields | ⟨_, -, hfields⟩
    · exact .inr ⟨none, declared, rfl, rfl, hfields⟩
    · cases hfields
  · cases hnamed : members.get? r.config.codec.variantKey with
    | none =>
        rw [hnamed] at h
        cases h
        exact .inl (.missing rfl hnamed)
    | some named =>
        rw [hnamed] at h
        cases named with
        | string variant =>
            cases hvariant : variants.get? variant with
            | none =>
                simp only [Option.map_some, Function.comp, hvariant] at h
                cases h
                refine .inl (.unknown rfl hnamed ?_)
                rintro _ ⟨⟩
                exact hvariant
            | some declared =>
                simp only [Option.map_some, Function.comp, hvariant] at h
                rcases bind_eq_error.mp h with hfields | ⟨_, -, hfields⟩
                · refine .inr ⟨some variant, declared, ?_, hvariant, hfields⟩
                  simp [shapeVariant?, hnamed]
                · cases hfields
        | _ =>
            cases h
            exact .inl (.unknown rfl hnamed (by simp))

/-- A shape is rejected as a value of its type is, if this holds of its members. -/
theorem rejects_of_coerceShape {members : Entries Value} (hd : r.definition? typeName = some d)
    (hmembers : ∀ member ∈ members, ∀ {rule depth path rejection},
      r.coerceValue member.2 rule depth path = .error rejection →
      r.Rejects member.2 rule depth path rejection)
    (h : r.coerceShape d members path = .error rejection) :
    r.Rejects (.object members) (.tagged typeName) 0 path rejection := by
  rcases coerceShape_eq_error h with hvariant | ⟨variant, declared, hvariant, hdeclared, hfields⟩
  · exact .variant hd hvariant
  · rw [fields_eq_collect] at hfields
    obtain ⟨before, field, after, rfl, -, hfield⟩ := Entries.collect_eq_error hfields
    have hmem : field ∈ before ++ field :: after :=
      List.mem_append_right _ List.mem_cons_self
    rcases field_eq_error hfield with ⟨hnone, hrequired, rfl⟩ | ⟨value, hvalue, hvalue'⟩
    · exact .absent hd hvariant hdeclared hmem hnone hrequired
    · have hmember := mem_of_mem_fieldMembers (Entries.mem_of_get? hvalue)
      exact .field hd hvariant hdeclared hmem hvalue (hmembers _ hmember hvalue')

/-- Items are rejected where one of them is. -/
theorem coerceItems_eq_error {items : List Value}
    (h : r.coerceItems items rule depth path index = .error rejection) :
    ∃ position item, items[position]? = some item ∧
      r.coerceValue item rule depth (path.index (index + position)) = .error rejection := by
  induction items generalizing index with
  | nil => cases h
  | cons item items ih =>
      rcases bind_eq_error.mp h with hfirst | ⟨_, -, h⟩
      · exact ⟨0, item, rfl, hfirst⟩
      · rcases bind_eq_error.mp h with hothers | ⟨_, -, h⟩
        · obtain ⟨position, other, hother, hrejected⟩ := ih hothers
          exact ⟨position + 1, other, hother, by rwa [Nat.add_right_comm] at hrejected⟩
        · cases h

/-- The members of a keyed collection are rejected where one of them is, or where one is filed under
another key than its own. -/
theorem coerceMembers_eq_error {members : Entries Value} {idField : String}
    (h : r.coerceMembers members typeName idField path = .error rejection) :
    ∃ member ∈ members,
      r.coerceValue member.2 (.tagged typeName) 0 (path.key member.1) = .error rejection ∨
      ∃ normal, r.coerceValue member.2 (.tagged typeName) 0 (path.key member.1) = .ok normal ∧
        Coercion.checkKey idField member.1 normal (path.key member.1) = .error rejection := by
  induction members with
  | nil => cases h
  | cons member members ih =>
      rcases bind_eq_error.mp h with hfirst | ⟨normal, hnormal, h⟩
      · exact ⟨member, List.mem_cons_self, .inl hfirst⟩
      rcases bind_eq_error.mp h with hkey | ⟨_, -, h⟩
      · exact ⟨member, List.mem_cons_self, .inr ⟨normal, hnormal, hkey⟩⟩
      rcases bind_eq_error.mp h with hothers | ⟨_, -, h⟩
      · obtain ⟨other, hother, hrejected⟩ := ih hothers
        exact ⟨other, List.mem_cons_of_mem _ hother, hrejected⟩
      · cases h

/-- A rejection by coercion is one of the things that are wrong with the value. -/
theorem rejects_of_coerceValue {value : Value}
    (h : r.coerceValue value rule depth path = .error rejection) :
    r.Rejects value rule depth path rejection := by
  induction value using Value.induction generalizing rule depth path rejection with
  | array items ih =>
      cases depth with
      | zero => exact .atom h
      | succ depth =>
          obtain ⟨position, item, hitem, h⟩ := coerceItems_eq_error (map_eq_error.mp h)
          rw [Nat.zero_add] at h
          exact .item hitem (ih item (List.mem_of_getElem? hitem) h)
  | object members ih =>
      cases depth with
      | succ depth =>
          cases rule with
          | keyed typeName idField => cases idField <;> exact .atom h
          | _ => exact .atom h
      | zero =>
          cases rule with
          | tagged typeName =>
              rw [coerceValue] at h
              split at h
              next hd =>
                  refine .atom ?_
                  simpa [Coercion.atom, hd, Value.instance?] using h
              next d hd => exact rejects_of_coerceShape hd ih (map_eq_error.mp h)
          | keyed typeName idField =>
              cases idField with
              | none => exact .atom h
              | some idField =>
                  obtain ⟨member, hmember, h | ⟨normal, hnormal, hkey⟩⟩ :=
                    coerceMembers_eq_error (map_eq_error.mp h)
                  · exact .member hmember (ih member hmember h)
                  · exact .key hmember hnormal hkey
          | _ => exact .atom h
  | _ => exact .atom h

/-- A value that is not looked into is rejected where it is. -/
theorem path_of_atom {value : Value}
    (h : Coercion.atom r value rule depth path = .error rejection) : rejection.path = path := by
  unfold Coercion.atom at h
  repeat' split at h
  all_goals cases h <;> rfl

/-- A member of a keyed collection is rejected at the field that holds its key. -/
theorem path_of_checkKey {idField key : String} {member : Value}
    (h : Coercion.checkKey idField key member path = .error rejection) :
    rejection.path = path.field idField := by
  rw [Coercion.checkKey] at h
  split at h <;> cases h
  rfl

/-- What is wrong with a value lies at its path or below it. -/
theorem Rejects.isBelow {value : Value} (h : r.Rejects value rule depth path rejection) :
    rejection.IsBelow path := by
  induction h with
  | atom h => exact path_of_atom h ▸ List.prefix_rfl
  | item _ _ ih => exact ih.of_index
  | variant _ h => cases h <;> exact List.prefix_append _ _
  | absent => exact List.prefix_append _ _
  | field _ _ _ _ _ _ ih => exact ih.of_field
  | member _ _ ih => exact ih.of_key
  | key _ _ h =>
      rw [Rejection.IsBelow, path_of_checkKey h]
      exact (List.prefix_append _ _).trans (List.prefix_append _ _)

/-- A value is rejected at its path or below it. -/
theorem isBelow_of_coerceValue {value : Value}
    (h : r.coerceValue value rule depth path = .error rejection) : rejection.IsBelow path :=
  (rejects_of_coerceValue h).isBelow

/-- A field is rejected at its path or below it. -/
theorem isBelow_of_field {type : FieldType} {candidate : Option Value}
    (h : Coercion.field type (candidate.map r.coerceValue) path = .error rejection) :
    rejection.IsBelow path := by
  rcases field_eq_error h with ⟨-, -, rfl⟩ | ⟨value, -, hvalue⟩
  · exact List.prefix_rfl
  · exact isBelow_of_coerceValue hvalue

end Registry

/-! ## Rejections by decoding -/

namespace Decoding

variable {r : Registry} {run : HookRunner} {rule : Rule} {depth index : Nat} {path : Path}
  {error : TypeError} {typeName : String}

/-- What is moved below a path is rejected there. -/
theorem isBelow_moveBelow (path : Path) (error : TypeError) :
    (moveBelow path error).IsBelow path := by
  intro rejection h
  cases error <;> cases h
  exact List.prefix_append _ _

/-- What is reported against a type is the rejection that it was. -/
theorem rejection?_reportAgainst (d : TypeDefinition) (variant : Option String)
    (error : TypeError) : (reportAgainst d variant error).rejection? = error.rejection? := by
  cases error <;> rfl

/-- A nested instance is rejected below its path. -/
theorem isBelow_of_nested {reader : ShapeReader} (h : nested reader typeName path = .error error) :
    error.IsBelow path := by
  obtain ⟨original, -, rfl⟩ := mapError_eq_error.mp h
  exact isBelow_moveBelow path original

/-- Items are rejected below the path of their array, if this holds of each item at its own path. -/
theorem isBelow_of_items {readers : List ShapeReader}
    (hreaders : ∀ reader ∈ readers, ∀ {path error},
      reader.value rule depth path = .error error → error.IsBelow path)
    (h : items rule depth path index readers = .error error) : error.IsBelow path := by
  induction readers generalizing index with
  | nil => cases h
  | cons reader readers ih =>
      obtain ⟨hreader, hreaders⟩ := List.forall_mem_cons.mp hreaders
      rcases bind_eq_error.mp h with hfirst | ⟨_, -, h⟩
      · exact fun rejection hrejection => (hreader hfirst rejection hrejection).of_index
      · rcases bind_eq_error.mp h with hothers | ⟨_, -, h⟩
        · exact ih hreaders hothers
        · cases h

/-- The items of a keyed collection are rejected below its path. -/
theorem isBelow_of_keyedItems {idField : String} {found : Entries Value}
    {readers : List ShapeReader}
    (h : keyedItems r typeName idField path index found readers = .error error) :
    error.IsBelow path := by
  induction readers generalizing index found with
  | nil => cases h
  | cons reader readers ih =>
      rcases bind_eq_error.mp h with hfirst | ⟨_, -, h⟩
      · exact fun rejection hrejection =>
          (isBelow_of_nested hfirst rejection hrejection).of_index
      · intro rejection hrejection
        split at h
        · cases h
          cases hrejection
        · split at h
          · cases h
            cases hrejection
            exact (List.prefix_append _ _).trans (List.prefix_append _ _)
          · exact ih h rejection hrejection

/-- The members of a keyed collection are rejected below its path. -/
theorem isBelow_of_keyedMembers {readers : Entries ShapeReader}
    (h : keyedMembers typeName path readers = .error error) : error.IsBelow path := by
  induction readers with
  | nil => cases h
  | cons reader readers ih =>
      rcases bind_eq_error.mp h with hfirst | ⟨_, -, h⟩
      · exact fun rejection hrejection => (isBelow_of_nested hfirst rejection hrejection).of_key
      · rcases bind_eq_error.mp h with hothers | ⟨_, -, h⟩
        · exact ih hothers
        · cases h

/-- What is wrong in a JSON value is rejected at its path or below it. -/
theorem isBelow_of_value {json : Json}
    (h : (r.reader run json).value rule depth path = .error error) : error.IsBelow path := by
  induction json using Json.induction generalizing rule depth path error with
  | array jsons ih =>
      rw [Registry.reader, Registry.itemReaders_eq_map] at h
      cases depth with
      | succ depth =>
          refine isBelow_of_items ?_ (map_eq_error.mp h)
          exact List.forall_mem_map.mpr fun item hitem _ _ => ih item hitem
      | zero =>
          cases rule with
          | keyed typeName idField => exact isBelow_of_keyedItems (map_eq_error.mp h)
          | _ => cases h
  | object jsons ih =>
      cases depth with
      | succ depth => cases rule <;> cases h
      | zero =>
          cases rule with
          | tagged typeName =>
              obtain ⟨original, -, rfl⟩ := mapError_eq_error.mp (map_eq_error.mp h)
              exact isBelow_moveBelow path original
          | keyed typeName idField => exact isBelow_of_keyedMembers (map_eq_error.mp h)
          | _ => cases h
  | string s =>
      by_cases hdate : rule = .date ∧ depth = 0
      · obtain ⟨rfl, rfl⟩ := hdate
        cases h
      · cases (value_leaf_string hdate).symm.trans h
  | _ => cases h

end Decoding

end RecordSchema
