import RecordSchema.Proofs.Closed
import RecordSchema.Proofs.LaterData

/-!
# The places that rejections name

The path of a rejection can be followed from what was checked. A `Subject` is what was checked, with
what stands at each path; `Registry.Governs` says what the types expect at a path; and
`Registry.Explains` lists the rejections that tell the truth about their place: what stands there
does not meet what governs the place, or nothing stands where something is due, or a member of a
keyed collection is not what its key says. Coercion makes no other rejections
(`explains_of_coerceValue`), but for one: where a union reads its variant, a field of the name of
the variant key is taken for absent (`Registry.HidesField`).
-/

namespace RecordSchema

open Outcome

/-! ## Following a path -/

/-- The part of a value to which a step leads. -/
def Value.step? : Value → PathSegment → Option Value
  | .array items, .index position => items[position]?
  | .object members, .field name | .object members, .key name => Entries.get? name members
  | .tagged _ _ fields, .field name => Entries.get? name fields
  | _, _ => none

/-- What stands at a path in a value. -/
def Value.at? (value : Value) (path : Path) : Option Value :=
  path.foldlM step? value

/-- The part of a JSON value to which a step leads. -/
def Json.step? : Json → PathSegment → Option Json
  | .array items, .index position => items[position]?
  | .object members, .field name | .object members, .key name => Entries.get? name members
  | _, _ => none

/-- What stands at a path in a JSON value. -/
def Json.at? (json : Json) (path : Path) : Option Json :=
  path.foldlM step? json

/-- One step further, there stands what the step leads to. -/
theorem Value.at?_append {root value : Value} {path : Path} (h : root.at? path = some value)
    (step : PathSegment) : root.at? (path ++ [step]) = value.step? step := by
  rw [at?] at h
  rw [at?, List.foldlM_append, h]
  exact bind_pure (value.step? step)

/-- One step further, there stands what the step leads to. -/
theorem Json.at?_append {root json : Json} {path : Path} (h : root.at? path = some json)
    (step : PathSegment) : root.at? (path ++ [step]) = json.step? step := by
  rw [at?] at h
  rw [at?, List.foldlM_append, h]
  exact bind_pure (json.step? step)

/-- The members of an object or the fields of an instance. -/
def Value.named? : Value → Option (Entries Value)
  | .object members => some members
  | .tagged _ _ fields => some fields
  | _ => none

/-- What is checked: what stands at each path in it, the plain value of each part, and the instances
and other values that a part stands for where a rule is expected inside a number of arrays. -/
structure Subject where
  Part : Type
  at? : Path → Option Part
  plain : Part → Value
  StandsFor : Rule → Nat → Part → Value → Prop
  at?_nil : (at? []).isSome
  at?_append : ∀ path step, (at? (path ++ [step])).isSome → (at? path).isSome

namespace Subject

/-- A value that is coerced. -/
def ofValue (r : Registry) (root : Value) : Subject where
  Part := Value
  at? := root.at?
  plain := id
  StandsFor := r.Accepts
  at?_nil := rfl
  at?_append path step h := by
    rw [Value.at?, List.foldlM_append] at h
    exact Option.isSome_of_isSome_bind h

/-- A JSON value that is decoded. -/
def ofJson (r : Registry) (root : Json) : Subject where
  Part := Json
  at? := root.at?
  plain := Value.ofJson
  StandsFor := r.Decodes
  at?_nil := rfl
  at?_append path step h := by
    rw [Json.at?, List.foldlM_append] at h
    exact Option.isSome_of_isSome_bind h

end Subject

/-- What is expected somewhere: a value of a rule inside a number of arrays, the shape of a type,
candidates for fields, a candidate for a field, which may be absent if the field is optional, or the
name of a variant. -/
inductive Place where
  | value (rule : Rule) (depth : Nat)
  | shape (d : TypeDefinition)
  | fields (declared : Fields)
  | field (type : FieldType)
  | variant (variants : Entries Fields)

namespace Registry

/-- `r.Governs subject start path place` says that `place` is expected at the path if `start` is
expected of the subject as a whole. What is expected follows from the types alone, but for the
variant of a union, which is read where its shape stands. -/
inductive Governs (r : Registry) (subject : Subject) (start : Place) : Path → Place → Prop where
  | start : Governs r subject start [] start
  | item {path rule depth} (position) : Governs r subject start path (.value rule (depth + 1)) →
      Governs r subject start (path.index position) (.value rule depth)
  | keyedItem {path typeName idField} (position) :
      Governs r subject start path (.value (.keyed typeName idField) 0) →
      Governs r subject start (path.index position) (.value (.tagged typeName) 0)
  | member {path typeName idField} (key) :
      Governs r subject start path (.value (.keyed typeName idField) 0) →
      Governs r subject start (path.key key) (.value (.tagged typeName) 0)
  | shape {path typeName d part} : Governs r subject start path (.value (.tagged typeName) 0) →
      r.definition? typeName = some d → subject.at? path = some part →
      Governs r subject start path (.shape d)
  | variantKey {path d variants} : Governs r subject start path (.shape d) →
      d.shape = .union variants →
      Governs r subject start (path.field r.config.codec.variantKey) (.variant variants)
  | fields {path d part members variant declared} : Governs r subject start path (.shape d) →
      subject.at? path = some part → (subject.plain part).named? = some members →
      r.shapeVariant? d members = some variant → d.fieldsOf? variant = some declared →
      Governs r subject start path (.fields declared)
  | field {path declared name type} : Governs r subject start path (.fields declared) →
      (name, type) ∈ declared → Governs r subject start (path.field name) (.field type)
  | candidate {path type} : Governs r subject start path (.field type) →
      Governs r subject start path (.value type.rule type.depth)

/-- `r.Explains subject start rejection` says that the rejection tells the truth about its place: at
its path

* stands a value that is not accepted there, or no object where candidates for fields are expected,
  and this value is what the rejection says it found;
* stands nothing, where a required field or the variant of a union is due;
* stands something else than the name of a variant; or
* is, or should be, the identity field of a member of a keyed collection, whose key differs from the
  one that the member is filed under, or repeats that of an earlier member. -/
inductive Explains (r : Registry) (subject : Subject) (start : Place) : Rejection → Prop where
  | unfit {path kind expected rule depth part} :
      kind = .wrongKind ∨ kind = .patternMismatch ∨ kind = .wrongType →
      r.Governs subject start path (.value rule depth) → subject.at? path = some part →
      (¬ ∃ normal, subject.StandsFor rule depth part normal) →
      Explains r subject start ⟨path, kind, expected, (subject.plain part).text⟩
  | noObject {path expected place part} :
      (∃ d, place = .shape d) ∨ (∃ declared, place = .fields declared) →
      r.Governs subject start path place → subject.at? path = some part →
      (subject.plain part).named? = none →
      Explains r subject start ⟨path, .wrongKind, expected, (subject.plain part).text⟩
  | missingField {path expected type} : r.Governs subject start path (.field type) →
      ¬ type.isOptional → subject.at? path = none →
      Explains r subject start (.missing path expected)
  | missingVariant {path expected variants} :
      r.Governs subject start path (.variant variants) → subject.at? path = none →
      Explains r subject start (.missing path expected)
  | unknownVariant {path expected variants part} :
      r.Governs subject start path (.variant variants) → subject.at? path = some part →
      (∀ name, subject.plain part = .string name → variants.get? name = none) →
      Explains r subject start ⟨path, .unknownVariant, expected, (subject.plain part).text⟩
  | otherKey {path typeName idField key part expected actual} {i : Instance} :
      r.Governs subject start path (.value (.keyed typeName (some idField)) 0) →
      subject.at? (path.key key) = some part →
      subject.StandsFor (.tagged typeName) 0 part (.ofInstance i) →
      i.keyText? idField ≠ some key →
      Explains r subject start ⟨(path.key key).field idField, .keyMismatch, expected, actual⟩
  | repeatedKey {path typeName idField earlier position key part other expected actual}
      {i j : Instance} :
      r.Governs subject start path (.value (.keyed typeName (some idField)) 0) →
      earlier < position → subject.at? (path.index earlier) = some other →
      subject.at? (path.index position) = some part →
      subject.StandsFor (.tagged typeName) 0 other (.ofInstance j) →
      subject.StandsFor (.tagged typeName) 0 part (.ofInstance i) →
      j.keyText? idField = some key → i.keyText? idField = some key →
      Explains r subject start ⟨(path.index position).field idField, .keyMismatch, expected, actual⟩

/-- A required field is reported as missing where the shape of a union names its variant, because
the field has the name of the variant key. -/
inductive HidesField (r : Registry) (subject : Subject) (start : Place) : Rejection → Prop where
  | mk {path expected d variants part members variant declared type} :
      r.Governs subject start path (.shape d) → d.shape = .union variants →
      subject.at? path = some part → (subject.plain part).named? = some members →
      r.shapeVariant? d members = some variant → d.fieldsOf? variant = some declared →
      (r.config.codec.variantKey, type) ∈ declared → ¬ type.isOptional →
      HidesField r subject start (.missing (path.field r.config.codec.variantKey) expected)

variable {r : Registry} {subject : Subject} {start : Place} {path : Path} {rejection : Rejection}

/-- Where a shape is expected, or candidates for fields, there stands something. -/
theorem Governs.exists_part {place : Place} (h : r.Governs subject start path place)
    (hplace : (∃ d, place = .shape d) ∨ ∃ declared, place = .fields declared) :
    (subject.at? path).isSome := by
  cases h with
  | start => exact subject.at?_nil
  | shape _ _ hat => exact Option.isSome_of_eq_some hat
  | fields _ hat => exact Option.isSome_of_eq_some hat
  | _ => simp at hplace

/-- Above every place there stands something. -/
theorem exists_part_dropLast (h : (subject.at? path).isSome) :
    (subject.at? path.dropLast).isSome := by
  rcases List.eq_nil_or_concat path with rfl | ⟨parent, step, rfl⟩
  · exact h
  · rw [List.concat_eq_append] at h
    rw [List.concat_eq_append, List.dropLast_concat]
    exact subject.at?_append parent step h

/-- A field or a variant is expected in something that is there. -/
theorem Governs.exists_parent {place : Place} (h : r.Governs subject start path place)
    (hplace : (∃ type, place = .field type) ∨ ∃ variants, place = .variant variants) :
    (subject.at? path.dropLast).isSome := by
  cases h with
  | start => exact subject.at?_nil
  | field hfields _ =>
      rw [Path.field, List.dropLast_concat]
      exact hfields.exists_part (.inr ⟨_, rfl⟩)
  | variantKey hshape _ =>
      rw [Path.field, List.dropLast_concat]
      exact hshape.exists_part (.inl ⟨_, rfl⟩)
  | _ => simp at hplace

/-- A rejection that tells the truth about its place lies in something that is there. -/
theorem Explains.exists_parent (h : r.Explains subject start rejection) :
    (subject.at? rejection.path.dropLast).isSome := by
  cases h with
  | unfit _ _ hat | noObject _ _ hat | unknownVariant _ hat =>
      exact exists_part_dropLast (Option.isSome_of_eq_some hat)
  | missingField hgoverns => exact hgoverns.exists_parent (.inl ⟨_, rfl⟩)
  | missingVariant hgoverns => exact hgoverns.exists_parent (.inr ⟨_, rfl⟩)
  | otherKey _ hat | repeatedKey _ _ _ hat =>
      simpa only [Path.field, List.dropLast_concat] using Option.isSome_of_eq_some hat

/-- There is nothing where the truth is that something is missing. -/
theorem Explains.nothing_of_missing (h : r.Explains subject start rejection)
    (hkind : rejection.kind = .missing) : subject.at? rejection.path = none := by
  cases h with
  | unfit hkinds => rcases hkinds with rfl | rfl | rfl <;> cases hkind
  | missingField _ _ hnone | missingVariant _ hnone => exact hnone
  | _ => cases hkind

/-- A field that is hidden lies in a shape that is there. -/
theorem HidesField.exists_parent (h : r.HidesField subject start rejection) :
    (subject.at? rejection.path.dropLast).isSome := by
  obtain ⟨-, -, hat⟩ := h
  simpa only [Rejection.missing, Path.field, List.dropLast_concat] using
    Option.isSome_of_eq_some hat

/-! ## Rejections by coercion -/

/-- The text of an instance is that of the value that it is. -/
theorem text_of_instance? {value : Value} {i : Instance} (h : value.instance? = some i) :
    i.text = value.text := by
  cases value with
  | tagged tag variant fields =>
      cases h
      rw [Instance.text, Instance.layout, Instance.layoutFields, Value.text, Value.layout]
      rfl
  | _ => cases h

/-- What is rejected without a look into it is rejected where it is, as what it is. -/
theorem shape_of_atom {value : Value} {rule : Rule} {depth : Nat}
    (h : Coercion.atom r value rule depth path = .error rejection)
    (hkind : rejection.kind ≠ .unresolved) :
    (rejection.kind = .wrongKind ∨ rejection.kind = .patternMismatch ∨
      rejection.kind = .wrongType) ∧ rejection.path = path ∧ rejection.actual = value.text := by
  unfold Coercion.atom at h
  repeat' split at h
  all_goals cases h
  all_goals first
    | exact absurd rfl hkind
    | exact ⟨by simp [Rejection.wrongKind, Rejection.patternMismatch], rfl, rfl⟩
    -- An instance of another type comes with its own text.
    | exact ⟨.inr (.inr rfl), rfl, text_of_instance? ‹_›⟩

/-- A member of a shape that is no candidate for a field names the variant of a union. -/
theorem exists_union_of_hidden {d : TypeDefinition} {members : Entries Value} {name : String}
    (hnone : (r.fieldMembers d members).get? name = none) (hmember : members.get? name ≠ none) :
    ∃ variants, d.shape = .union variants ∧ name = r.config.codec.variantKey := by
  obtain ⟨typeName, declared | variants, idField⟩ := d
  · exact absurd hnone hmember
  · by_cases hkey : r.config.codec.variantKey = name
    · exact ⟨variants, rfl, hkey.symm⟩
    · rw [fieldMembers, TypeDefinition.isUnion] at hnone
      exact absurd ((Entries.get?_erase_of_ne hkey members).symm.trans hnone) hmember

section Coercion

variable {root value : Value} {rule : Rule} {depth : Nat} {d : TypeDefinition}

/-- A value that is rejected without a look into it is unfit for its place. -/
theorem explains_of_atom (hr : r.Checked) (hat : root.at? path = some value)
    (hgoverns : r.Governs (.ofValue r root) start path (.value rule depth))
    (hkind : rejection.kind ≠ .unresolved)
    (hatom : Coercion.atom r value rule depth path = .error rejection)
    (h : r.coerceValue value rule depth path = .error rejection) :
    r.Explains (.ofValue r root) start rejection := by
  obtain ⟨hkinds, hpath, hactual⟩ := shape_of_atom hatom hkind
  obtain ⟨_, kind, expected, _⟩ := rejection
  obtain rfl := hpath
  obtain rfl := hactual
  refine .unfit hkinds hgoverns hat fun haccepted => ?_
  obtain ⟨normal, haccepts⟩ := haccepted
  cases h.symm.trans ((coerceValue_eq_ok hr _).mpr haccepts)

/-- Fields are rejected for one of them that is absent or whose candidate is rejected. -/
theorem exists_field_of_fields_eq_error {declared : Fields} {candidate : String → Option Value}
    (h : Coercion.fields (fun name ↦ (candidate name).map r.coerceValue) path declared
      = .error rejection) :
    ∃ field ∈ declared,
      (candidate field.1 = none ∧ ¬ field.2.isOptional ∧
        rejection = .missing (path.field field.1) (field.2.rule.textAtDepth field.2.depth)) ∨
      ∃ value, candidate field.1 = some value ∧
        r.coerceValue value field.2.rule field.2.depth (path.field field.1) = .error rejection := by
  rw [fields_eq_collect] at h
  obtain ⟨before, field, after, rfl, -, hfield⟩ := Entries.collect_eq_error h
  exact ⟨field, List.mem_append_right _ List.mem_cons_self, field_eq_error hfield⟩

/-- The members of an object and the fields of an instance stand where their names lead to. -/
theorem step?_field {members : Entries Value} (h : value.named? = some members) (name : String) :
    value.step? (.field name) = members.get? name := by
  cases value <;> cases h <;> rfl

/-- A shape that does not name a variant has no name of a variant where it should stand. -/
theorem explains_of_variant {members : Entries Value} (hat : root.at? path = some value)
    (hvalue : value.named? = some members)
    (hgoverns : r.Governs (.ofValue r root) start path (.shape d))
    (h : r.RejectsVariant d members path rejection) :
    r.Explains (.ofValue r root) start rejection := by
  have hstep : root.at? (path.field r.config.codec.variantKey) =
      members.get? r.config.codec.variantKey :=
    (Value.at?_append hat _).trans (step?_field hvalue _)
  cases h with
  | missing hunion hnone =>
      exact .missingVariant (hgoverns.variantKey hunion) (hstep.trans hnone)
  | unknown hunion hnamed hunknown =>
      exact .unknownVariant (hgoverns.variantKey hunion) (hstep.trans hnamed) hunknown

/-- The fields of a shape are rejected for a field that is absent, or hidden behind the name of the
variant, or as a member is. -/
theorem explains_of_shapeFields {members : Entries Value} {variant : Option String}
    {declared : Fields} (hat : root.at? path = some value) (hvalue : value.named? = some members)
    (hkeys : members.names.Nodup)
    (hgoverns : r.Governs (.ofValue r root) start path (.shape d))
    (hvariant : r.shapeVariant? d members = some variant)
    (hdeclared : d.fieldsOf? variant = some declared)
    (hmembers : ∀ member ∈ members, ∀ {rule depth path}, root.at? path = some member.2 →
      r.Governs (.ofValue r root) start path (.value rule depth) →
      r.coerceValue member.2 rule depth path = .error rejection →
      r.Explains (.ofValue r root) start rejection ∨
        r.HidesField (.ofValue r root) start rejection)
    (h : r.coerceFields declared (fun name ↦ (r.fieldMembers d members).get? name) path
      = .error rejection) :
    r.Explains (.ofValue r root) start rejection ∨
      r.HidesField (.ofValue r root) start rejection := by
  have hfields : r.Governs (.ofValue r root) start path (.fields declared) :=
    hgoverns.fields hat hvalue hvariant hdeclared
  obtain ⟨⟨name, type⟩, hmem, hfield⟩ := exists_field_of_fields_eq_error h
  have hplace := hfields.field hmem
  have hstep : root.at? (path.field name) = members.get? name :=
    (Value.at?_append hat _).trans (step?_field hvalue _)
  rcases hfield with ⟨hnone, hrequired, rfl⟩ | ⟨candidate, hcandidate, hrejected⟩
  · by_cases habsent : members.get? name = none
    · exact .inl (.missingField hplace hrequired (hstep.trans habsent))
    -- What is there but no candidate is the name of the variant.
    · obtain ⟨variants, hunion, rfl⟩ := exists_union_of_hidden hnone habsent
      exact .inr ⟨hgoverns, hunion, hat, hvalue, hvariant, hdeclared, hmem, hrequired⟩
  · have hmember := mem_of_mem_fieldMembers (Entries.mem_of_get? hcandidate)
    have hthere := hstep.trans (Entries.get?_of_mem hkeys hmember)
    exact hmembers _ hmember hthere hplace.candidate hrejected

/-- A shape is rejected for its variant or for one of its fields. -/
theorem explains_of_coerceShape {members : Entries Value} (hat : root.at? path = some value)
    (hvalue : value.named? = some members) (hkeys : members.names.Nodup)
    (hgoverns : r.Governs (.ofValue r root) start path (.shape d))
    (hmembers : ∀ member ∈ members, ∀ {rule depth path}, root.at? path = some member.2 →
      r.Governs (.ofValue r root) start path (.value rule depth) →
      r.coerceValue member.2 rule depth path = .error rejection →
      r.Explains (.ofValue r root) start rejection ∨
        r.HidesField (.ofValue r root) start rejection)
    (h : r.coerceShape d members path = .error rejection) :
    r.Explains (.ofValue r root) start rejection ∨
      r.HidesField (.ofValue r root) start rejection := by
  rcases coerceShape_eq_error h with hvariant | ⟨variant, declared, hvariant, hdeclared, hfields⟩
  · exact .inl (explains_of_variant hat hvalue hgoverns hvariant)
  · exact explains_of_shapeFields hat hvalue hkeys hgoverns hvariant hdeclared hmembers hfields

/-- What is accepted as an instance of a type becomes an instance. -/
theorem exists_instance_of_accepts {typeName : String} {normal : Value}
    (h : r.Accepts (.tagged typeName) 0 value normal) : ∃ i : Instance, normal = .ofInstance i := by
  cases h with
  | pattern hp => cases hp
  | owned | shape => exact ⟨⟨_, _, _⟩, rfl⟩

/-- A member of a keyed collection that is rejected at its key is an instance with another key. -/
theorem explains_of_checkKey {typeName idField key : String} {member normal : Value}
    (hr : r.Checked) (hat : root.at? (path.key key) = some member)
    (hgoverns : r.Governs (.ofValue r root) start path (.value (.keyed typeName (some idField)) 0))
    (hnormal : r.coerceValue member (.tagged typeName) 0 (path.key key) = .ok normal)
    (h : Coercion.checkKey idField key normal (path.key key) = .error rejection) :
    r.Explains (.ofValue r root) start rejection := by
  have haccepts := (coerceValue_eq_ok hr _).mp hnormal
  obtain ⟨i, rfl⟩ := exists_instance_of_accepts haccepts
  rw [Coercion.checkKey] at h
  split at h
  · cases h
  next hkey =>
      cases h
      exact .otherKey hgoverns hat haccepts hkey

/-- Coercion rejects a value for something that is wrong where the rejection says, unless a field
is hidden behind the name of a variant. -/
theorem explains_of_coerceValue (hr : r.Checked) (hkeys : value.Everywhere Value.HasDistinctKeys)
    (hat : root.at? path = some value)
    (hgoverns : r.Governs (.ofValue r root) start path (.value rule depth))
    (hkind : rejection.kind ≠ .unresolved)
    (h : r.coerceValue value rule depth path = .error rejection) :
    r.Explains (.ofValue r root) start rejection ∨
      r.HidesField (.ofValue r root) start rejection := by
  induction value using Value.induction generalizing rule depth path with
  | array items ih =>
      cases depth with
      | zero => exact .inl (explains_of_atom hr hat hgoverns hkind h h)
      | succ depth =>
          rw [Value.everywhere_array] at hkeys
          obtain ⟨position, hfirst⟩ := coerceValue_array_eq_error.mp h
          obtain ⟨item, hitem, hrejected⟩ := hfirst.fails
          have hmem := List.mem_of_getElem? hitem
          have hthere := (Value.at?_append hat (.index position)).trans hitem
          exact ih item hmem (hkeys.2 item hmem) hthere (hgoverns.item position) hrejected
  | object members ih =>
      rw [Value.everywhere_object] at hkeys
      cases depth with
      | succ depth =>
          refine .inl (explains_of_atom hr hat hgoverns hkind ?_ h)
          cases rule with
          | keyed typeName idField => cases idField <;> exact h
          | _ => exact h
      | zero =>
          cases rule with
          | tagged typeName =>
              cases hd : r.definition? typeName with
              | none =>
                  rw [coerceValue, hd] at h
                  cases h
                  exact absurd rfl hkind
              | some d =>
                  refine explains_of_coerceShape hat rfl hkeys.1 (hgoverns.shape hd hat) ?_
                    ((coerceValue_shape_eq_error hd).mp h)
                  intro member hmember _ _ _
                  exact ih member hmember (hkeys.2 member hmember)
          | keyed typeName idField =>
              cases idField with
              | none => exact .inl (explains_of_atom hr hat hgoverns hkind h h)
              | some idField =>
                  obtain ⟨position, hfirst⟩ := coerceValue_keyed_eq_error.mp h
                  obtain ⟨⟨key, member⟩, hmember, hrejected⟩ := hfirst.fails
                  have hmem := List.mem_of_getElem? hmember
                  have hthere : root.at? (path.key key) = some member :=
                    (Value.at?_append hat (.key key)).trans (Entries.get?_of_mem hkeys.1 hmem)
                  rcases bind_eq_error.mp hrejected with hmember | ⟨normal, hnormal, hrejected⟩
                  · exact ih _ hmem (hkeys.2 _ hmem) hthere (hgoverns.member key) hmember
                  rcases bind_eq_error.mp hrejected with hkey | ⟨_, -, hreturn⟩
                  · exact .inl (explains_of_checkKey hr hthere hgoverns hnormal hkey)
                  · cases hreturn
          | _ => exact .inl (explains_of_atom hr hat hgoverns hkind h h)
  | _ => exact .inl (explains_of_atom hr hat hgoverns hkind h h)

end Coercion

end Registry

end RecordSchema
