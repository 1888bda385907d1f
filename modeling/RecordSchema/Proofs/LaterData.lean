import RecordSchema.Proofs.Rejections
import RecordSchema.Proofs.Session

/-!
# The first rejection and what comes after it

Validation goes through fields in order of declaration, through arrays by position and through keyed
collections member by member, and reports what fails first (`IsFirstFailure`). What comes after the
place of a rejection has no effect on it. `Registry.AgreesUpTo` relates values that differ only
there, at every level of the path to the place; such values are rejected alike
(`AgreesUpTo.coerceValue_eq`), and every value that is rejected agrees with itself up to the place
(`exists_agreesUpTo_self`). The main statement, `Registry.first_rejection`, is about the candidates
for the fields of a record or of a variant.
-/

namespace RecordSchema

open Outcome

/-! ## First failures -/

/-- The part at this position is the first that fails its check, and this is its error. -/
structure IsFirstFailure {α β ε : Type} (check : Nat → α → Except ε β) (parts : List α)
    (position : Nat) (e : ε) : Prop where
  fails : ∃ part, parts[position]? = some part ∧ check position part = .error e
  passes : ∀ earlier < position, ∃ part result,
    parts[earlier]? = some part ∧ check earlier part = .ok result

section FirstFailure

variable {α β ε : Type} {check : Nat → α → Except ε β} {parts : List α} {e : ε}

/-- Nothing fails where there are no parts. -/
theorem not_isFirstFailure_nil {position : Nat} :
    ¬ IsFirstFailure check ([] : List α) position e := by
  rintro ⟨⟨_, hpart, -⟩, -⟩
  cases hpart

/-- Either the first part fails, or it passes and there is a first failure among the others. -/
theorem exists_isFirstFailure_cons {part : α} :
    (∃ position, IsFirstFailure check (part :: parts) position e) ↔
      check 0 part = .error e ∨ (∃ result, check 0 part = .ok result) ∧
        ∃ position, IsFirstFailure (fun index ↦ check (index + 1)) parts position e := by
  constructor
  · rintro ⟨_ | position, ⟨other, hother, hfails⟩, hpasses⟩
    · cases hother
      exact .inl hfails
    · obtain ⟨_, result, ⟨⟩, hresult⟩ := hpasses 0 position.succ_pos
      exact .inr ⟨⟨result, hresult⟩, position, ⟨other, hother, hfails⟩, fun earlier hearlier =>
        hpasses (earlier + 1) (Nat.succ_lt_succ hearlier)⟩
  · rintro (hfails | ⟨⟨result, hresult⟩, position, hfails, hpasses⟩)
    · exact ⟨0, ⟨part, rfl, hfails⟩, fun _ h => absurd h (Nat.not_lt_zero _)⟩
    · refine ⟨position + 1, hfails, fun earlier hearlier => ?_⟩
      cases earlier with
      | zero => exact ⟨part, result, rfl, hresult⟩
      | succ earlier => exact hpasses earlier (Nat.lt_of_succ_lt_succ hearlier)

/-- Where a part fails there is a first that does. -/
theorem exists_isFirstFailure_of_error {part : α} {position : Nat}
    (hpart : parts[position]? = some part) (h : check position part = .error e) :
    ∃ first error, IsFirstFailure check parts first error := by
  induction parts generalizing check position with
  | nil => cases hpart
  | cons head parts ih =>
      cases hhead : check 0 head with
      | error error =>
          obtain ⟨first, hfirst⟩ := exists_isFirstFailure_cons.mpr (.inl hhead)
          exact ⟨first, error, hfirst⟩
      | ok result =>
          cases position with
          | zero =>
              obtain rfl : head = part := Option.some.inj hpart
              cases hhead.symm.trans h
          | succ position =>
              obtain ⟨later, error, hlater⟩ := @ih (fun index ↦ check (index + 1)) position hpart h
              obtain ⟨first, hfirst⟩ :=
                exists_isFirstFailure_cons.mpr (.inr ⟨⟨result, hhead⟩, later, hlater⟩)
              exact ⟨first, error, hfirst⟩

/-- What comes after the first failure has no effect on it, whatever it is replaced by. -/
theorem IsFirstFailure.replace {check' : Nat → α → Except ε β} {before after after' : List α}
    {part part' : α} (h : IsFirstFailure check (before ++ part :: after) before.length e)
    (hbefore : ∀ position other, before[position]? = some other →
      check' position other = check position other)
    (hpart : check' before.length part' = .error e) :
    IsFirstFailure check' (before ++ part' :: after') before.length e where
  fails := ⟨part', by simp, hpart⟩
  passes earlier hearlier := by
    obtain ⟨other, result, hother, hresult⟩ := h.passes earlier hearlier
    rw [List.getElem?_append_left hearlier] at hother
    refine ⟨other, result, ?_, (hbefore earlier other hother).trans hresult⟩
    rw [List.getElem?_append_left hearlier, hother]

/-- A walk fails at a part, or it passes the part and fails among the others. -/
theorem walk_eq_error {γ : Type} {first : Except ε α} {others : Except ε β} {make : α → β → γ} :
    (do let a ← first; let b ← others; return make a b) = .error e ↔
      first = .error e ∨ (∃ a, first = .ok a) ∧ others = .error e := by
  rw [bind_eq_error]
  refine or_congr Iff.rfl ⟨?_, ?_⟩
  · rintro ⟨a, hfirst, h⟩
    rcases bind_eq_error.mp h with hothers | ⟨_, -, h⟩
    · exact ⟨⟨a, hfirst⟩, hothers⟩
    · cases h
  · rintro ⟨⟨a, hfirst⟩, hothers⟩
    exact ⟨a, hfirst, bind_eq_error.mpr (.inl hothers)⟩

end FirstFailure

/-- An object has each key once. -/
def Value.HasDistinctKeys : Value → Prop
  | .object members => (Entries.names members).Nodup
  | _ => True

namespace Registry

/-- Checks the candidates for fields in order of declaration. -/
def coerceFields (r : Registry) (declared : Fields) (candidate : String → Option Value)
    (path : Path) : Except Rejection (Entries Value) :=
  Coercion.fields (fun name ↦ (candidate name).map r.coerceValue) path declared

/-- Checks a member of a keyed collection: first that it is an instance of the type or stands for
one, then that it is filed under its own key. -/
def coerceMember (r : Registry) (typeName idField : String) (path : Path)
    (member : String × Value) : Except Rejection Value := do
  let normal ← r.coerceValue member.2 (.tagged typeName) 0 (path.key member.1)
  Coercion.checkKey idField member.1 normal (path.key member.1)
  return normal

section Checks

variable {r : Registry} {rule : Rule} {depth index : Nat} {path : Path} {rejection : Rejection}
  {typeName idField : String}

/-- Fields are rejected for the first of them whose candidate is. -/
theorem coerceFields_eq_error {declared : Fields} {candidate : String → Option Value} :
    r.coerceFields declared candidate path = .error rejection ↔
      ∃ position, IsFirstFailure (fun _ (field : String × FieldType) ↦
        r.coerce field.2 (candidate field.1) (path.field field.1)) declared position rejection := by
  induction declared with
  | nil => simp [coerceFields, Coercion.fields, not_isFirstFailure_nil]
  | cons field rest ih =>
      rw [exists_isFirstFailure_cons, ← ih]
      exact walk_eq_error

/-- Items are rejected for the first of them that is. -/
theorem coerceItems_eq_error_iff {items : List Value} :
    r.coerceItems items rule depth path index = .error rejection ↔
      ∃ position, IsFirstFailure (fun position item ↦
          r.coerceValue item rule depth (path.index (index + position)))
        items position rejection := by
  induction items generalizing index with
  | nil => simp [coerceItems, not_isFirstFailure_nil]
  | cons item items ih =>
      have hothers := @ih (index + 1)
      simp only [Nat.add_right_comm index 1] at hothers
      rw [exists_isFirstFailure_cons]
      exact walk_eq_error.trans (or_congr Iff.rfl (and_congr Iff.rfl hothers))

/-- Members are rejected for the first of them that is, or that is filed under another key. -/
theorem coerceMembers_eq_error_iff {members : Entries Value} :
    r.coerceMembers members typeName idField path = .error rejection ↔
      ∃ position, IsFirstFailure (fun _ member ↦ r.coerceMember typeName idField path member)
        members position rejection := by
  induction members with
  | nil => simp [coerceMembers, not_isFirstFailure_nil]
  | cons member members ih =>
      obtain ⟨key, value⟩ := member
      have hwalk : r.coerceMembers ((key, value) :: members) typeName idField path =
          (do
            let first ← r.coerceMember typeName idField path (key, value)
            let others ← r.coerceMembers members typeName idField path
            return (key, first) :: others) := by
        simp [coerceMembers, coerceMember, bind_assoc]
      rw [exists_isFirstFailure_cons, ← ih, hwalk]
      exact walk_eq_error

/-- An array is rejected for the first of its items that is. -/
theorem coerceValue_array_eq_error {items : List Value} :
    r.coerceValue (.array items) rule (depth + 1) path = .error rejection ↔
      ∃ position, IsFirstFailure (fun position item ↦
        r.coerceValue item rule depth (path.index position)) items position rejection := by
  rw [coerceValue, map_eq_error, coerceItems_eq_error_iff]
  simp only [Nat.zero_add]

/-- A keyed collection is rejected for the first of its members that is, or that is filed under
another key. -/
theorem coerceValue_keyed_eq_error {members : Entries Value} :
    r.coerceValue (.object members) (.keyed typeName (some idField)) 0 path = .error rejection ↔
      ∃ position, IsFirstFailure (fun _ member ↦ r.coerceMember typeName idField path member)
        members position rejection := by
  rw [coerceValue, map_eq_error, coerceMembers_eq_error_iff]

end Checks

/-! ## What comes after a rejection -/

mutual

/-- `r.AgreesUpTo kind place rule depth value other` says that the values are the same up to the
place where a rejection of this kind was found. What comes after the place may differ: later items
of the arrays, later members of the keyed collections and later fields of the shapes that enclose
it. A member under another key than its own was looked through before its key, so that it stays the
same as a whole. -/
inductive AgreesUpTo (r : Registry) (kind : RejectionKind) :
    Path → Rule → Nat → Value → Value → Prop where
  | here {rule depth} (value) : kind ≠ .keyMismatch → AgreesUpTo r kind [] rule depth value value
  | item {place rule depth item other} {before after after' : List Value} :
      AgreesUpTo r kind place rule depth item other →
      AgreesUpTo r kind (.index before.length :: place) rule (depth + 1)
        (.array (before ++ item :: after)) (.array (before ++ other :: after'))
  | member {place typeName idField key value other} {before after after' : Entries Value} :
      (Entries.names (before ++ (key, value) :: after)).Nodup →
      AgreesUpTo r kind place (.tagged typeName) 0 value other →
      AgreesUpTo r kind (.key key :: place) (.keyed typeName (some idField)) 0
        (.object (before ++ (key, value) :: after)) (.object (before ++ (key, other) :: after'))
  | misplaced {typeName idField key value} {before after after' : Entries Value} :
      (Entries.names (before ++ (key, value) :: after)).Nodup → kind = .keyMismatch →
      AgreesUpTo r kind [.key key, .field idField] (.keyed typeName (some idField)) 0
        (.object (before ++ (key, value) :: after)) (.object (before ++ (key, value) :: after'))
  | variant {typeName d variants} {members others : Entries Value} : kind ≠ .keyMismatch →
      r.definition? typeName = some d → d.shape = .union variants →
      (∀ variant, members.get? r.config.codec.variantKey = some (.string variant) →
        variants.get? variant = none) →
      others.get? r.config.codec.variantKey = members.get? r.config.codec.variantKey →
      AgreesUpTo r kind [.field r.config.codec.variantKey] (.tagged typeName) 0
        (.object members) (.object others)
  | shape {place typeName d variant declared} {members others : Entries Value} :
      r.definition? typeName = some d → d.fieldsOf? variant = some declared →
      r.shapeVariant? d members = some variant → r.shapeVariant? d others = some variant →
      AgreeOnFields r kind place declared (fun name ↦ (r.fieldMembers d members).get? name)
        (fun name ↦ (r.fieldMembers d others).get? name) →
      AgreesUpTo r kind place (.tagged typeName) 0 (.object members) (.object others)

/-- The candidates for the declared fields are the same up to the place where a rejection of this
kind was found. -/
inductive AgreeOnFields (r : Registry) (kind : RejectionKind) :
    Path → Fields → (String → Option Value) → (String → Option Value) → Prop where
  | absent {before after : Fields} {name type} {candidate other : String → Option Value} :
      kind ≠ .keyMismatch → (∀ field ∈ before, other field.1 = candidate field.1) →
      candidate name = none → other name = none →
      AgreeOnFields r kind [.field name] (before ++ (name, type) :: after) candidate other
  | present {place} {before after : Fields} {name type value value'}
      {candidate other : String → Option Value} :
      (∀ field ∈ before, other field.1 = candidate field.1) →
      candidate name = some value → other name = some value' →
      AgreesUpTo r kind place type.rule type.depth value value' →
      AgreeOnFields r kind (.field name :: place) (before ++ (name, type) :: after) candidate other

end

variable {r : Registry} {rule : Rule} {depth index : Nat} {path place : Path}
  {rejection : Rejection} {typeName idField : String} {d : TypeDefinition}

/-- A key is wrong in a member, not in a value by itself. -/
theorem not_agreesUpTo_nil {value other : Value} :
    ¬ r.AgreesUpTo .keyMismatch [] rule depth value other := by
  intro h
  cases h with
  | here _ hkind => exact hkind rfl
  | shape _ _ _ _ hfields => cases hfields

/-- A member under another key than its own may not differ in its fields. -/
theorem not_agreesUpTo_field {name : String} {value other : Value} :
    ¬ r.AgreesUpTo .keyMismatch [.field name] rule depth value other := by
  intro h
  cases h with
  | variant hkind => exact hkind rfl
  | shape _ _ _ _ hfields =>
      cases hfields with
      | absent hkind => exact hkind rfl
      | present _ _ _ hvalue => exact not_agreesUpTo_nil hvalue

/-- An object that stands for an instance is rejected as a shape of the type. -/
theorem coerceValue_shape_eq_error {members : Entries Value}
    (hd : r.definition? typeName = some d) :
    r.coerceValue (.object members) (.tagged typeName) 0 path = .error rejection ↔
      r.coerceShape d members path = .error rejection := by
  simp only [coerceValue, hd]
  exact map_eq_error

/-- A shape that names a declared variant is coerced field by field. -/
theorem coerceShape_eq_coerceFields {members : Entries Value} {variant : Option String}
    {declared : Fields} (hvariant : r.shapeVariant? d members = some variant)
    (hdeclared : d.fieldsOf? variant = some declared) :
    r.coerceShape d members path =
      (r.coerceFields declared (fun name ↦ (r.fieldMembers d members).get? name) path).map
        fun present ↦ ⟨r.tag d.name, variant, present⟩ := by
  obtain ⟨name, own | variants, idField⟩ := d <;>
    simp only [coerceShape, Coercion.shape, candidates_eq_mapValues, Entries.erase_mapValues,
      Entries.get?_mapValues, Option.map_map]
  · cases hvariant
    cases hdeclared
    rfl
  · cases hnamed : members.get? r.config.codec.variantKey with
    | none => simp [shapeVariant?, hnamed] at hvariant
    | some named =>
        cases named with
        | string own =>
            obtain rfl : some own = variant := by simpa [shapeVariant?, hnamed] using hvariant
            have hown : variants.get? own = some declared := hdeclared
            simp only [Option.map_some, Function.comp, hown]
            rfl
        | _ => simp [shapeVariant?, hnamed] at hvariant

/-- A shape that names no declared variant is rejected for what it names. -/
theorem coerceShape_eq_of_named {variants : Entries Fields} {members others : Entries Value}
    (hd : d.shape = .union variants)
    (hnone : ∀ variant, members.get? r.config.codec.variantKey = some (.string variant) →
      variants.get? variant = none)
    (hsame : others.get? r.config.codec.variantKey = members.get? r.config.codec.variantKey) :
    r.coerceShape d others path = r.coerceShape d members path := by
  simp only [coerceShape, Coercion.shape, candidates_eq_mapValues, Entries.get?_mapValues, hd,
    hsame]
  cases hnamed : members.get? r.config.codec.variantKey with
  | none => rfl
  | some named =>
      cases named with
      | string variant => simp [hnone variant hnamed]
      | _ => rfl

/-- Among parts of distinct names, the name of a part tells its position. -/
theorem eq_length_of_nodup {α : Type} {before after : Entries α} {name : String} {value : α}
    {position : Nat} {part : String × α}
    (hdistinct : (Entries.names (before ++ (name, value) :: after)).Nodup)
    (hpart : (before ++ (name, value) :: after)[position]? = some part) (hname : part.1 = name) :
    position = before.length := by
  have hlt : before.length < (Entries.names (before ++ (name, value) :: after)).length := by simp
  have hnames : (Entries.names (before ++ (name, value) :: after))[before.length]?
      = (Entries.names (before ++ (name, value) :: after))[position]? := by
    rw [Entries.names, List.getElem?_map, List.getElem?_map, hpart, Option.map_some, hname]
    simp
  exact ((List.getElem?_inj hlt hdistinct).mp hnames).symm

/-- Below a path, the first step tells where a rejection lies. -/
theorem eq_of_isBelow {step first : PathSegment} {rest : Path}
    (h : rejection.IsBelow (path ++ [step])) (hpath : rejection.path = path ++ first :: rest) :
    step = first := by
  rw [Rejection.IsBelow, hpath, List.prefix_append_right_inj, List.cons_prefix_cons] at h
  exact h.1

/-- The first field that is rejected is the one at which the rejection lies. -/
theorem isFirstFailure_of_coerceFields {before after : Fields} {name : String} {type : FieldType}
    {candidate : String → Option Value} {rest : Path}
    (hdistinct : (Entries.names (before ++ (name, type) :: after)).Nodup)
    (hpath : rejection.path = path ++ .field name :: rest)
    (h : r.coerceFields (before ++ (name, type) :: after) candidate path = .error rejection) :
    IsFirstFailure (fun _ (field : String × FieldType) ↦
        r.coerce field.2 (candidate field.1) (path.field field.1))
      (before ++ (name, type) :: after) before.length rejection := by
  obtain ⟨position, hfirst⟩ := coerceFields_eq_error.mp h
  obtain ⟨field, hfield, hfails⟩ := hfirst.fails
  have hname : field.1 = name :=
    PathSegment.field.inj (eq_of_isBelow (isBelow_of_field hfails) hpath)
  exact eq_length_of_nodup hdistinct hfield hname ▸ hfirst

/-- Fields that agree up to the place of a rejection are rejected alike, if this holds of their
candidates. -/
theorem AgreeOnFields.coerceFields_eq {declared : Fields} {candidate other : String → Option Value}
    (h : r.AgreeOnFields rejection.kind place declared candidate other)
    (hdistinct : declared.names.Nodup)
    (hvalues : ∀ {name value value' rule depth path place}, candidate name = some value →
      r.AgreesUpTo rejection.kind place rule depth value value' → rejection.path = path ++ place →
      r.coerceValue value rule depth path = .error rejection →
      r.coerceValue value' rule depth path = .error rejection)
    (hpath : rejection.path = path ++ place)
    (hrejected : r.coerceFields declared candidate path = .error rejection) :
    r.coerceFields declared other path = .error rejection := by
  refine coerceFields_eq_error.mpr ?_
  -- The fields before the place pass as they did, and the one at the place fails as it did.
  have hreplace : ∀ {before after : Fields} {name type rest},
      declared = before ++ (name, type) :: after → place = .field name :: rest →
      (∀ field ∈ before, other field.1 = candidate field.1) →
      (r.coerce type (candidate name) (path.field name) = .error rejection →
        r.coerce type (other name) (path.field name) = .error rejection) →
      ∃ position, IsFirstFailure (fun _ (field : String × FieldType) ↦
        r.coerce field.2 (other field.1) (path.field field.1)) declared position rejection := by
    rintro before after name type rest rfl rfl hbefore hfield
    have hfirst := isFirstFailure_of_coerceFields hdistinct hpath hrejected
    obtain ⟨field, hat, hfails⟩ := hfirst.fails
    obtain rfl : (name, type) = field := by simpa using hat
    refine ⟨before.length, hfirst.replace (fun _ earlier hearlier => ?_) (hfield hfails)⟩
    rw [hbefore earlier (List.mem_of_getElem? hearlier)]
  cases h with
  | absent _ hbefore hnone hnone' =>
      refine hreplace rfl rfl hbefore fun hfails => ?_
      rwa [hnone', ← hnone]
  | @present rest _ _ name _ _ _ _ _ hbefore hvalue hvalue' hagrees =>
      refine hreplace rfl rfl hbefore fun hfails => ?_
      rw [hvalue] at hfails
      rw [hvalue']
      have hinner : rejection.path = path.field name ++ rest := by
        rw [hpath, Path.field, List.append_assoc, List.singleton_append]
      exact map_eq_error.mpr (hvalues hvalue hagrees hinner (map_eq_error.mp hfails))

/-- A member is rejected below its key. -/
theorem isBelow_of_coerceMember {member : String × Value}
    (h : r.coerceMember typeName idField path member = .error rejection) :
    rejection.IsBelow (path.key member.1) := by
  rcases bind_eq_error.mp h with hvalue | ⟨normal, -, h⟩
  · exact isBelow_of_coerceValue hvalue
  rcases bind_eq_error.mp h with hkey | ⟨_, -, h⟩
  · rw [Rejection.IsBelow, path_of_checkKey hkey]
    exact List.prefix_append _ _
  · cases h

/-- A member is rejected as an instance of its type, or for its key. -/
theorem coerceMember_eq_error {member : String × Value}
    (h : r.coerceMember typeName idField path member = .error rejection) :
    r.coerceValue member.2 (.tagged typeName) 0 (path.key member.1) = .error rejection ∨
      rejection.kind = .keyMismatch ∧ rejection.path = (path.key member.1).field idField := by
  rcases bind_eq_error.mp h with hvalue | ⟨normal, -, h⟩
  · exact .inl hvalue
  rcases bind_eq_error.mp h with hkey | ⟨_, -, h⟩
  · rw [Coercion.checkKey] at hkey
    split at hkey <;> cases hkey
    exact .inr ⟨rfl, rfl⟩
  · cases h

/-- Collections of which one has the same members up to a rejected one, and there one that is
rejected alike, are rejected alike. -/
theorem coerceValue_keyed_of_replace {before after after' : Entries Value} {key : String}
    {value other : Value} {rest : Path}
    (hdistinct : (Entries.names (before ++ (key, value) :: after)).Nodup)
    (hpath : rejection.path = path ++ .key key :: rest)
    (hmember : r.coerceMember typeName idField path (key, value) = .error rejection →
      r.coerceMember typeName idField path (key, other) = .error rejection)
    (hrejected : r.coerceValue (.object (before ++ (key, value) :: after))
      (.keyed typeName (some idField)) 0 path = .error rejection) :
    r.coerceValue (.object (before ++ (key, other) :: after')) (.keyed typeName (some idField)) 0
      path = .error rejection := by
  obtain ⟨position, hfirst⟩ := coerceValue_keyed_eq_error.mp hrejected
  obtain ⟨member, hat, hfails⟩ := hfirst.fails
  have hkey : member.1 = key :=
    PathSegment.key.inj (eq_of_isBelow (isBelow_of_coerceMember hfails) hpath)
  obtain rfl := eq_length_of_nodup hdistinct hat hkey
  obtain rfl : (key, value) = member := by simpa using hat
  exact coerceValue_keyed_eq_error.mpr
    ⟨before.length, hfirst.replace (fun _ _ _ => rfl) (hmember hfails)⟩

/-- Values that agree up to the place of a rejection are rejected alike. -/
theorem AgreesUpTo.coerceValue_eq (hr : r.Checked) {value other : Value}
    (h : r.AgreesUpTo rejection.kind place rule depth value other)
    (hpath : rejection.path = path ++ place)
    (hrejected : r.coerceValue value rule depth path = .error rejection) :
    r.coerceValue other rule depth path = .error rejection := by
  induction value using Value.induction generalizing other rule depth path place with
  | array items ih =>
      cases h with
      | here => exact hrejected
      | @item rest _ depth item other before after after' hitem =>
          obtain ⟨position, hfirst⟩ := coerceValue_array_eq_error.mp hrejected
          obtain ⟨found, hat, hfails⟩ := hfirst.fails
          obtain rfl : position = before.length :=
            PathSegment.index.inj (eq_of_isBelow (isBelow_of_coerceValue hfails) hpath)
          obtain rfl : item = found := by simpa using hat
          have hinner : rejection.path = path.index before.length ++ rest := by
            rw [hpath, Path.index, List.append_assoc, List.singleton_append]
          have hother := ih item (List.mem_append_right _ List.mem_cons_self) hitem hinner hfails
          exact coerceValue_array_eq_error.mpr
            ⟨before.length, hfirst.replace (fun _ _ _ => rfl) hother⟩
  | object members ih =>
      cases h with
      | here => exact hrejected
      | @member rest _ _ key value _ _ _ _ hdistinct hvalue =>
          refine coerceValue_keyed_of_replace hdistinct hpath (fun hfails => ?_) hrejected
          have hinner : rejection.path = path.key key ++ rest := by
            rw [hpath, Path.key, List.append_assoc, List.singleton_append]
          rcases coerceMember_eq_error hfails with hfails | ⟨hkind, hfield⟩
          · exact bind_eq_error.mpr
              (.inl (ih _ (List.mem_append_right _ List.mem_cons_self) hvalue hinner hfails))
          · -- The key is not looked at in a member whose fields may differ.
            rw [hinner, Path.field, List.append_cancel_left_eq] at hfield
            rw [hkind, hfield] at hvalue
            exact absurd hvalue not_agreesUpTo_field
      | misplaced hdistinct => exact coerceValue_keyed_of_replace hdistinct hpath id hrejected
      | variant _ hd hunion hnone hsame =>
          rw [coerceValue_shape_eq_error hd] at hrejected ⊢
          rwa [coerceShape_eq_of_named hunion hnone hsame]
      | shape hd hdeclared hvariant hvariant' hfields =>
          rw [coerceValue_shape_eq_error hd, coerceShape_eq_coerceFields hvariant hdeclared,
            map_eq_error] at hrejected
          rw [coerceValue_shape_eq_error hd, coerceShape_eq_coerceFields hvariant' hdeclared,
            map_eq_error]
          refine hfields.coerceFields_eq ((hr.names hd).distinct hdeclared) ?_ hpath hrejected
          intro name value value' _ _ _ _ hvalue hagrees
          exact ih _ (mem_of_mem_fieldMembers (Entries.mem_of_get? hvalue)) hagrees
  | _ =>
      cases h with
      | here => exact hrejected

/-! ## Every rejection has its place -/

/-- What is not looked into is not rejected for the key of a member. -/
theorem kind_of_atom {value : Value}
    (h : Coercion.atom r value rule depth path = .error rejection) :
    rejection.kind ≠ .keyMismatch := by
  unfold Coercion.atom at h
  repeat' split at h
  all_goals cases h <;> nofun

/-- What is rejected without a look into it agrees with itself. -/
theorem exists_agreesUpTo_of_atom {value : Value}
    (h : Coercion.atom r value rule depth path = .error rejection) :
    ∃ place, rejection.path = path ++ place ∧
      r.AgreesUpTo rejection.kind place rule depth value value :=
  ⟨[], by rw [path_of_atom h, List.append_nil], .here value (kind_of_atom h)⟩

/-- A list is split at any position that it has. -/
theorem exists_eq_append_cons {α : Type} {parts : List α} {position : Nat} {part : α}
    (h : parts[position]? = some part) :
    ∃ before after, parts = before ++ part :: after ∧ before.length = position := by
  obtain ⟨hlt, rfl⟩ := List.getElem?_eq_some_iff.mp h
  refine ⟨parts.take position, parts.drop (position + 1), ?_, by simp; omega⟩
  rw [List.getElem_cons_drop, List.take_append_drop]

/-- Candidates that are rejected agree with themselves up to some place, if each does. -/
theorem exists_agreeOnFields_self {declared : Fields} {candidate : String → Option Value}
    (hvalues : ∀ {name value rule depth path}, candidate name = some value →
      r.coerceValue value rule depth path = .error rejection →
      ∃ place, rejection.path = path ++ place ∧
        r.AgreesUpTo rejection.kind place rule depth value value)
    (h : r.coerceFields declared candidate path = .error rejection) :
    ∃ place, rejection.path = path ++ place ∧
      r.AgreeOnFields rejection.kind place declared candidate candidate := by
  obtain ⟨position, hfirst⟩ := coerceFields_eq_error.mp h
  obtain ⟨⟨name, type⟩, hat, hfails⟩ := hfirst.fails
  obtain ⟨before, after, rfl, -⟩ := exists_eq_append_cons hat
  rcases field_eq_error hfails with ⟨hnone, -, rfl⟩ | ⟨value, hvalue, hfails⟩
  · exact ⟨[.field name], rfl, .absent nofun (fun _ _ => rfl) hnone hnone⟩
  · obtain ⟨place, hpath, hagrees⟩ := hvalues hvalue hfails
    refine ⟨.field name :: place, ?_, .present (fun _ _ => rfl) hvalue hvalue hagrees⟩
    rw [hpath, Path.field, List.append_assoc, List.singleton_append]

/-- A shape that is rejected for its variant agrees with itself. -/
theorem exists_agreesUpTo_of_variant {members : Entries Value}
    (hd : r.definition? typeName = some d) (h : r.RejectsVariant d members path rejection) :
    ∃ place, rejection.path = path ++ place ∧
      r.AgreesUpTo rejection.kind place (.tagged typeName) 0 (.object members)
        (.object members) := by
  refine ⟨[.field r.config.codec.variantKey], ?_⟩
  cases h with
  | missing hunion hnone =>
      exact ⟨rfl, .variant nofun hd hunion (fun _ hnamed => nomatch hnone.symm.trans hnamed) rfl⟩
  | unknown hunion hnamed hunknown =>
      refine ⟨rfl, .variant nofun hd hunion (fun variant hvariant => ?_) rfl⟩
      exact hunknown variant (Option.some.inj (hnamed.symm.trans hvariant))

/-- A value that is rejected agrees with itself up to the place of the rejection. -/
theorem exists_agreesUpTo_self {value : Value} (hkeys : value.Everywhere Value.HasDistinctKeys)
    (h : r.coerceValue value rule depth path = .error rejection) :
    ∃ place, rejection.path = path ++ place ∧
      r.AgreesUpTo rejection.kind place rule depth value value := by
  induction value using Value.induction generalizing rule depth path with
  | array items ih =>
      cases depth with
      | zero => exact exists_agreesUpTo_of_atom h
      | succ depth =>
          rw [Value.everywhere_array] at hkeys
          obtain ⟨position, hfirst⟩ := coerceValue_array_eq_error.mp h
          obtain ⟨item, hat, hfails⟩ := hfirst.fails
          have hmem := List.mem_of_getElem? hat
          obtain ⟨place, hpath, hagrees⟩ := ih item hmem (hkeys.2 item hmem) hfails
          obtain ⟨before, after, rfl, rfl⟩ := exists_eq_append_cons hat
          refine ⟨.index before.length :: place, ?_, .item hagrees⟩
          rw [hpath, Path.index, List.append_assoc, List.singleton_append]
  | object members ih =>
      rw [Value.everywhere_object] at hkeys
      cases depth with
      | succ depth =>
          cases rule with
          | keyed typeName idField => cases idField <;> exact exists_agreesUpTo_of_atom h
          | _ => exact exists_agreesUpTo_of_atom h
      | zero =>
          cases rule with
          | tagged typeName =>
              cases hd : r.definition? typeName with
              | none =>
                  refine exists_agreesUpTo_of_atom ?_
                  rw [coerceValue, hd] at h
                  simpa [Coercion.atom, hd, Value.instance?] using h
              | some d =>
                  rw [coerceValue_shape_eq_error hd] at h
                  rcases coerceShape_eq_error h with
                    hvariant | ⟨variant, declared, hvariant, hdeclared, hfields⟩
                  · exact exists_agreesUpTo_of_variant hd hvariant
                  · have hself := exists_agreeOnFields_self (fun hvalue => ?_) hfields
                    · obtain ⟨place, hpath, hagree⟩ := hself
                      exact ⟨place, hpath, .shape hd hdeclared hvariant hvariant hagree⟩
                    · have hmem := mem_of_mem_fieldMembers (Entries.mem_of_get? hvalue)
                      exact ih _ hmem (hkeys.2 _ hmem)
          | keyed typeName idField =>
              cases idField with
              | none => exact exists_agreesUpTo_of_atom h
              | some idField =>
                  obtain ⟨position, hfirst⟩ := coerceValue_keyed_eq_error.mp h
                  obtain ⟨⟨key, value⟩, hat, hfails⟩ := hfirst.fails
                  have hmem := List.mem_of_getElem? hat
                  obtain ⟨before, after, rfl, rfl⟩ := exists_eq_append_cons hat
                  rcases coerceMember_eq_error hfails with hfails | ⟨hkind, hpath⟩
                  · obtain ⟨place, hpath, hagrees⟩ := ih _ hmem (hkeys.2 _ hmem) hfails
                    refine ⟨.key key :: place, ?_, .member hkeys.1 hagrees⟩
                    rw [hpath, Path.key, List.append_assoc, List.singleton_append]
                  · refine ⟨[.key key, .field idField], ?_, .misplaced hkeys.1 hkind⟩
                    rw [hpath, Path.field, Path.key, List.append_assoc]
                    rfl
          | _ => exact exists_agreesUpTo_of_atom h
  | _ => exact exists_agreesUpTo_of_atom h

/-! ## The first rejection -/

/-- Fields are rejected when some field is. -/
theorem exists_coerceFields_eq_error {declared : Fields} {candidate : String → Option Value} :
    (∃ rejection, r.coerceFields declared candidate path = .error rejection) ↔
      ∃ field ∈ declared, ∃ rejection,
        r.coerce field.2 (candidate field.1) (path.field field.1) = .error rejection := by
  simp only [coerceFields_eq_error]
  constructor
  · rintro ⟨rejection, position, hfirst⟩
    obtain ⟨field, hat, hfails⟩ := hfirst.fails
    exact ⟨field, List.mem_of_getElem? hat, rejection, hfails⟩
  · rintro ⟨field, hmem, rejection, hfails⟩
    obtain ⟨position, hat⟩ := List.mem_iff_getElem?.mp hmem
    have hfirst : ∃ first error, IsFirstFailure (fun _ (field : String × FieldType) ↦
        r.coerce field.2 (candidate field.1) (path.field field.1)) declared first error :=
      exists_isFirstFailure_of_error hat hfails
    obtain ⟨first, error, hfirst⟩ := hfirst
    exact ⟨error, first, hfirst⟩

/-- Validation reports the first rejection: fields are rejected for the first of them in order of
declaration, arrays for their first item, and keyed collections for their first member that is
rejected by itself. What comes after it, at any level of its path, has no effect on it. -/
theorem first_rejection (hr : r.IsBuiltWithCodecs) {variant : Option String} {declared : Fields}
    (hd : r.definition? typeName = some d) (hdeclared : d.fieldsOf? variant = some declared)
    (candidate : String → Option Value) (path : Path) :
    ((∃ rejection, r.coerceFields declared candidate path = .error rejection) ↔
      ∃ field ∈ declared, ∃ rejection,
        r.coerce field.2 (candidate field.1) (path.field field.1) = .error rejection) ∧
    (∀ rejection, r.coerceFields declared candidate path = .error rejection ↔
      ∃ position, IsFirstFailure (fun _ (field : String × FieldType) ↦
        r.coerce field.2 (candidate field.1) (path.field field.1)) declared position rejection) ∧
    (∀ items rule depth path rejection,
      r.coerceValue (.array items) rule (depth + 1) path = .error rejection ↔
        ∃ position, IsFirstFailure (fun position item ↦
          r.coerceValue item rule depth (path.index position)) items position rejection) ∧
    (∀ members memberType idField path rejection,
      r.coerceValue (.object members) (.keyed memberType (some idField)) 0 path
          = .error rejection ↔
        ∃ position, IsFirstFailure (fun _ member ↦ r.coerceMember memberType idField path member)
          members position rejection) ∧
    ∀ rejection, (∀ name value, candidate name = some value →
        value.Everywhere Value.HasDistinctKeys) →
      r.coerceFields declared candidate path = .error rejection →
      ∃ place, rejection.path = path ++ place ∧
        r.AgreeOnFields rejection.kind place declared candidate candidate ∧
        ∀ other, r.AgreeOnFields rejection.kind place declared candidate other →
          r.coerceFields declared other path = .error rejection := by
  refine ⟨exists_coerceFields_eq_error, fun _ => coerceFields_eq_error,
    fun _ _ _ _ _ => coerceValue_array_eq_error, fun _ _ _ _ _ => coerceValue_keyed_eq_error, ?_⟩
  intro rejection hkeys hrejected
  obtain ⟨place, hpath, hself⟩ := exists_agreeOnFields_self
    (fun hvalue => exists_agreesUpTo_self (hkeys _ _ hvalue)) hrejected
  refine ⟨place, hpath, hself, fun other hother => ?_⟩
  exact hother.coerceFields_eq ((hr.checked.names hd).distinct hdeclared)
    (fun _ hagrees => hagrees.coerceValue_eq hr.checked) hpath hrejected

end Registry

namespace Boards

/-- An event that is done with. -/
def closed : Value :=
  .tagged (registry.tag "Event") (some "Closed") [("count", .number (.ofInt 2))]

/-- The candidates for the fields of a board whose second event is a text. -/
def misread : Entries Value :=
  [("tasks", .object []), ("events", .array [closed, .string "Opened", closed]), ("note", .null)]

/-- The same with a misread note, and without the event behind the text. -/
def misreadTwice : Entries Value :=
  [("tasks", .object []), ("events", .array [closed, .string "Opened"]), ("note", closed)]

/-- The text is no event. -/
def noEvent : Rejection :=
  .wrongKind [.field "events", .index 1] "Event" (.string "Opened")

end Boards

/-- A board is rejected for its second event, whatever comes behind it. -/
theorem Boards.coerceFields_misreadTwice :
    registry.coerceFields (boardFields (some "id")) misread.get? [] = .error noEvent ∧
      registry.coerceFields (boardFields (some "id")) misreadTwice.get? [] = .error noEvent := by
  have hd : registry.definition? "Board"
      = some ⟨"Board", .record (boardFields (some "id")), none⟩ := rfl
  have hrejected : registry.coerceFields (boardFields (some "id")) misread.get? []
      = .error noEvent := rfl
  have hclosed : closed.Everywhere Value.HasDistinctKeys :=
    Value.everywhere_tagged.mpr ⟨trivial, by simpa using .of_leaf trivial trivial⟩
  have hkeys : ∀ name value, misread.get? name = some value →
      value.Everywhere Value.HasDistinctKeys := by
    intro name value hvalue
    have hmem := Entries.mem_of_get? hvalue
    simp only [misread, List.mem_cons, Prod.mk.injEq, List.not_mem_nil, or_false] at hmem
    rcases hmem with ⟨-, rfl⟩ | ⟨-, rfl⟩ | ⟨-, rfl⟩
    · exact Value.everywhere_object.mpr ⟨List.nodup_nil, nofun⟩
    · refine Value.everywhere_array.mpr ⟨trivial, ?_⟩
      simpa [hclosed] using .of_leaf trivial trivial
    · exact .of_leaf trivial trivial
  have hfirst := Registry.first_rejection isBuilt_registry.isBuiltWithCodecs hd
    (show TypeDefinition.fieldsOf? _ none = some (boardFields (some "id")) from rfl) misread.get? []
  obtain ⟨place, hpath, -, hother⟩ := hfirst.2.2.2.2 noEvent hkeys hrejected
  obtain rfl : [.field "events", .index 1] = place := hpath
  have hitem : registry.AgreesUpTo .wrongKind [] (.tagged "Event") 0 (.string "Opened")
      (.string "Opened") :=
    .here _ nofun
  have hitems : registry.AgreesUpTo .wrongKind [.index 1] (.tagged "Event") 1
      (.array [closed, .string "Opened", closed]) (.array [closed, .string "Opened"]) :=
    @Registry.AgreesUpTo.item _ _ _ _ _ _ _ [closed] [closed] [] hitem
  have hbefore : ∀ field ∈ (boardFields (some "id")).take 1,
      misreadTwice.get? field.1 = misread.get? field.1 := by
    rintro field (_ | ⟨_, ⟨⟩⟩)
    rfl
  have hfields : registry.AgreeOnFields .wrongKind [.field "events", .index 1]
      (boardFields (some "id")) misread.get? misreadTwice.get? :=
    @Registry.AgreeOnFields.present _ _ _ ((boardFields (some "id")).take 1)
      ((boardFields (some "id")).drop 2) "events"
      { FieldType.ofRule (.tagged "Event") with depth := 1 } _ _ _ _ hbefore rfl rfl hitems
  exact ⟨hrejected, hother misreadTwice.get? hfields⟩

end RecordSchema
