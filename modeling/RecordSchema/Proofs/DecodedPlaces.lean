import RecordSchema.Proofs.FirstRejection
import RecordSchema.Proofs.Places
import RecordSchema.Proofs.Tags

/-!
# The places that rejections of JSON values name

Decoding makes the path of a rejection in three ways. What is read for the fields of a shape is
checked with paths that start at the shape, a nested shape is read with paths of its own, and these
are moved below the place of the nested shape, level by level. The path that comes out leads to the
place in the JSON value that was meant (`explains_of_decode`). Nothing is hidden by the name of a
variant here.
-/

namespace RecordSchema

open Outcome

/-- The rejection, of something that stands at the base. -/
def Rejection.below (base : Path) (rejection : Rejection) : Rejection :=
  { rejection with path := base ++ rejection.path }

/-- What is moved below one path and then below another is moved below both. -/
theorem Rejection.below_below (base path : Path) (rejection : Rejection) :
    (rejection.below path).below base = rejection.below (base ++ path) := by
  simp only [below, List.append_assoc]

section Steps

theorem Path.append_field (base path : Path) (name : String) :
    (base ++ path).field name = base ++ path.field name :=
  List.append_assoc base path _

theorem Path.append_index (base path : Path) (position : Nat) :
    (base ++ path).index position = base ++ path.index position :=
  List.append_assoc base path _

theorem Path.append_key (base path : Path) (key : String) :
    (base ++ path).key key = base ++ path.key key :=
  List.append_assoc base path _

variable {root json : Json} {path : Path}

/-- An item stands below its array. -/
theorem Json.at?_item {jsons : List Json} {position : Nat}
    (hat : root.at? path = some (.array jsons)) (h : jsons[position]? = some json) :
    root.at? (path.index position) = some json :=
  (at?_append hat (.index position)).trans h

/-- A member stands below its object. -/
theorem Json.at?_member {members : Entries Json} {name : String} (hkeys : members.names.Nodup)
    (hat : root.at? path = some (.object members)) (h : (name, json) ∈ members) :
    root.at? (path.key name) = some json :=
  (at?_append hat (.key name)).trans (Entries.get?_of_mem hkeys h)

end Steps

/-- A rejection of a nested instance is moved below the path of the instance. -/
theorem Decoding.rejection?_moveBelow (path : Path) (error : TypeError) :
    (moveBelow path error).rejection? = error.rejection?.map (·.below path) := by
  cases error <;> rfl

/-! ## Readers that fail -/

/-- What is read is an instance that is filed under this key. -/
def ShapeReader.HasKey (reader : ShapeReader) (typeName idField key : String) : Prop :=
  ∃ i, reader.decoded typeName = .ok i ∧ i.keyText? idField = some key

namespace Decoding

variable {r : Registry} {rule : Rule} {depth index : Nat} {path : Path}
  {typeName idField : String} {error : TypeError}

/-- Items fail to be read where one of them does. -/
theorem items_eq_error {readers : List ShapeReader}
    (h : items rule depth path index readers = .error error) :
    ∃ (position : Nat) (reader : ShapeReader), readers[position]? = some reader ∧
      reader.value rule depth (path.index (index + position)) = .error error := by
  induction readers generalizing index with
  | nil => cases h
  | cons reader readers ih =>
      rcases bind_eq_error.mp h with hfirst | ⟨_, -, h⟩
      · exact ⟨0, reader, rfl, hfirst⟩
      rcases bind_eq_error.mp h with hothers | ⟨_, -, h⟩
      · obtain ⟨position, other, hother, hfails⟩ := ih hothers
        exact ⟨position + 1, other, hother, by rwa [Nat.add_right_comm] at hfails⟩
      · cases h

/-- Items that are read are read at their own positions. -/
theorem exists_reader_of_items {readers : List ShapeReader} {values : List Value}
    (h : items rule depth path index readers = .ok values) {position : Nat} {value : Value}
    (hvalue : values[position]? = some value) :
    ∃ (reader : ShapeReader) (other : Path), readers[position]? = some reader ∧
      reader.value rule depth other = .ok value := by
  induction readers generalizing index values position with
  | nil =>
      cases h
      cases hvalue
  | cons reader readers ih =>
      obtain ⟨first, hfirst, h⟩ := bind_eq_ok.mp h
      obtain ⟨others, hothers, h⟩ := bind_eq_ok.mp h
      obtain rfl := pure_eq_ok.mp h
      cases position with
      | zero => exact ⟨reader, path.index index, rfl, Option.some.inj hvalue ▸ hfirst⟩
      | succ position => exact ih hothers hvalue

/-- The members of a keyed collection fail to be read where one of them does. -/
theorem keyedMembers_eq_error {readers : Entries ShapeReader}
    (h : keyedMembers typeName path readers = .error error) :
    ∃ reader ∈ readers, nested reader.2 typeName (path.key reader.1) = .error error := by
  induction readers with
  | nil => cases h
  | cons reader readers ih =>
      rcases bind_eq_error.mp h with hfirst | ⟨_, -, h⟩
      · exact ⟨reader, List.mem_cons_self, hfirst⟩
      rcases bind_eq_error.mp h with hothers | ⟨_, -, h⟩
      · obtain ⟨other, hother, hfails⟩ := ih hothers
        exact ⟨other, List.mem_cons_of_mem _ hother, hfails⟩
      · cases h

/-- A list of members is rejected where one of them is, or where one has the key of an earlier one
or one that was found before. -/
theorem keyedItems_eq_error {found : Entries Value} {readers : List ShapeReader}
    {rejection : Rejection}
    (h : keyedItems r typeName idField path index found readers = .error error)
    (hrejection : error.rejection? = some rejection) :
    ∃ (position : Nat) (reader : ShapeReader), readers[position]? = some reader ∧
      (nested reader typeName (path.index (index + position)) = .error error ∨
        ∃ key, reader.HasKey typeName idField key ∧
          error = duplicateKey r typeName ((path.index (index + position)).field idField) key ∧
          (found.has key ∨ ∃ (earlier : Nat) (other : ShapeReader), earlier < position ∧
            readers[earlier]? = some other ∧ other.HasKey typeName idField key)) := by
  induction readers generalizing index found with
  | nil => cases h
  | cons reader readers ih =>
      rcases bind_eq_error.mp h with hfirst | ⟨i, hi, h⟩
      · exact ⟨0, reader, rfl, .inl hfirst⟩
      have hi := mapError_eq_ok.mp hi
      split at h
      · cases h
        cases hrejection
      next key hkey =>
          split at h
          next hfound =>
              cases h
              exact ⟨0, reader, rfl, .inr ⟨key, ⟨i, hi, hkey⟩, rfl, .inl hfound⟩⟩
          next =>
              obtain ⟨position, other, hother, hfails⟩ := ih h
              rw [Nat.add_right_comm] at hfails
              refine ⟨position + 1, other, hother, hfails.imp_right ?_⟩
              rintro ⟨repeated, hrepeated, herror, hearlier⟩
              refine ⟨repeated, hrepeated, herror, ?_⟩
              rcases hearlier with hfound | ⟨earlier, before, hlt, hbefore, hsame⟩
              · rw [Entries.has_iff, Entries.names_append, List.mem_append] at hfound
                rcases hfound with hfound | hnew
                · exact .inl (Entries.has_iff.mpr hfound)
                · -- The first member is the earlier one.
                  obtain rfl : repeated = key := List.mem_singleton.mp hnew
                  exact .inr ⟨0, reader, position.succ_pos, rfl, i, hi, hkey⟩
              · exact .inr ⟨earlier + 1, before, Nat.succ_lt_succ hlt, hbefore, hsame⟩

end Decoding

namespace Registry

variable {r : Registry} {run : HookRunner} {root json : Json} {start : Place}
  {base path : Path} {rule : Rule} {depth index : Nat} {typeName idField : String}
  {rejection : Rejection} {error : TypeError}

/-! ## What is known of a place -/

/-- What is expected at the place refers to declared types only. -/
def KnowsPlace (r : Registry) : Place → Prop
  | .value rule _ => r.Knows rule
  | .shape d => ∃ typeName, r.definition? typeName = some d
  | .fields declared => ∀ field ∈ declared, r.Knows field.2.rule
  | .field type => r.Knows type.rule
  | .variant _ => True

/-- Below a place where declared types are expected, the same holds of every place. -/
theorem Governs.knowsPlace (hr : r.IsClosed) {subject : Subject} {place : Place}
    (h : r.Governs subject start path place) (hstart : r.KnowsPlace start) :
    r.KnowsPlace place := by
  induction h with
  | start => exact hstart
  | item _ _ ih => exact ih
  | keyedItem _ _ ih | member _ _ ih => exact Knows.of_keyed ih
  | shape _ hd => exact ⟨_, hd⟩
  | variantKey => trivial
  | fields _ _ _ _ hdeclared ih =>
      obtain ⟨typeName, hd⟩ := ih
      exact fun field hfield => hr.knows hd hdeclared hfield
  | field _ hfield ih => exact ih _ hfield
  | candidate _ ih => exact ih

/-! ## Rejections of what was read -/

/-- What is read from a JSON value and then rejected is decoded as nothing. -/
theorem not_decodes_of_coerceValue_eq_error (hr : r.Resolved) {value : Value} {other : Path}
    (hread : (r.reader run json).value rule depth other = .ok value)
    (h : r.coerceValue value rule depth path = .error rejection) :
    ¬ ∃ normal, r.Decodes rule depth json normal := by
  intro hdecodes
  obtain ⟨normal, hdecodes⟩ := hdecodes
  obtain ⟨_, hvalue, haccepts⟩ := (reader_isFaithful hr run json).value.mpr hdecodes
  cases hread.symm.trans hvalue
  cases h.symm.trans ((coerceValue_eq_ok hr.checked path).mpr haccepts)

/-- A JSON value that is read as its plain value and rejected without a look into it is unfit for
its place. -/
theorem explains_of_plain (hr : r.Resolved) {value : Value} {other : Path}
    (hat : root.at? (base ++ path) = some json)
    (hgoverns : r.Governs (.ofJson r root) start (base ++ path) (.value rule depth))
    (hread : (r.reader run json).value rule depth other = .ok value)
    (hplain : value = .ofJson json) (hkind : rejection.kind ≠ .unresolved)
    (hatom : Coercion.atom r value rule depth path = .error rejection)
    (h : r.coerceValue value rule depth path = .error rejection) :
    r.Explains (.ofJson r root) start (rejection.below base) := by
  have hnone := not_decodes_of_coerceValue_eq_error hr hread h
  obtain ⟨hkinds, hpath, hactual⟩ := shape_of_atom hatom hkind
  obtain ⟨_, kind, expected, _⟩ := rejection
  obtain rfl := hpath
  obtain rfl := hactual
  obtain rfl := hplain
  exact .unfit hkinds hgoverns hat hnone

/-- The instances that a list of members is read as have the keys that they are filed under. -/
theorem accepts_of_keyedItems (hr : r.Resolved) {jsons : List Json} {read : Entries Value}
    (h : Decoding.keyedItems r typeName idField path 0 [] (jsons.map (r.reader run)) = .ok read) :
    r.Accepts (.keyed typeName (some idField)) 0 (.object read) (.object read) := by
  have hreaders : List.Forall₂ (fun json (reader : ShapeReader) =>
      ∀ {i}, reader.decoded typeName = .ok i ↔ r.Decodes (.tagged typeName) 0 json (.ofInstance i))
      jsons (jsons.map (r.reader run)) :=
    forall₂_map_right fun json _ => (reader_isFaithful hr run json).decoded
  have hempty : (Entries.names ([] : Entries Value)).Nodup := List.nodup_nil
  obtain ⟨_, rfl, hall, -⟩ := (Decoding.keyedItems_eq_ok
    (R := fun json i => r.Decodes (.tagged typeName) 0 json (.ofInstance i)) hempty hreaders).mp h
  have hinstances : ∀ member ∈ read, (∃ i : Instance, member.2 = .ofInstance i) ∧
      r.Accepts (.tagged typeName) 0 member.2 member.2 := by
    intro member hmember
    obtain ⟨json, -, i, hdecodes, hinstance, -⟩ := exists_of_mem_right hall hmember
    exact hinstance ▸ hdecodes.accepts_self
  refine (accepts_keyed_instances_iff hinstances).mpr ⟨rfl, fun member hmember => ?_⟩
  obtain ⟨json, -, i, -, hinstance, hkey⟩ := exists_of_mem_right hall hmember
  rw [hinstance]
  exact hkey

/-- The instances that a keyed object is read as are rejected only for their keys. -/
theorem explains_of_keyedMembers (hr : r.Resolved) {members : Entries Json}
    {read : Entries Value} {idField : Option String} {other : Path} (hkeys : members.names.Nodup)
    (hat : root.at? (base ++ path) = some (.object members))
    (hgoverns : r.Governs (.ofJson r root) start (base ++ path)
      (.value (.keyed typeName idField) 0))
    (hread : Decoding.keyedMembers typeName other (r.memberReaders run members) = .ok read)
    (hkind : rejection.kind ≠ .unresolved)
    (h : r.coerceValue (.object read) (.keyed typeName idField) 0 path = .error rejection) :
    r.Explains (.ofJson r root) start (rejection.below base) := by
  cases idField with
  | none =>
      cases h
      exact absurd rfl hkind
  | some idField =>
      have hreaders : List.Forall₂ (fun json reader => json.1 = reader.1 ∧
          ∀ {i}, reader.2.decoded typeName = .ok i ↔
            r.Decodes (.tagged typeName) 0 json.2 (.ofInstance i))
          members (members.mapValues (r.reader run)) :=
        forall₂_map_right fun member _ => ⟨rfl, (reader_isFaithful hr run member.2).decoded⟩
      rw [memberReaders_eq_mapValues, Decoding.keyedMembers_eq_ok
        (R := fun json i => r.Decodes (.tagged typeName) 0 json (.ofInstance i)) hreaders] at hread
      obtain ⟨position, hfirst⟩ := coerceValue_keyed_eq_error.mp h
      obtain ⟨⟨key, member⟩, hmember, hrejected⟩ := hfirst.fails
      obtain ⟨json, hjson, hkey, i, hdecodes, hinstance⟩ :=
        exists_of_mem_right hread (List.mem_of_getElem? hmember)
      obtain ⟨name, json⟩ := json
      obtain rfl : name = key := hkey
      obtain rfl : member = .ofInstance i := hinstance
      have hthere := Json.at?_member hkeys hat hjson
      have haccepts := (coerceValue_eq_ok hr.checked (path.key name)).mpr hdecodes.accepts_self.2
      replace hrejected := (bind_eq_error_of_ok haccepts).mp hrejected
      rcases bind_eq_error.mp hrejected with hkey | ⟨_, -, hreturn⟩
      · rw [Coercion.checkKey] at hkey
        split at hkey
        · cases hkey
        next hne =>
            cases hkey
            rw [Rejection.below, ← Path.append_field, ← Path.append_key]
            exact .otherKey hgoverns hthere hdecodes hne
      · cases hreturn

/-- A text that is read as a date is rejected for nothing, and other texts are plain. -/
theorem explains_of_string (hr : r.Resolved) {s : String} {value : Value} {other : Path}
    (hat : root.at? (base ++ path) = some (.string s))
    (hgoverns : r.Governs (.ofJson r root) start (base ++ path) (.value rule depth))
    (hread : (r.reader run (.string s)).value rule depth other = .ok value)
    (hkind : rejection.kind ≠ .unresolved)
    (h : r.coerceValue value rule depth path = .error rejection) :
    r.Explains (.ofJson r root) start (rejection.below base) := by
  by_cases hdate : rule = .date ∧ depth = 0
  · obtain ⟨rfl, rfl⟩ := hdate
    have hvalue : value = ((Instant.parse? s).map .date).getD (.string s) :=
      (Except.ok.inj hread).symm
    cases hparse : Instant.parse? s with
    | none =>
        obtain rfl : value = .string s := by rw [hvalue, hparse, Option.map_none, Option.getD]
        exact explains_of_plain hr hat hgoverns hread rfl hkind h h
    | some i =>
        rw [hvalue, hparse] at h
        cases h
  · obtain rfl : value = .string s :=
      Except.ok.inj (hread.symm.trans (Decoding.value_leaf_string hdate))
    exact explains_of_plain hr hat hgoverns hread rfl hkind h h

/-- What a JSON value is read as is rejected for something that is wrong with the JSON value where
the rejection says. -/
theorem explains_of_read (hr : r.Resolved) (hjson : json.WellFormed) {value : Value} {other : Path}
    (hat : root.at? (base ++ path) = some json)
    (hgoverns : r.Governs (.ofJson r root) start (base ++ path) (.value rule depth))
    (hread : (r.reader run json).value rule depth other = .ok value)
    (hkind : rejection.kind ≠ .unresolved)
    (h : r.coerceValue value rule depth path = .error rejection) :
    r.Explains (.ofJson r root) start (rejection.below base) := by
  induction json using Json.induction generalizing rule depth path other value with
  | array jsons ih =>
      cases depth with
      | succ depth =>
          rw [reader, itemReaders_eq_map] at hread
          obtain ⟨values, hvalues, rfl⟩ := map_eq_ok.mp hread
          obtain ⟨position, hfirst⟩ := coerceValue_array_eq_error.mp h
          obtain ⟨item, hitem, hrejected⟩ := hfirst.fails
          obtain ⟨_, other, hreader, hread⟩ := Decoding.exists_reader_of_items hvalues hitem
          rw [List.getElem?_map] at hreader
          obtain ⟨json, hposition, rfl⟩ := Option.map_eq_some_iff.mp hreader
          have hmem := List.mem_of_getElem? hposition
          have hthere := Json.at?_item hat hposition
          have hplace := hgoverns.item position
          rw [Path.append_index] at hthere hplace
          exact ih json hmem (Json.wellFormed_array.mp hjson json hmem) hthere hplace hread
            hrejected
      | zero =>
          cases rule with
          | keyed typeName idField =>
              obtain ⟨read, hitems, rfl⟩ := map_eq_ok.mp hread
              cases idField with
              | none =>
                  cases h
                  exact absurd rfl hkind
              | some idField =>
                  rw [itemReaders_eq_map] at hitems
                  have haccepts := accepts_of_keyedItems hr hitems
                  cases h.symm.trans ((coerceValue_eq_ok hr.checked path).mpr haccepts)
          | _ =>
              obtain rfl : value = .ofJson (.array jsons) := (Except.ok.inj hread).symm
              exact explains_of_plain hr hat hgoverns hread rfl hkind h h
  | object members ih =>
      obtain ⟨hkeys, -⟩ := Json.wellFormed_object.mp hjson
      cases depth with
      | succ depth =>
          obtain rfl : value = .ofJson (.object members) := by
            cases rule <;> exact (Except.ok.inj hread).symm
          refine explains_of_plain hr hat hgoverns hread rfl hkind ?_ h
          rw [Value.ofJson] at h ⊢
          cases rule with
          | keyed typeName idField => cases idField <;> exact h
          | _ => exact h
      | zero =>
          cases rule with
          | tagged typeName =>
              obtain ⟨i, hi, rfl⟩ := map_eq_ok.mp hread
              have hdecodes : r.Decodes (.tagged typeName) 0 (.object members) (.ofInstance i) :=
                (reader_isFaithful hr run (.object members)).decoded.mp (mapError_eq_ok.mp hi)
              cases h.symm.trans ((coerceValue_eq_ok hr.checked path).mpr hdecodes.accepts_self.2)
          | keyed typeName idField =>
              obtain ⟨read, hmembers, rfl⟩ := map_eq_ok.mp hread
              exact explains_of_keyedMembers hr hkeys hat hgoverns hmembers hkind h
          | _ =>
              obtain rfl : value = .ofJson (.object members) := (Except.ok.inj hread).symm
              exact explains_of_plain hr hat hgoverns hread rfl hkind h h
  | string s => exact explains_of_string hr hat hgoverns hread hkind h
  | _ =>
      obtain rfl := Except.ok.inj hread
      exact explains_of_plain hr hat hgoverns hread rfl hkind h h

/-! ## Rejections while reading -/

/-- What the error rejects, if it does, is explained by what stands at the base or below it. -/
def ExplainsBelow (r : Registry) (root : Json) (start : Place) (base : Path) (error : TypeError) :
    Prop :=
  ∀ rejection, error.rejection? = some rejection → rejection.kind ≠ .unresolved →
    r.Explains (.ofJson r root) start (rejection.below base)

/-- What is rejected in a nested instance is explained where it is moved. -/
theorem ExplainsBelow.moveBelow (h : r.ExplainsBelow root start (base ++ path) error) :
    r.ExplainsBelow root start base (Decoding.moveBelow path error) := by
  intro rejection hrejection hkind
  rw [Decoding.rejection?_moveBelow] at hrejection
  obtain ⟨original, horiginal, rfl⟩ := Option.map_eq_some_iff.mp hrejection
  rw [Rejection.below_below]
  exact h original horiginal hkind

/-- What is rejected in a field is explained whatever type it is reported against. -/
theorem ExplainsBelow.reportAgainst (h : r.ExplainsBelow root start base error)
    (d : TypeDefinition) (variant : Option String) :
    r.ExplainsBelow root start base (Decoding.reportAgainst d variant error) :=
  fun rejection hrejection =>
    h rejection ((Decoding.rejection?_reportAgainst ..).symm.trans hrejection)

/-- Two members of a list with the same key are rejected for that. -/
theorem explainsBelow_duplicateKey {jsons : List Json} {key : String} {earlier position : Nat}
    {first second : Json} {i j : Instance}
    (hgoverns : r.Governs (.ofJson r root) start (base ++ path)
      (.value (.keyed typeName (some idField)) 0))
    (hat : root.at? (base ++ path) = some (.array jsons)) (hlt : earlier < position)
    (hfirst : jsons[earlier]? = some first) (hsecond : jsons[position]? = some second)
    (hi : r.Decodes (.tagged typeName) 0 first (.ofInstance i))
    (hj : r.Decodes (.tagged typeName) 0 second (.ofInstance j))
    (hikey : i.keyText? idField = some key) (hjkey : j.keyText? idField = some key) :
    r.ExplainsBelow root start base
      (Decoding.duplicateKey r typeName ((path.index position).field idField) key) := by
  intro rejection hrejection _
  cases hrejection
  rw [Rejection.below, ← Path.append_field, ← Path.append_index]
  exact .repeatedKey hgoverns hlt (Json.at?_item hat hfirst) (Json.at?_item hat hsecond) hi hj hikey
    hjkey

/-- What is rejected while the JSON value is read, as the value of a field or as an instance, is
explained wherever the value stands. -/
structure ReadsExplained (r : Registry) (run : HookRunner) (root : Json) (start : Place)
    (json : Json) : Prop where
  value : ∀ {rule depth base path error}, root.at? (base ++ path) = some json →
    r.Governs (.ofJson r root) start (base ++ path) (.value rule depth) →
    (r.reader run json).value rule depth path = .error error → r.ExplainsBelow root start base error
  decoded : ∀ {typeName base error}, root.at? base = some json →
    r.Governs (.ofJson r root) start base (.value (.tagged typeName) 0) →
    (r.reader run json).decoded typeName = .error error → r.ExplainsBelow root start base error

/-- A nested instance is rejected below its path. -/
theorem ReadsExplained.nested (h : r.ReadsExplained run root start json)
    (hat : root.at? (base ++ path) = some json)
    (hgoverns : r.Governs (.ofJson r root) start (base ++ path) (.value (.tagged typeName) 0))
    (hfails : Decoding.nested (r.reader run json) typeName path = .error error) :
    r.ExplainsBelow root start base error := by
  obtain ⟨original, horiginal, rfl⟩ := mapError_eq_error.mp hfails
  exact (h.decoded hat hgoverns horiginal).moveBelow

section Objects

variable {members : Entries Json} {d : TypeDefinition} {variant : Option String}
  {declared : Fields}

/-- What cannot be read for a field is rejected below the shape that has it. -/
theorem explainsBelow_of_members (hat : root.at? base = some (.object members))
    (hgoverns : r.Governs (.ofJson r root) start base (.fields declared))
    (h : ∀ member ∈ members, r.ReadsExplained run root start member.2)
    (hfails : Decoding.members r d variant (r.memberReaders run members) declared = .error error) :
    r.ExplainsBelow root start base error := by
  rw [Decoding.members_eq_collect] at hfails
  obtain ⟨before, ⟨name, type⟩, after, rfl, -, hfield⟩ := Entries.collect_eq_error hfails
  obtain ⟨_, original, hreader, -, horiginal, rfl⟩ := Decoding.member_eq_error.mp hfield
  rw [memberReaders_eq_mapValues, Entries.get?_mapValues] at hreader
  obtain ⟨json, hjson, rfl⟩ := Option.map_eq_some_iff.mp hreader
  have hthere : root.at? (base ++ [.field name]) = some json :=
    (Json.at?_append hat (.field name)).trans hjson
  have hplace : r.Governs (.ofJson r root) start (base ++ [.field name]) (.field type) :=
    hgoverns.field List.mem_append_cons_self
  refine ExplainsBelow.reportAgainst ?_ d variant
  exact (h _ (Entries.mem_of_get? hjson)).value hthere hplace.candidate horiginal

/-- What is read for the fields and then rejected is explained below the shape that has them. -/
theorem explainsBelow_of_construct (hr : r.Resolved) (hjson : (Json.object members).WellFormed)
    (hat : root.at? base = some (.object members))
    (hgoverns : r.Governs (.ofJson r root) start base (.fields declared))
    (hd : r.definition? typeName = some d) (hdeclared : d.fieldsOf? variant = some declared)
    {decoded : Entries Value}
    (hdecoded : Decoding.members r d variant (r.memberReaders run members) declared = .ok decoded)
    (hfails : r.construct typeName variant decoded.get? = .error error) :
    r.ExplainsBelow root start base error := by
  obtain ⟨rejection, hrejected, rfl⟩ := (construct_eq_error hd hdeclared).mp hfails
  obtain ⟨⟨name, type⟩, hmem, hfield⟩ := exists_field_of_fields_eq_error hrejected
  rw [Decoding.members_eq_collect,
    Entries.collect_eq_ok ((hr.checked.names hd).distinct hdeclared)] at hdecoded
  have hmember := hdecoded.2 _ hmem
  rw [memberReaders_eq_mapValues, Entries.get?_mapValues] at hmember
  have hstep : root.at? (base.field name) = members.get? name :=
    Json.at?_append hat (.field name)
  have hplace : r.Governs (.ofJson r root) start (base.field name) (.field type) :=
    hgoverns.field hmem
  rintro _ ⟨⟩ hkind
  rcases hfield with ⟨hnone, hrequired, rfl⟩ | ⟨value, hvalue, hrejected⟩
  · rw [hnone] at hmember
    rcases Decoding.member_eq_none.mp hmember with habsent | ⟨found, -, hread⟩
    · exact .missingField hplace hrequired (hstep.trans (Option.map_eq_none_iff.mp habsent))
    · -- Only for optional fields a null reads as absent.
      cases hnull : found.json with
      | null =>
          rw [hnull, readsAsAbsent, Bool.and_eq_true] at hread
          exact absurd hread.2 hrequired
      | _ =>
          rw [hnull] at hread
          cases hread
  · rw [hvalue] at hmember
    obtain ⟨_, hreader, -, hread⟩ := Decoding.member_eq_some.mp hmember
    obtain ⟨json, hget, rfl⟩ := Option.map_eq_some_iff.mp hreader
    have hwell := (Json.wellFormed_object.mp hjson).2 _ (Entries.mem_of_get? hget)
    exact explains_of_read hr hwell (hstep.trans hget) hplace.candidate hread hkind hrejected

/-- What is rejected while an object is read as an instance is explained, if this holds of its
members. -/
theorem explainsBelow_of_decoded (hr : r.Resolved) (hjson : (Json.object members).WellFormed)
    (hat : root.at? base = some (.object members))
    (hgoverns : r.Governs (.ofJson r root) start base (.value (.tagged typeName) 0))
    (h : ∀ member ∈ members, r.ReadsExplained run root start member.2)
    (hfails : (r.reader run (.object members)).decoded typeName = .error error) :
    r.ExplainsBelow root start base error := by
  intro rejection hrejection
  have hfields := fields_of_byCodec_eq_error (hr.hasStandardCodec typeName) hfails hrejection
  obtain ⟨d, variant, declared, hd, hvariant, hdeclared, hwalk⟩ :=
    exists_walk_of_fields_eq_error hfields hrejection
  have hplace : r.Governs (.ofJson r root) start base (.fields declared) :=
    (hgoverns.shape hd hat).fields hat rfl hvariant hdeclared
  rcases hwalk with hread | ⟨decoded, hdecoded, hconstruct⟩
  · exact explainsBelow_of_members hat hplace h hread rejection hrejection
  · exact explainsBelow_of_construct hr hjson hat hplace hd hdeclared hdecoded hconstruct
      rejection hrejection

end Objects

/-- What is no object is not rejected as an instance: it is none at all. -/
theorem explainsBelow_of_not_object (hr : r.Resolved) (hjson : json.members? = none)
    (hfails : (r.reader run json).decoded typeName = .error error) :
    r.ExplainsBelow root start base error := by
  intro rejection hrejection
  rw [decoded_reader, hjson] at hfails
  cases fields_of_byCodec_eq_error (hr.hasStandardCodec typeName) hfails hrejection
  cases hrejection

/-- A list that is read as a keyed collection is rejected for one of its items, or for two that have
the same key. -/
theorem explainsBelow_of_keyedItems (hr : r.Resolved) (hclosed : r.IsClosed)
    (hstart : r.KnowsPlace start) {jsons : List Json} {idField : Option String}
    (hat : root.at? (base ++ path) = some (.array jsons))
    (hgoverns : r.Governs (.ofJson r root) start (base ++ path)
      (.value (.keyed typeName idField) 0))
    (h : ∀ json ∈ jsons, r.ReadsExplained run root start json)
    (hfails : Decoding.keyedItems r typeName (idField.getD defaultIdField) path 0 []
      (jsons.map (r.reader run)) = .error error) :
    r.ExplainsBelow root start base error := by
  -- Every declared collection knows the field that it is keyed by.
  obtain ⟨_, key, -, rfl, -⟩ : r.Knows (.keyed typeName idField) :=
    hgoverns.knowsPlace hclosed hstart
  intro rejection hrejection
  obtain ⟨position, reader, hreader, hwrong⟩ := Decoding.keyedItems_eq_error hfails hrejection
  rw [Nat.zero_add] at hwrong
  rw [List.getElem?_map] at hreader
  obtain ⟨json, hposition, rfl⟩ := Option.map_eq_some_iff.mp hreader
  rcases hwrong with hnested | ⟨repeated, ⟨j, hj, hjkey⟩, rfl, hfound | hearlier⟩
  · have hthere := Json.at?_item hat hposition
    have hplace := hgoverns.keyedItem position
    rw [Path.append_index] at hthere hplace
    exact (h json (List.mem_of_getElem? hposition)).nested hthere hplace hnested rejection
      hrejection
  · cases hfound
  · obtain ⟨earlier, other, hlt, hother, i, hi, hikey⟩ := hearlier
    rw [List.getElem?_map] at hother
    obtain ⟨first, hfirst, rfl⟩ := Option.map_eq_some_iff.mp hother
    have hidecodes := (reader_isFaithful hr run first).decoded.mp hi
    have hjdecodes := (reader_isFaithful hr run json).decoded.mp hj
    exact explainsBelow_duplicateKey hgoverns hat hlt hfirst hposition hidecodes hjdecodes hikey
      hjkey rejection hrejection

/-- What is rejected while a JSON value is read is explained wherever the value stands. -/
theorem readsExplained (hr : r.Resolved) (hclosed : r.IsClosed) (hstart : r.KnowsPlace start)
    (hjson : json.WellFormed) : r.ReadsExplained run root start json := by
  induction json using Json.induction with
  | array jsons ih =>
      replace ih := fun item hitem => ih item hitem (Json.wellFormed_array.mp hjson item hitem)
      refine ⟨fun {rule depth base path error} hat hgoverns hfails => ?_,
        fun _ _ hfails => explainsBelow_of_not_object hr rfl hfails⟩
      rw [reader, itemReaders_eq_map] at hfails
      cases depth with
      | succ depth =>
          obtain ⟨position, _, hreader, hitem⟩ :=
            Decoding.items_eq_error (map_eq_error.mp hfails)
          rw [Nat.zero_add] at hitem
          rw [List.getElem?_map] at hreader
          obtain ⟨json, hposition, rfl⟩ := Option.map_eq_some_iff.mp hreader
          have hthere := Json.at?_item hat hposition
          have hplace := hgoverns.item position
          rw [Path.append_index] at hthere hplace
          exact (ih json (List.mem_of_getElem? hposition)).value hthere hplace hitem
      | zero =>
          cases rule with
          | keyed typeName idField =>
              exact explainsBelow_of_keyedItems hr hclosed hstart hat hgoverns ih
                (map_eq_error.mp hfails)
          | _ => cases hfails
  | object members ih =>
      obtain ⟨hkeys, hmembers⟩ := Json.wellFormed_object.mp hjson
      replace ih := fun member hmember => ih member hmember (hmembers member hmember)
      refine ⟨fun {rule depth base path error} hat hgoverns hfails => ?_,
        fun hat hgoverns hfails => explainsBelow_of_decoded hr hjson hat hgoverns ih hfails⟩
      cases depth with
      | succ depth => cases rule <;> cases hfails
      | zero =>
          cases rule with
          | tagged typeName =>
              obtain ⟨original, horiginal, rfl⟩ := mapError_eq_error.mp (map_eq_error.mp hfails)
              exact (explainsBelow_of_decoded hr hjson hat hgoverns ih horiginal).moveBelow
          | keyed typeName idField =>
              obtain ⟨⟨key, reader⟩, hreader, hnested⟩ :=
                Decoding.keyedMembers_eq_error (map_eq_error.mp hfails)
              rw [memberReaders_eq_mapValues] at hreader
              obtain ⟨⟨name, json⟩, hmember, heq⟩ := List.mem_map.mp hreader
              cases heq
              have hthere := Json.at?_member hkeys hat hmember
              have hplace := hgoverns.member name
              rw [Path.append_key] at hthere hplace
              exact (ih _ hmember).nested hthere hplace hnested
          | _ => cases hfails
  | string s =>
      refine ⟨fun {rule depth base path error} _ _ hfails => ?_,
        fun _ _ hfails => explainsBelow_of_not_object hr rfl hfails⟩
      by_cases hdate : rule = .date ∧ depth = 0
      · obtain ⟨rfl, rfl⟩ := hdate
        cases hfails
      · cases (Decoding.value_leaf_string hdate).symm.trans hfails
  | _ =>
      refine ⟨fun _ _ hfails => ?_, fun _ _ hfails => explainsBelow_of_not_object hr rfl hfails⟩
      cases hfails

/-- A JSON value that is rejected is so for something that is wrong with it where the rejection
says. -/
theorem explains_of_decode (hr : r.IsBuilt) (hd : ∃ d, r.definition? typeName = some d)
    (hjson : json.WellFormed) (h : r.decode typeName json = .error error)
    (hrejection : error.rejection? = some rejection) :
    r.Explains (.ofJson r json) (.value (.tagged typeName) 0) rejection := by
  obtain ⟨d, hd⟩ := hd
  have hkind : rejection.kind ≠ .unresolved := by
    have hresolved := isResolved_decode hr.isClosed hr.resolved hd error h
    cases error <;> cases hrejection
    exact hresolved
  have hread : r.ReadsExplained r.hookRunner json (.value (.tagged typeName) 0)
      json := readsExplained hr.resolved hr.isClosed ⟨d, hd⟩ hjson
  exact hread.decoded rfl .start h rejection hrejection hkind

end Registry

end RecordSchema
