import RecordSchema.Proofs.DecodedPlaces
import RecordSchema.Proofs.Restorable

/-!
# Lists of keyed members

A keyed collection is written as a list of its members, and their keys are found again when the
list is read. Nothing is lost on the way: a list is read exactly if every member has a key and no
two of them have the same, and then as a collection of as many members, in the order of the list,
which validation accepts as it is and which is written as a list of as many items again. The first
member that repeats the key of an earlier one is reported at its own key.
`Registry.KeepsMembers` collects this for one list, and `IsBuilt.keyed_lists_keep_members` says
that it holds of all lists in every built registry.
-/

namespace RecordSchema

open Outcome

namespace Decoding

variable {r : Registry} {typeName idField : String} {path : Path} {index : Nat}

/-- A list of members is read by reading its first part and then the rest, which finds the first
part read. -/
theorem keyedItems_append {found : Entries Value} {before after : List ShapeReader} :
    keyedItems r typeName idField path index found (before ++ after) =
      keyedItems r typeName idField path index found before >>= fun read =>
        keyedItems r typeName idField path (index + before.length) read after := by
  induction before generalizing index found with
  | nil => rfl
  | cons reader before ih =>
      rw [List.cons_append, keyedItems, keyedItems, bind_assoc]
      refine congrArg _ (funext fun i => ?_)
      cases i.keyText? idField with
      | none => rfl
      | some key =>
          dsimp only
          split
          · rfl
          · rw [ih, List.length_cons, Nat.add_right_comm, Nat.add_assoc]

/-- A member with the key of one that was found before is rejected, whatever comes after it. -/
theorem keyedItems_of_has {found : Entries Value} {reader : ShapeReader}
    {after : List ShapeReader} {key : String} (hkey : reader.HasKey typeName idField key)
    (hfound : found.has key) :
    keyedItems r typeName idField path index found (reader :: after) =
      .error (duplicateKey r typeName ((path.index index).field idField) key) := by
  obtain ⟨i, hi, hkey⟩ := hkey
  rw [keyedItems]
  refine bind_eq_error.mpr (.inr ⟨i, mapError_eq_ok.mpr hi, ?_⟩)
  simp only [hkey, if_pos hfound]

end Decoding

namespace Registry

/-- What a JSON value is read as, where the rule is expected inside `depth` arrays. -/
def decodeAt (r : Registry) (json : Json) (rule : Rule) (depth : Nat) (path : Path) :
    Except TypeError Value :=
  (r.reader r.hookRunner json).value rule depth path

/-- The item is decoded as an instance that is filed under this key. -/
def DecodesWithKey (r : Registry) (typeName idField : String) (item : Json) (key : String) : Prop :=
  ∃ i, r.decode typeName item = .ok i ∧ i.keyText? idField = some key

/-- The item is decoded as the member, an instance that is filed under its own key. -/
def DecodesAsMember (r : Registry) (typeName idField : String) (item : Json)
    (member : String × Value) : Prop :=
  ∃ i, r.decode typeName item = .ok i ∧ member.2 = .ofInstance i ∧
    i.keyText? idField = some member.1

/-- Where a collection keyed by the field is expected, a list is read without loss of a member. -/
structure KeepsMembers (r : Registry) (typeName idField : String) (items : List Json)
    (path : Path) : Prop where
  /-- The list is read exactly if its members have different keys. -/
  exists_iff : (∃ value, r.decodeAt (.array items) (.keyed typeName (some idField)) 0 path
      = .ok value) ↔
    ∃ keys : List String, List.Forall₂ (r.DecodesWithKey typeName idField) items keys ∧ keys.Nodup
  /-- The members of the collection are those of the list, in its order and under their own keys. -/
  members : ∀ value,
    r.decodeAt (.array items) (.keyed typeName (some idField)) 0 path = .ok value →
    ∃ members : Entries Value, value = .object members ∧ members.length = items.length ∧
      List.Forall₂ (r.DecodesAsMember typeName idField) items members
  /-- Validation accepts the collection as it is. -/
  accepted : ∀ value,
    r.decodeAt (.array items) (.keyed typeName (some idField)) 0 path = .ok value →
    ∀ other, r.coerceValue value (.keyed typeName (some idField)) 0 other = .ok value
  /-- The collection is written as a list of what its members are written as, in their order. -/
  encoded : ∀ members,
    r.decodeAt (.array items) (.keyed typeName (some idField)) 0 path = .ok (.object members) →
    ∀ owner field, ∃ jsons,
      r.encodeValue owner (.object members) (.typed field (.keyed typeName (some idField)) 0)
        = .ok (.array jsons) ∧
      List.Forall₂ (fun member json => ∃ i, member.2 = .ofInstance i ∧ r.encode i = .ok json)
        members jsons
  /-- The first member that repeats the key of an earlier one is reported at its key. -/
  repeated : ∀ before item after keys key, items = before ++ item :: after →
    List.Forall₂ (r.DecodesWithKey typeName idField) before keys → keys.Nodup →
    r.DecodesWithKey typeName idField item key → key ∈ keys →
    r.decodeAt (.array items) (.keyed typeName (some idField)) 0 path =
      .error (Decoding.duplicateKey r typeName ((path.index before.length).field idField) key)

variable {r : Registry} {typeName idField : String} {items : List Json} {path : Path}

/-- Items that have keys are decoded as members under these keys. -/
theorem exists_members_of_keys {keys : List String}
    (h : List.Forall₂ (r.DecodesWithKey typeName idField) items keys) :
    ∃ members : Entries Value, members.names = keys ∧
      List.Forall₂ (r.DecodesAsMember typeName idField) items members := by
  have hmember : ∀ item key, r.DecodesWithKey typeName idField item key →
      ∃ member, r.DecodesAsMember typeName idField item member ∧ member.1 = key := by
    rintro item key ⟨i, hi, hkey⟩
    exact ⟨(key, .ofInstance i), ⟨i, hi, rfl, hkey⟩, rfl⟩
  obtain ⟨members, hall, hkeys⟩ := forall₂_exists_iff.mp (h.imp hmember)
  exact ⟨members, map_eq_of_forall₂ hkeys, hall⟩

/-- The keys of the members that items are decoded as are those of the items. -/
theorem decodesWithKey_names {members : Entries Value}
    (h : List.Forall₂ (r.DecodesAsMember typeName idField) items members) :
    List.Forall₂ (r.DecodesWithKey typeName idField) items members.names := by
  refine List.forall₂_map_right_iff.mpr (h.imp ?_)
  rintro item member ⟨i, hi, -, hkey⟩
  exact ⟨i, hi, hkey⟩

/-- A list of members is read item by item, and no two of the members have the same key. -/
theorem keyedItems_eq_ok {members : Entries Value} :
    Decoding.keyedItems r typeName idField path 0 []
        (items.map (r.reader r.hookRunner)) = .ok members ↔
      List.Forall₂ (r.DecodesAsMember typeName idField) items members ∧ members.names.Nodup := by
  have hreaders : List.Forall₂ (fun item reader => ∀ {i}, reader.decoded typeName = .ok i ↔
      r.decode typeName item = .ok i) items (items.map (r.reader r.hookRunner)) :=
    forall₂_map_right fun item _ _ => Iff.rfl
  have hempty : (Entries.names ([] : Entries Value)).Nodup := List.nodup_nil
  rw [Decoding.keyedItems_eq_ok hempty hreaders]
  constructor
  · rintro ⟨added, hadded, hall, hdistinct⟩
    rw [List.nil_append] at hadded
    exact ⟨hadded ▸ hall, hdistinct⟩
  · rintro ⟨hall, hdistinct⟩
    exact ⟨members, (List.nil_append _).symm, hall, hdistinct⟩

/-- Where a keyed collection is expected, a list is read as a list of members. -/
theorem decodeAt_keyed :
    r.decodeAt (.array items) (.keyed typeName (some idField)) 0 path =
      (Decoding.keyedItems r typeName idField path 0 []
        (items.map (r.reader r.hookRunner))).map .object := by
  rw [← itemReaders_eq_map]
  rfl

/-- A list is read where a keyed collection is expected by reading its members, which must have
different keys. -/
theorem decodeAt_keyed_eq_ok {value : Value} :
    r.decodeAt (.array items) (.keyed typeName (some idField)) 0 path = .ok value ↔
      ∃ members : Entries Value, value = .object members ∧
        List.Forall₂ (r.DecodesAsMember typeName idField) items members ∧
        members.names.Nodup := by
  rw [decodeAt_keyed, map_eq_ok]
  refine exists_congr fun members => ?_
  rw [keyedItems_eq_ok, and_comm, eq_comm]

/-- A list is read exactly if its members have different keys. -/
theorem exists_decodeAt_keyed_iff :
    (∃ value, r.decodeAt (.array items) (.keyed typeName (some idField)) 0 path = .ok value) ↔
      ∃ keys : List String,
        List.Forall₂ (r.DecodesWithKey typeName idField) items keys ∧ keys.Nodup := by
  simp only [decodeAt_keyed_eq_ok]
  constructor
  · rintro ⟨_, members, -, hall, hdistinct⟩
    exact ⟨members.names, decodesWithKey_names hall, hdistinct⟩
  · rintro ⟨keys, hkeys, hdistinct⟩
    obtain ⟨members, rfl, hall⟩ := exists_members_of_keys hkeys
    exact ⟨.object members, members, rfl, hall, hdistinct⟩

/-- The first member that repeats the key of an earlier one is reported at its key. -/
theorem decodeAt_keyed_of_repeated {before after : List Json} {item : Json} {keys : List String}
    {key : String} (hbefore : List.Forall₂ (r.DecodesWithKey typeName idField) before keys)
    (hdistinct : keys.Nodup) (hitem : r.DecodesWithKey typeName idField item key)
    (hkey : key ∈ keys) :
    r.decodeAt (.array (before ++ item :: after)) (.keyed typeName (some idField)) 0 path =
      .error (Decoding.duplicateKey r typeName ((path.index before.length).field idField) key) := by
  obtain ⟨members, rfl, hall⟩ := exists_members_of_keys hbefore
  have hread : Decoding.keyedItems r typeName idField path 0 []
      (before.map (r.reader r.hookRunner)) = .ok members :=
    keyedItems_eq_ok.mpr ⟨hall, hdistinct⟩
  rw [decodeAt_keyed, List.map_append, List.map_cons, Decoding.keyedItems_append, hread]
  refine map_eq_error.mpr ?_
  rw [List.length_map, Nat.zero_add]
  exact Decoding.keyedItems_of_has hitem (Entries.has_iff.mpr hkey)

/-- A list that was read is accepted as the collection that it was read as. -/
theorem coerceValue_of_decodeAt_keyed (hr : r.Resolved) {value : Value} {other : Path}
    (h : r.decodeAt (.array items) (.keyed typeName (some idField)) 0 path = .ok value) :
    r.coerceValue value (.keyed typeName (some idField)) 0 other = .ok value := by
  rw [decodeAt_keyed] at h
  obtain ⟨members, hmembers, rfl⟩ := map_eq_ok.mp h
  exact (coerceValue_eq_ok hr.checked other).mpr (accepts_of_keyedItems hr hmembers)

/-- A collection that was read from a list is written as a list of as many items. -/
theorem encodeValue_of_decodeAt_keyed (hr : r.Resolved) (hitems : ∀ item ∈ items, item.WellFormed)
    {members : Entries Value}
    (h : r.decodeAt (.array items) (.keyed typeName (some idField)) 0 path = .ok (.object members))
    (owner field : String) :
    ∃ jsons, r.encodeValue owner (.object members) (.typed field (.keyed typeName (some idField)) 0)
        = .ok (.array jsons) ∧
      List.Forall₂ (fun member json => ∃ i, member.2 = .ofInstance i ∧ r.encode i = .ok json)
        members jsons := by
  obtain ⟨_, ⟨⟩, hall, -⟩ := decodeAt_keyed_eq_ok.mp h
  have hencode : ∀ member ∈ members, ∃ written : String × Json, member.1 = written.1 ∧
      ∃ i, member.2 = .ofInstance i ∧ r.encode i = .ok written.2 := by
    intro member hmember
    obtain ⟨item, hitem, i, hi, hinstance, -⟩ := exists_of_mem_right hall hmember
    obtain ⟨-, json, hjson⟩ :=
      ((decode_eq_ok hr).mp hi).restorable hr typeName idField (hitems item hitem)
    exact ⟨(member.1, json), rfl, i, hinstance, (encodeValue_ofInstance_eq_ok.mp hjson).2⟩
  obtain ⟨written, hwritten⟩ := exists_forall₂ hencode
  refine ⟨Entries.values written, map_eq_ok.mpr ⟨written, encodeMembers_eq_ok.mpr ?_, rfl⟩,
    List.forall₂_map_right_iff.mpr (hwritten.imp fun _ _ h => h.2)⟩
  refine hwritten.imp ?_
  rintro member json ⟨hkey, i, hinstance, hjson⟩
  rw [hinstance]
  exact ⟨hkey, encodeValue_ofInstance_eq_ok.mpr ⟨rfl, hjson⟩⟩

/-- In every built registry, whatever collection is keyed by a field, lists are read as it without
loss of a member; and each collection that a field is declared as says by which field it is keyed.
-/
theorem IsBuilt.keyed_lists_keep_members (hr : r.IsBuilt) :
    (∀ typeName d variant declared field target key, r.definition? typeName = some d →
      d.fieldsOf? variant = some declared → field ∈ declared → field.2.rule = .keyed target key →
      ∃ idField, key = some idField) ∧
    ∀ typeName idField items path, (∀ item ∈ items, item.WellFormed) →
      r.KeepsMembers typeName idField items path := by
  constructor
  · intro typeName d variant declared field target key hd hdeclared hfield hrule
    obtain ⟨-, idField, -, hkey, -⟩ := hrule ▸ hr.isClosed.knows hd hdeclared hfield
    exact ⟨idField, hkey⟩
  · intro typeName idField items path hitems
    constructor
    case exists_iff => exact exists_decodeAt_keyed_iff
    case members =>
      intro value hvalue
      obtain ⟨members, hmembers, hall, -⟩ := decodeAt_keyed_eq_ok.mp hvalue
      exact ⟨members, hmembers, hall.length_eq.symm, hall⟩
    case accepted =>
      exact fun value hvalue other => coerceValue_of_decodeAt_keyed hr.resolved hvalue
    case encoded =>
      exact fun members hmembers => encodeValue_of_decodeAt_keyed hr.resolved hitems hmembers
    case repeated =>
      rintro before item after keys key rfl hbefore hdistinct hitem hkey
      exact decodeAt_keyed_of_repeated hbefore hdistinct hitem hkey

end Registry

namespace Boards

/-- The tasks `a`, which is due with the new year, and `b`. -/
def taskItems : List Json :=
  [.object [("id", .string "a"), ("due", .string "2024-01-01T00:00:00Z")],
   .object [("id", .string "b")]]

/-- The tasks as a collection. -/
def keyedTasks : Value :=
  .object [("a", .ofInstance dueTask), ("b", .ofInstance (task "b"))]

/-- Where the tasks of a board are expected, the two are read and accepted, and a third one that is
called like the first is reported. -/
theorem decodeAt_taskItems :
    registry.decodeAt (.array taskItems) (.keyed "Task" (some "id")) 0 [.field "tasks"] =
        .ok keyedTasks ∧
      registry.coerceValue keyedTasks (.keyed "Task" (some "id")) 0 [] = .ok keyedTasks ∧
      registry.decodeAt (.array (taskItems ++ [.object [("id", .string "a")], .null]))
          (.keyed "Task" (some "id")) 0 [.field "tasks"] =
        .error (Decoding.duplicateKey registry "Task" [.field "tasks", .index 2, .field "id"]
          "a") := by
  have hkeeps := (Registry.IsBuilt.keyed_lists_keep_members isBuilt_registry).2 "Task" "id"
  have hread : registry.decodeAt (.array taskItems) (.keyed "Task" (some "id")) 0 [.field "tasks"] =
      .ok keyedTasks := rfl
  have hkeys : List.Forall₂ (registry.DecodesWithKey "Task" "id") taskItems ["a", "b"] :=
    .cons ⟨dueTask, rfl, rfl⟩ (.cons ⟨task "b", rfl, rfl⟩ .nil)
  have hrepeated := (hkeeps (taskItems ++ [.object [("id", .string "a")], .null]) [.field "tasks"]
    (by simp [taskItems])).repeated taskItems _ _ ["a", "b"] "a" rfl hkeys (by decide)
    ⟨task "a", rfl, rfl⟩ (by decide)
  exact ⟨hread, (hkeeps taskItems [.field "tasks"] (by simp [taskItems])).accepted _ hread _,
    hrepeated⟩

end Boards

end RecordSchema
