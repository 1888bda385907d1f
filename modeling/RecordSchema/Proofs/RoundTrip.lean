import RecordSchema.Proofs.Restored
import RecordSchema.Proofs.Session

/-!
# Saving and reading again

What a session was given is decoded again from what it is encoded as, but for the sign of zero, if
its instants are of whole milliseconds and plain years and nothing in it reads as absent
(`decode_encode_of_mem_produced`). Whatever was decoded can be encoded, and decoded again exactly if
its instants are of plain years; it is then rendered as before (`exists_encode_of_decode`).
-/

namespace RecordSchema

open Outcome

namespace Registry

variable {r : Registry} {typeName : String} {json : Json}

/-- A valid instance that is restorable is decoded from what it was encoded as exactly if every
instant inside it has a plain year. It is then decoded as what is stored of it. -/
theorem decode_iff_of_encode (hr : r.Resolved) {i : Instance} (hvalid : r.IsInstance typeName i)
    (hrestorable : (Value.ofInstance i).Everywhere r.IsRestorable) (hjson : r.encode i = .ok json)
    {result : Instance} :
    r.decode typeName json = .ok result ↔
      (Value.ofInstance i).HasPlainDates ∧ result = i.stored := by
  have hvalue : r.encodeValue typeName (.ofInstance i) (.typed typeName (.tagged typeName) 0) =
      .ok json := encodeValue_ofInstance_eq_ok.mpr ⟨rfl, hjson⟩
  rw [decode_eq_ok hr, decodes_iff_of_encodeValue hr hvalid hrestorable hvalue,
    ← Instance.ofInstance_stored, Value.ofInstance_inj]

/-- A sound value is restorable if no variant has a field that hides it and no null inside the value
reads as absent. -/
theorem isRestorable_of_sound {registries : List Registry} {value : Value}
    (hkey : r.HasFreeVariantKey) (hsound : value.Sound registries)
    (hnulls : r.config.codec.nullAsAbsent →
      ∀ i : Instance, (Value.ofInstance i).Inside value → r.HoldsNoNull i) :
    value.Everywhere r.IsRestorable := by
  intro part hpart
  cases part with
  | object members => exact hsound _ hpart
  | tagged tag variant fields =>
      refine ⟨fun habsent => hnulls habsent ⟨tag, variant, fields⟩ hpart, ?_⟩
      intro d declared name hd hname hdeclared hmem
      obtain rfl : variant = some name := hname
      exact absurd hmem (hkey hd hdeclared)
  | _ => trivial

/-- What was decoded can be encoded. What it was encoded as is decoded again exactly if every
instant inside it has a plain year, and then as an instance that is rendered alike in every
layout. -/
theorem exists_encode_of_decode (hr : r.IsBuilt) {shape : Json} (hshape : shape.WellFormed)
    {i : Instance} (hi : r.decode typeName shape = .ok i) :
    ∃ json, r.encode i = .ok json ∧
      ((∃ result, r.decode typeName json = .ok result) ↔
        ∀ date, (Value.date date).Inside (.ofInstance i) → date.HasPlainYear) ∧
      ∀ result, r.decode typeName json = .ok result →
        ∀ config, result.layout.text config = i.layout.text config := by
  have hresolved := hr.resolved
  have hdecodes := (decode_eq_ok hresolved).mp hi
  have hvalid : r.IsInstance typeName i :=
    (hdecodes.meets hresolved (List.mem_singleton_self r) hshape).1
  obtain ⟨hrestorable, json, hvalue⟩ := hdecodes.restorable hresolved typeName typeName hshape
  have hjson : r.encode i = .ok json := (encodeValue_ofInstance_eq_ok.mp hvalue).2
  have hagain := @decode_iff_of_encode r typeName json hresolved i hvalid hrestorable hjson
  refine ⟨json, hjson, ?_, fun result hresult config => ?_⟩
  · rw [← Value.everywhere_dateHas_iff]
    exact ⟨fun ⟨result, hresult⟩ => (hagain.mp hresult).1, fun h => ⟨_, hagain.mpr ⟨h, rfl⟩⟩⟩
  · rw [(hagain.mp hresult).2, Instance.layout_stored]

end Registry

/-- What a session was given is decoded again from what it was encoded as, but for the sign of zero,
if no variant has a field of the name of the variant key, all instants inside it are of whole
milliseconds and plain years, and no null reads as absent. -/
theorem Session.decode_encode_of_mem_produced {s : Session} (h : s.Reachable) {p : Production}
    (hp : p ∈ s.produced) (hkey : p.call.registry.HasFreeVariantKey) {json : Json}
    (hjson : p.call.registry.encode p.result = .ok json)
    (hdates : ∀ date, (Value.date date).Inside (.ofInstance p.result) →
      date.HasPlainYear ∧ date.time.nano % 1000000 = 0)
    (hnulls : p.call.registry.config.codec.nullAsAbsent → ∀ i : Instance,
      (Value.ofInstance i).Inside (.ofInstance p.result) → p.call.registry.HoldsNoNull i) :
    p.call.registry.decode p.result.typeName json = .ok p.result.unsigned := by
  have hsound := h.isSound
  have hresolved := hsound.resolved _ (hsound.registered p hp)
  have hvalid := hsound.valid p hp
  have hrestorable := Registry.isRestorable_of_sound hkey (hsound.sound p hp) hnulls
  have hplain : (Value.ofInstance p.result).HasPlainDates :=
    Value.everywhere_dateHas_iff.mpr fun date hdate => (hdates date hdate).1
  have hstored : p.result.stored = p.result.unsigned :=
    Instance.stored_eq_unsigned
      (Value.everywhere_dateHas_iff.mpr fun date hdate => (hdates date hdate).2)
  have hname : p.result.typeName = p.call.typeName := by
    rw [Instance.typeName, hvalid.tag_eq]
    rfl
  rw [hname, Registry.decode_iff_of_encode hresolved hvalid hrestorable hjson]
  exact ⟨hplain, hstored.symm⟩

namespace Boards

/-- What the board is saved as. -/
def boardJson : Json :=
  .object [
    ("tasks", .array [
      .object [("id", .string "a"), ("due", .string "2024-01-01T00:00:00.000Z")],
      .object [("id", .string "b")]]),
    ("events", .array [
      .object [("@tag", .string "Opened"), ("task", .object [("id", .string "c")])],
      .object [("@tag", .string "Closed"), ("count", .number (.integer 2))]]),
    ("note", .object [("z", .null)])]

theorem encode_board : registry.encode board = .ok boardJson := rfl

/-- The value is not a date other than the new year, and not an instance with a null as its note. -/
def IsPlain : Value → Prop
  | .date i => i = newYear
  | .tagged _ _ fields => Entries.get? "note" fields ≠ some .null
  | _ => True

theorem everywhere_board : (Value.ofInstance board).Everywhere IsPlain := by
  simp [board, dueTask, task, opened, Value.ofInstance, Value.everywhere_tagged,
    Value.everywhere_array, Value.everywhere_object, IsPlain, Entries.get?]
  refine ⟨⟨⟨?_, ?_⟩, ?_⟩, ⟨?_, ?_⟩, ?_⟩ <;> exact .of_leaf trivial (by trivial)

/-- The note is the only field that may hold anything. -/
theorem holdsNoNull {i : Instance} (h : i.get? "note" ≠ some .null) : registry.HoldsNoNull i := by
  intro d declared hd hdeclared field hfield _ hrule _
  suffices field.1 = "note" by rwa [this]
  obtain ⟨entry, hentry, rfl⟩ := Option.map_eq_some_iff.mp hd
  have hmem := Entries.mem_of_get? hentry
  simp only [registry, List.mem_cons, Prod.mk.injEq, List.not_mem_nil, or_false] at hmem
  generalize i.variant = variant at hdeclared
  rcases hmem with ⟨-, rfl⟩ | ⟨-, rfl⟩ | ⟨-, rfl⟩
  · cases variant with
    | none =>
        cases hdeclared
        simp only [boardFields, List.mem_cons, List.not_mem_nil, or_false] at hfield
        rcases hfield with rfl | rfl | rfl
        · cases hrule
        · cases hrule
        · rfl
    | some variant => cases hdeclared
  · cases variant with
    | none => cases hdeclared
    | some variant =>
        have hvariant := Entries.mem_of_get? hdeclared
        simp only [eventVariants, List.mem_cons, Prod.mk.injEq, List.not_mem_nil, or_false]
          at hvariant
        rcases hvariant with ⟨-, rfl⟩ | ⟨-, rfl⟩ <;> cases List.mem_singleton.mp hfield <;>
          cases hrule
  · cases variant with
    | none =>
        cases hdeclared
        simp only [taskFields, List.mem_cons, List.not_mem_nil, or_false] at hfield
        rcases hfield with rfl | rfl <;> cases hrule
    | some variant => cases hdeclared

/-- The board is decoded again from what it is encoded as. -/
theorem decode_boardJson :
    session.Reachable ∧ ⟨decodeBoard, board⟩ ∈ session.produced ∧ registry.HasFreeVariantKey ∧
      registry.encode board = .ok boardJson ∧
      (∀ date, (Value.date date).Inside (.ofInstance board) →
        date.HasPlainYear ∧ date.time.nano % 1000000 = 0) ∧
      (∀ i : Instance, (Value.ofInstance i).Inside (.ofInstance board) →
        registry.HoldsNoNull i) ∧
      registry.decode "Board" boardJson = .ok board.unsigned := by
  have hmem : ⟨decodeBoard, board⟩ ∈ session.produced := List.mem_cons_self
  have hdates : ∀ date, (Value.date date).Inside (.ofInstance board) →
      date.HasPlainYear ∧ date.time.nano % 1000000 = 0 := by
    intro date hdate
    obtain rfl : date = newYear := everywhere_board _ hdate
    decide
  have hnulls : ∀ i : Instance, (Value.ofInstance i).Inside (.ofInstance board) →
      registry.HoldsNoNull i := fun i hi => holdsNoNull (everywhere_board _ hi)
  exact ⟨reachable_session, hmem, hasFreeVariantKey_registry, encode_board, hdates, hnulls,
    Session.decode_encode_of_mem_produced reachable_session hmem hasFreeVariantKey_registry
      encode_board hdates fun _ => hnulls⟩

/-- The board that was decoded can be encoded, and decoded again since its only date is of a plain
year. -/
theorem encode_decoded_board :
    registry.IsBuilt ∧ shape.WellFormed ∧ registry.decode "Board" shape = .ok board ∧
      ∃ json, registry.encode board = .ok json ∧
        ((∃ result, registry.decode "Board" json = .ok result) ↔
          ∀ date, (Value.date date).Inside (.ofInstance board) → date.HasPlainYear) ∧
        ∀ result, registry.decode "Board" json = .ok result →
          ∀ config, result.layout.text config = board.layout.text config :=
  ⟨isBuilt_registry, wellFormed_shape, rfl,
    Registry.exists_encode_of_decode isBuilt_registry wellFormed_shape rfl⟩

/-- A task that is due in the last hour of the year 9999, as a clock shows it that is an hour behind
universal time. -/
def lateShape : Json :=
  .object [("id", .string "a"), ("due", .string "9999-12-31T23:59:59-01:00")]

/-- The task, which is due in the year 10000. -/
def lateTask : Instance where
  tag := registry.tag "Task"
  variant := none
  fields := [("id", .string "a"),
    ("due", .date ⟨⟨10000, 1, 1⟩, ⟨0, 59, 59, 0⟩, by decide, by decide⟩)]

theorem encode_lateTask : registry.encode lateTask =
    .ok (.object [("id", .string "a"), ("due", .string "+10000-01-01T00:59:59.000Z")]) := rfl

/-- Not everything that was decoded is decoded again from what it is encoded as: a date of the year
10000 is written with a sign, and no date is read from it. -/
theorem not_forall_decode_encode :
    ¬ ∀ (r : Registry) (typeName : String) (shape : Json) (i : Instance), r.IsBuilt →
      shape.WellFormed → r.decode typeName shape = .ok i → ∃ json result,
        r.encode i = .ok json ∧ r.decode typeName json = .ok result ∧
          ∀ config, result.layout.text config = i.layout.text config := by
  intro h
  have hshape : lateShape.WellFormed := by simp [lateShape]
  obtain ⟨json, result, hjson, hresult, -⟩ :=
    h registry "Task" lateShape lateTask isBuilt_registry hshape rfl
  cases encode_lateTask.symm.trans hjson
  cases hresult

end Boards

end RecordSchema
