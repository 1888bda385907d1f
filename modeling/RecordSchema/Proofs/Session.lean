import Mathlib.Logic.Relation
import RecordSchema.Handle.Record
import RecordSchema.Handle.Union
import RecordSchema.Proofs.Readers

/-!
# Sessions

A session builds registries and calls, in any order, the operations of record, union and variant
handles that give an instance. The values that it hands to them are plain data, instances that it
was given before, and anything inside these or made of these. Every instance that a session ever
gets is valid for the type of the registry that it was asked of (`isInstance_of_mem_produced`).
-/

namespace RecordSchema

open Outcome

/-- A call of an operation that gives an instance, on a handle. -/
inductive Call where
  | constructRecord (h : RecordHandle) (arguments : List (Option Value))
  | readRecord (h : RecordHandle) (shape : Value)
  | updateRecord (h : RecordHandle) (i : Instance) (changes : List (String × Option Value))
  | decodeRecord (h : RecordHandle) (shape : Json)
  | readUnion (h : UnionHandle) (shape : Value)
  | updateUnion (h : UnionHandle) (i : Instance) (changes : List (String × Option Value))
  | decodeUnion (h : UnionHandle) (shape : Json)
  | constructVariant (h : VariantHandle) (arguments : List (Option Value))
  | readVariant (h : VariantHandle) (shape : Value)
  | updateVariant (h : VariantHandle) (i : Instance) (changes : List (String × Option Value))

namespace Call

/-- The registry that is asked for an instance. -/
def registry : Call → Registry
  | constructRecord h _ | readRecord h _ | updateRecord h _ _ | decodeRecord h _ => h.registry
  | readUnion h _ | updateUnion h _ _ | decodeUnion h _ => h.registry
  | constructVariant h _ | readVariant h _ | updateVariant h _ _ => h.union.registry

/-- The type that is asked for an instance. -/
def typeName : Call → String
  | constructRecord h _ | readRecord h _ | updateRecord h _ _ | decodeRecord h _ => h.name
  | readUnion h _ | updateUnion h _ _ | decodeUnion h _ => h.name
  | constructVariant h _ | readVariant h _ | updateVariant h _ _ => h.union.name

/-- What the call comes to. -/
def outcome : Call → Except TypeError Instance
  | constructRecord h arguments => h.construct arguments
  | readRecord h shape => h.fromShape shape
  | updateRecord h i changes => h.update i changes
  | decodeRecord h shape => h.decode shape
  | readUnion h shape => h.fromShape shape
  | updateUnion h i changes => h.update i changes
  | decodeUnion h shape => h.decode shape
  | constructVariant h arguments => h.construct arguments
  | readVariant h shape => h.fromShape shape
  | updateVariant h i changes => h.update i changes

/-- The values that are handed over. -/
def values : Call → List Value
  | constructRecord _ arguments | constructVariant _ arguments => arguments.filterMap id
  | readRecord _ shape | readUnion _ shape | readVariant _ shape => [shape]
  | updateRecord _ i changes | updateUnion _ i changes | updateVariant _ i changes =>
      .ofInstance i :: changes.filterMap (·.2)
  | decodeRecord _ _ | decodeUnion _ _ => []

/-- The JSON values that are handed over. -/
def shapes : Call → List Json
  | decodeRecord _ shape | decodeUnion _ shape => [shape]
  | _ => []

end Call

/-- A call and the instance that it gave. -/
structure Production where
  call : Call
  result : Instance

/-- The registries that were built, and the instances that they gave, in order. -/
structure Session where
  registries : List Registry
  produced : List Production

/-- The values that can be made when these instances are there: plain data whose objects have
distinct keys, what is inside the instances, and arrays and objects of such values. -/
inductive Offered (instances : List Instance) : Value → Prop where
  | null : Offered instances .null
  | bool (b) : Offered instances (.bool b)
  | number (x) : Offered instances (.number x)
  | string (s) : Offered instances (.string s)
  | date (i) : Offered instances (.date i)
  | array {items} : (∀ item ∈ items, Offered instances item) → Offered instances (.array items)
  | object {members} : (Entries.names members).Nodup →
      (∀ member ∈ members, Offered instances member.2) → Offered instances (.object members)
  | inside {i part} : i ∈ instances → part.Inside (.ofInstance i) → Offered instances part

namespace Session

/-- Nothing built yet. -/
def empty : Session :=
  ⟨[], []⟩

/-- The instances that were given. -/
def instances (s : Session) : List Instance :=
  s.produced.map (·.result)

/-- A registry is built, with the number that is next, or a call on a handle of one of the
registries gives an instance. -/
inductive Step : Session → Session → Prop where
  | build {s : Session} {d : Declarations} {r} : d.IsStandard →
      d.build s.registries.length = .ok r →
      Step s { s with registries := s.registries ++ [r] }
  | call {s : Session} {call : Call} {i} : call.registry ∈ s.registries →
      (∀ value ∈ call.values, Offered s.instances value) →
      (∀ shape ∈ call.shapes, shape.WellFormed) → call.outcome = .ok i →
      Step s { s with produced := s.produced ++ [⟨call, i⟩] }

/-- Some run leads to the session. -/
def Reachable (s : Session) : Prop :=
  Relation.ReflTransGen Step empty s

/-- What steps keep: the registries were built in the order of their numbers, what they gave is
valid, and every value is sound. -/
structure IsSound (s : Session) : Prop where
  built : ∀ r ∈ s.registries, r.IsBuilt
  numbered : s.registries.map (·.number) = List.range s.registries.length
  registered : ∀ p ∈ s.produced, p.call.registry ∈ s.registries
  valid : ∀ p ∈ s.produced, p.call.registry.IsInstance p.call.typeName p.result
  sound : ∀ p ∈ s.produced, (Value.ofInstance p.result).Sound s.registries

end Session

/-! ## Calls give valid instances -/

section Calls

variable {registries : List Registry}

/-- What can be made of sound instances is sound. -/
theorem Offered.sound {instances : List Instance} {value : Value} (h : Offered instances value)
    (hsound : ∀ i ∈ instances, (Value.ofInstance i).Sound registries) :
    value.Sound registries := by
  induction h with
  | array _ ih => exact Value.everywhere_array.mpr ⟨trivial, ih⟩
  | object hdistinct _ ih => exact Value.everywhere_object.mpr ⟨hdistinct, ih⟩
  | inside hmem hpart => exact (hsound _ hmem).inside hpart
  | _ => exact .of_leaf trivial trivial

/-- An instance that can be made of sound instances, and that belongs to a type of a registry, is
valid for the type if the registries have different numbers. -/
theorem Offered.isInstance_of_owns {instances : List Instance} {i : Instance}
    (h : Offered instances (.ofInstance i))
    (hsound : ∀ i ∈ instances, (Value.ofInstance i).Sound registries) {r : Registry}
    (hnumbers : ∀ other ∈ registries, other.number = r.number → other = r) {typeName : String}
    (howns : r.owns typeName i) : r.IsInstance typeName i := by
  have hi := h.sound hsound
  obtain ⟨tag, variant, fields⟩ := i
  obtain rfl : tag = r.tag typeName := of_decide_eq_true howns
  exact Registry.isInstance_of_sound hnumbers hi

/-- An instance that belongs to a handle is the one that was handed over. -/
theorem RecordHandle.eq_of_owned {h : RecordHandle} {i owned : Instance}
    (ho : h.owned i = .ok owned) : owned = i := by
  rw [RecordHandle.owned] at ho
  split at ho
  · exact (Except.ok.inj ho).symm
  · cases ho

/-- An instance that belongs to a union is the one that was handed over. -/
theorem UnionHandle.eq_of_owned {h : UnionHandle} {i owned : Instance}
    (ho : h.owned (.ofInstance i) = .ok owned) : owned = i := by
  rw [UnionHandle.owned, Value.ofInstance, Value.instance?] at ho
  split at ho
  next heq =>
      cases heq
      split at ho
      · exact (Except.ok.inj ho).symm
      · cases ho
  next heq => cases heq

/-- The handle of a variant belongs to the union that it was taken from. -/
theorem UnionHandle.union_of_variant {h : UnionHandle} {name : String} {v : VariantHandle}
    (hv : h.variant name = .ok v) : v.union = h := by
  rw [UnionHandle.variant] at hv
  split at hv
  · cases hv
    rfl
  · cases hv

/-- The candidates for an update are the fields of the instance and the changes. -/
theorem sound_of_mergeChanges {typeName : String} {declared : Fields} {i : Instance}
    {changes : List (String × Option Value)} {merged : Entries Value}
    (h : mergeChanges typeName declared i.fields changes = .ok merged)
    (hi : (Value.ofInstance i).Sound registries)
    (hchanges : ∀ value ∈ changes.filterMap (·.2), value.Sound registries) :
    ∀ name, ∀ value ∈ merged.get? name, value.Sound registries := by
  intro name value hvalue
  rcases mem_of_mergeChanges h (Entries.mem_of_get? hvalue) with hpresent | hchange
  · exact (Value.everywhere_tagged.mp hi).2 _ hpresent
  · exact hchanges value (List.mem_filterMap.mpr ⟨_, hchange, rfl⟩)

/-- A call that is handed a JSON value decodes it. -/
theorem Call.outcome_of_mem_shapes {call : Call} {shape : Json} (h : shape ∈ call.shapes) :
    call.outcome = call.registry.decode call.typeName shape := by
  cases call with
  | decodeRecord | decodeUnion =>
      rw [List.mem_singleton.mp h]
      rfl
  | _ => cases h

variable (hchecked : ∀ other ∈ registries, other.Checked)
  (hnumbers : ∀ r ∈ registries, ∀ other ∈ registries, other.number = r.number → other = r)

include hchecked hnumbers

/-- What a variant constructs from sound candidates is a valid instance of its union. -/
theorem VariantHandle.isInstance_of_constructFrom {h : VariantHandle} {i : Instance}
    {candidate : String → Option Value} (hmem : h.union.registry ∈ registries)
    (hcandidate : ∀ name, ∀ value ∈ candidate name, value.Sound registries)
    (hi : h.constructFrom candidate = .ok i) :
    h.union.registry.IsInstance h.union.name i ∧ (Value.ofInstance i).Sound registries :=
  Registry.isInstance_of_construct (hchecked _ hmem) hmem (hnumbers _ hmem) hcandidate hi

/-- What a variant reads from a sound shape is a valid instance of its union. -/
theorem VariantHandle.isInstance_of_fromShape {h : VariantHandle} {i : Instance} {shape : Value}
    (hmem : h.union.registry ∈ registries) (hshape : shape.Sound registries)
    (hi : h.fromShape shape = .ok i) :
    h.union.registry.IsInstance h.union.name i ∧ (Value.ofInstance i).Sound registries := by
  have hmembers : ∀ {members : Entries Value},
      (∀ member ∈ members, member.2.Sound registries) →
      h.constructFrom (fun field ↦ members.get? field) = .ok i →
      h.union.registry.IsInstance h.union.name i ∧ (Value.ofInstance i).Sound registries :=
    fun hsound => h.isInstance_of_constructFrom hchecked hnumbers hmem
      fun name value hvalue => hsound _ (Entries.mem_of_get? hvalue)
  cases shape with
  | object members => exact hmembers (Value.everywhere_object.mp hshape).2 hi
  | tagged tag variant fields =>
      rw [VariantHandle.fromShape] at hi
      split at hi
      next howns =>
          cases hi
          rw [VariantHandle.owns, Bool.and_eq_true] at howns
          obtain rfl : tag = h.union.registry.tag h.union.name := of_decide_eq_true howns.1
          exact ⟨Registry.isInstance_of_sound (hnumbers _ hmem) hshape, hshape⟩
      next => exact hmembers (Value.everywhere_tagged.mp hshape).2 hi
  | _ => cases hi

/-- What a variant makes of a sound instance and sound changes is a valid instance of its union. -/
theorem VariantHandle.isInstance_of_update {h : VariantHandle} {i result : Instance}
    {changes : List (String × Option Value)} (hmem : h.union.registry ∈ registries)
    (hi : (Value.ofInstance i).Sound registries)
    (hchanges : ∀ value ∈ changes.filterMap (·.2), value.Sound registries)
    (hresult : h.update i changes = .ok result) :
    h.union.registry.IsInstance h.union.name result ∧
      (Value.ofInstance result).Sound registries := by
  rw [VariantHandle.update] at hresult
  split at hresult
  · cases hresult
  · obtain ⟨merged, hmerged, hresult⟩ := bind_eq_ok.mp hresult
    exact h.isInstance_of_constructFrom hchecked hnumbers hmem
      (sound_of_mergeChanges hmerged hi hchanges) hresult

/-- A call that does not decode gives a valid instance of the type that it asks for, if it is made
on a handle of one of the registries and with sound values. -/
theorem Call.isInstance_of_outcome_of_shapes_eq_nil {call : Call} {i : Instance}
    (hmem : call.registry ∈ registries) (hshapes : call.shapes = [])
    (hvalues : ∀ value ∈ call.values, value.Sound registries) (hi : call.outcome = .ok i) :
    call.registry.IsInstance call.typeName i ∧ (Value.ofInstance i).Sound registries := by
  have hr := hchecked _ hmem
  have hargument : ∀ {arguments : List (Option Value)},
      (∀ value ∈ arguments.filterMap id, value.Sound registries) →
      ∀ {typeName declared candidate}, positional typeName declared arguments = .ok candidate →
      ∀ name, ∀ value ∈ candidate name, value.Sound registries :=
    fun hsound _ _ _ hpositional name value hvalue =>
      hsound value (List.mem_filterMap.mpr ⟨_, mem_of_positional hpositional hvalue, rfl⟩)
  cases call with
  | constructRecord h arguments =>
      obtain ⟨candidate, hcandidate, hi⟩ := bind_eq_ok.mp hi
      exact Registry.isInstance_of_construct hr hmem (hnumbers _ hmem)
        (hargument hvalues hcandidate) hi
  | readRecord h shape =>
      have hshape := hvalues shape List.mem_cons_self
      exact Registry.isInstance_of_adapt hchecked hmem (hnumbers _ hmem) h.is_declared hshape hi
  | updateRecord h i changes =>
      obtain ⟨hinstance, hchanges⟩ := List.forall_mem_cons.mp hvalues
      obtain ⟨owned, howned, hi⟩ := bind_eq_ok.mp hi
      obtain ⟨merged, hmerged, hi⟩ := bind_eq_ok.mp hi
      rw [RecordHandle.eq_of_owned howned] at hmerged
      exact Registry.isInstance_of_construct hr hmem (hnumbers _ hmem)
        (sound_of_mergeChanges hmerged hinstance hchanges) hi
  | decodeRecord h shape => cases hshapes
  | readUnion h shape =>
      have hshape := hvalues shape List.mem_cons_self
      exact Registry.isInstance_of_adapt hchecked hmem (hnumbers _ hmem) h.is_declared hshape hi
  | updateUnion h i changes =>
      obtain ⟨hinstance, hchanges⟩ := List.forall_mem_cons.mp hvalues
      obtain ⟨owned, howned, hi⟩ := bind_eq_ok.mp hi
      obtain ⟨variant, hvariant, hupdate⟩ := bind_eq_ok.mp hi
      rw [UnionHandle.eq_of_owned howned] at hupdate
      obtain rfl := UnionHandle.union_of_variant hvariant
      exact variant.isInstance_of_update hchecked hnumbers hmem hinstance hchanges hupdate
  | decodeUnion h shape => cases hshapes
  | constructVariant h arguments =>
      obtain ⟨candidate, hcandidate, hi⟩ := bind_eq_ok.mp hi
      exact h.isInstance_of_constructFrom hchecked hnumbers hmem (hargument hvalues hcandidate) hi
  | readVariant h shape =>
      exact h.isInstance_of_fromShape hchecked hnumbers hmem (hvalues shape List.mem_cons_self) hi
  | updateVariant h i changes =>
      obtain ⟨hinstance, hchanges⟩ := List.forall_mem_cons.mp hvalues
      exact h.isInstance_of_update hchecked hnumbers hmem hinstance hchanges hi

omit hchecked in
/-- A call on a handle of one of the registries, with sound values, gives a valid instance of the
type that it asks for, if types have the standard codec. -/
theorem Call.isInstance_of_outcome (hresolved : ∀ other ∈ registries, other.Resolved)
    {call : Call} {i : Instance} (hmem : call.registry ∈ registries)
    (hvalues : ∀ value ∈ call.values, value.Sound registries)
    (hshapes : ∀ shape ∈ call.shapes, shape.WellFormed) (hi : call.outcome = .ok i) :
    call.registry.IsInstance call.typeName i ∧ (Value.ofInstance i).Sound registries := by
  have hr := hresolved _ hmem
  cases hcall : call.shapes with
  | nil =>
      have hchecked : ∀ other ∈ registries, other.Checked :=
        fun other hother => (hresolved other hother).checked
      exact isInstance_of_outcome_of_shapes_eq_nil hchecked hnumbers hmem hcall hvalues hi
  | cons shape shapes =>
      have hshape : shape ∈ call.shapes := hcall ▸ List.mem_cons_self
      rw [outcome_of_mem_shapes hshape] at hi
      exact ((Registry.decode_eq_ok hr).mp hi).meets hr hmem (hshapes shape hshape)

end Calls

/-! ## Runs -/

/-- Among registries that were built in the order of their numbers, those of one number are one
registry. -/
theorem Registry.eq_of_numbered {registries : List Registry}
    (h : registries.map (·.number) = List.range registries.length) :
    ∀ r ∈ registries, ∀ other ∈ registries, other.number = r.number → other = r := by
  intro r hr other hother heq
  have hdistinct : (registries.map (·.number)).Nodup := h ▸ List.nodup_range
  exact List.inj_on_of_nodup_map hdistinct hother hr heq

/-- One more registry, with the number that is next, keeps registries in the order of their
numbers. -/
theorem Registry.numbered_append {registries : List Registry} {r : Registry}
    (h : registries.map (·.number) = List.range registries.length)
    (hr : r.number = registries.length) :
    (registries ++ [r]).map (·.number) = List.range (registries ++ [r]).length := by
  rw [List.map_append, h, List.map_singleton, hr, List.length_append, List.length_singleton,
    List.range_succ]

/-- A value stays sound when there are more registries. -/
theorem Value.Sound.mono {registries more : List Registry} {value : Value}
    (h : value.Sound registries) (hsub : registries ⊆ more) : value.Sound more := by
  refine h.imp fun part hpart => ?_
  cases part with
  | tagged tag variant fields =>
      obtain ⟨r, hr, hvalid⟩ := hpart
      exact ⟨r, hsub hr, hvalid⟩
  | _ => exact hpart

namespace Session

variable {s t : Session}

theorem IsSound.resolved (h : s.IsSound) : ∀ r ∈ s.registries, r.Resolved :=
  fun r hr => (h.built r hr).resolved

/-- Registries of one number are one registry. -/
theorem IsSound.eq_of_number_eq (h : s.IsSound) :
    ∀ r ∈ s.registries, ∀ other ∈ s.registries, other.number = r.number → other = r :=
  Registry.eq_of_numbered h.numbered

theorem isSound_empty : empty.IsSound :=
  ⟨by simp [empty], by simp [empty], by simp [empty], by simp [empty], by simp [empty]⟩

/-- The registry that is built has the number that it was built with. -/
theorem number_of_build {d : Declarations} {number : Nat} {r : Registry}
    (h : d.build number = .ok r) : r.number = number := by
  obtain ⟨_, _, h⟩ := bind_eq_ok.mp h
  obtain ⟨_, _, h⟩ := bind_eq_ok.mp h
  obtain ⟨_, _, h⟩ := bind_eq_ok.mp h
  rw [← pure_eq_ok.mp h]

/-- Each step keeps a session sound. -/
theorem IsSound.step (h : s.IsSound) (hstep : Step s t) : t.IsSound := by
  cases hstep with
  | @build d r hd hbuild =>
      -- Nothing is produced, and what was produced stays sound under one registry more.
      have hnumber := number_of_build hbuild
      have hsub : s.registries ⊆ s.registries ++ [r] := List.subset_append_left ..
      refine ⟨?_, Registry.numbered_append h.numbered hnumber,
        fun p hp => hsub (h.registered p hp), h.valid, fun p hp => (h.sound p hp).mono hsub⟩
      intro other hother
      rcases List.mem_append.mp hother with hother | hother
      · exact h.built other hother
      · rw [List.mem_singleton.mp hother]
        exact ⟨d, hd, hnumber.symm ▸ hbuild⟩
  | @call call i hmem hvalues hshapes hi =>
      -- No registry is added; only the new production has to be looked at.
      have hinstances : ∀ i ∈ s.instances, (Value.ofInstance i).Sound s.registries :=
        List.forall_mem_map.mpr h.sound
      obtain ⟨hvalid, hsound⟩ := Call.isInstance_of_outcome h.eq_of_number_eq h.resolved hmem
        (fun value hvalue => (hvalues value hvalue).sound hinstances) hshapes hi
      have hproduced : ∀ {P : Production → Prop}, (∀ p ∈ s.produced, P p) → P ⟨call, i⟩ →
          ∀ p ∈ s.produced ++ [⟨call, i⟩], P p := by
        intro P hold hnew p hp
        rcases List.mem_append.mp hp with hp | hp
        · exact hold p hp
        · exact List.mem_singleton.mp hp ▸ hnew
      exact ⟨h.built, h.numbered, hproduced h.registered hmem, hproduced h.valid hvalid,
        hproduced h.sound hsound⟩

/-- Every session that a run leads to is sound. -/
theorem Reachable.isSound (h : s.Reachable) : s.IsSound := by
  induction h with
  | refl => exact isSound_empty
  | tail _ hstep ih => exact ih.step hstep

/-- Whatever a session has been given is a valid instance of the type that was asked for, in the
registry that was asked. -/
theorem isInstance_of_mem_produced (h : s.Reachable) {p : Production} (hp : p ∈ s.produced) :
    p.call.registry.IsInstance p.call.typeName p.result :=
  h.isSound.valid p hp

end Session

/-! ## Boards of tasks

A board holds tasks under their identifiers and a list of events, of which some tell which task was
opened.
-/

namespace Boards

/-- The fields of a task. -/
def taskFields : Fields :=
  [("id", .ofRule .string), ("due", { FieldType.ofRule .date with isOptional := true })]

/-- The variants of an event. -/
def eventVariants : Entries Fields :=
  [("Opened", [("task", .ofRule (.tagged "Task"))]), ("Closed", [("count", .ofRule .number)])]

/-- The fields of a board whose tasks are keyed by this field. -/
def boardFields (idField : Option String) : Fields :=
  [("tasks", .ofRule (.keyed "Task" idField)),
   ("events", { FieldType.ofRule (.tagged "Event") with depth := 1 }),
   ("note", { FieldType.ofRule .any with isOptional := true })]

/-- Boards, events and tasks. -/
def declarations : Declarations :=
  { Declarations.empty .standard with
    definitions := [
      ⟨"Board", .record (boardFields none), none⟩,
      ⟨"Event", .union eventVariants, none⟩,
      ⟨"Task", .record taskFields, none⟩] }

/-- The registry of boards, events and tasks. -/
def registry : Registry where
  number := 0
  types := [
    ("Board", ⟨⟨"Board", .record (boardFields (some "id")), none⟩, .standard⟩),
    ("Event", ⟨⟨"Event", .union eventVariants, none⟩, .standard⟩),
    ("Task", ⟨⟨"Task", .record taskFields, none⟩, .standard⟩)]
  patterns := []
  config := .standard

theorem isStandard_declarations : declarations.IsStandard where
  declared := by
    intro d hd
    simp only [declarations, List.mem_cons, List.not_mem_nil, or_false] at hd
    rcases hd with rfl | rfl | rfl
    · exact @TypeDefinition.IsDeclared.record "Board" (boardFields none) _ (by decide) rfl
    · exact @TypeDefinition.IsDeclared.union "Event" eventVariants _ (by decide) (by decide) rfl
    · exact @TypeDefinition.IsDeclared.record "Task" taskFields _ (by decide) rfl
  codecs := by simp [declarations, Declarations.empty]

theorem build_declarations : declarations.build 0 = .ok registry := rfl

theorem isBuilt_registry : registry.IsBuilt :=
  ⟨declarations, isStandard_declarations, build_declarations⟩

theorem hasFreeVariantKey_registry : registry.HasFreeVariantKey := by
  intro typeName d variant declared hd hdeclared
  obtain ⟨entry, hentry, rfl⟩ := Option.map_eq_some_iff.mp hd
  have hmem := Entries.mem_of_get? hentry
  simp only [registry, List.mem_cons, Prod.mk.injEq, List.not_mem_nil, or_false] at hmem
  rcases hmem with ⟨-, rfl⟩ | ⟨-, rfl⟩ | ⟨-, rfl⟩
  · cases hdeclared
  · have hvariant := Entries.mem_of_get? hdeclared
    simp only [eventVariants, List.mem_cons, Prod.mk.injEq, List.not_mem_nil, or_false] at hvariant
    rcases hvariant with ⟨-, rfl⟩ | ⟨-, rfl⟩ <;> decide
  · cases hdeclared

/-- The definition of boards. -/
def boardDefinition : TypeDefinition :=
  ⟨"Board", .record (boardFields (some "id")), none⟩

theorem definition?_board : registry.definition? "Board" = some boardDefinition := rfl

theorem shape_boardDefinition : boardDefinition.shape = .record (boardFields (some "id")) := rfl

/-- A task that is not due. -/
def task (id : String) : Instance :=
  ⟨registry.tag "Task", none, [("id", .string id)]⟩

/-- The start of the year 2024. -/
def newYear : Instant :=
  ⟨⟨2024, 1, 1⟩, ⟨0, 0, 0, 0⟩, by decide, by decide⟩

/-- The task `a`, due with the new year. -/
def dueTask : Instance :=
  ⟨registry.tag "Task", none, [("id", .string "a"), ("due", .date newYear)]⟩

/-- The event that a task was opened. -/
def opened (i : Instance) : Instance :=
  ⟨registry.tag "Event", some "Opened", [("task", .ofInstance i)]⟩

/-- A board with two tasks and two events. -/
def board : Instance where
  tag := registry.tag "Board"
  variant := none
  fields := [
    ("tasks", .object [("a", .ofInstance dueTask), ("b", .ofInstance (task "b"))]),
    ("events", .array [.ofInstance (opened (task "c")),
      .tagged (registry.tag "Event") (some "Closed") [("count", .number (.ofInt 2))]]),
    ("note", .object [("z", .null)])]

/-- The board as it comes from a file. -/
def shape : Json :=
  .object [
    ("tasks", .array [
      .object [("id", .string "a"), ("due", .string "2024-01-01T00:00:00Z")],
      .object [("id", .string "b"), ("due", .null)]]),
    ("events", .array [
      .object [("@tag", .string "Opened"), ("task", .object [("id", .string "c")])],
      .object [("@tag", .string "Closed"), ("count", .number (.integer 2))]]),
    ("note", .object [("z", .null)])]

theorem wellFormed_shape : shape.WellFormed := by
  simp [shape]

/-- Decoding the board. -/
def decodeBoard : Call :=
  .decodeRecord ⟨registry, "Board", _, boardFields (some "id"), rfl, rfl⟩ shape

/-- Constructing an event for a task that is on the board. -/
def constructOpened : Call :=
  .constructVariant ⟨⟨registry, "Event", _, eventVariants, rfl, rfl⟩, "Opened", _, rfl⟩
    [some (.ofInstance dueTask)]

/-- The session in which a board was decoded and an event constructed. -/
def session : Session :=
  ⟨[registry], [⟨decodeBoard, board⟩, ⟨constructOpened, opened dueTask⟩]⟩

theorem reachable_session : session.Reachable := by
  have hbuild : Session.Step .empty ⟨[registry], []⟩ :=
    .build isStandard_declarations build_declarations
  have hdecode : Session.Step ⟨[registry], []⟩ ⟨[registry], [⟨decodeBoard, board⟩]⟩ :=
    .call List.mem_cons_self (by simp [decodeBoard, Call.values])
      (by simp [decodeBoard, Call.shapes, wellFormed_shape]) rfl
  have hinside : (Value.ofInstance dueTask).Inside (.ofInstance board) :=
    .field List.mem_cons_self (.member List.mem_cons_self .refl)
  have hconstruct : Session.Step ⟨[registry], [⟨decodeBoard, board⟩]⟩ session :=
    .call List.mem_cons_self
      (by simpa [constructOpened, Call.values] using .inside List.mem_cons_self hinside)
      (by simp [constructOpened, Call.shapes]) rfl
  exact ((Relation.ReflTransGen.single hbuild).tail hdecode).tail hconstruct

end Boards

/-- The event that was constructed around a task of the board is a valid event. -/
theorem Boards.isInstance_opened : Boards.session.Reachable ∧
    ⟨Boards.constructOpened, Boards.opened Boards.dueTask⟩ ∈ Boards.session.produced ∧
    Boards.registry.IsInstance "Event" (Boards.opened Boards.dueTask) := by
  have hmem : ⟨constructOpened, opened dueTask⟩ ∈ session.produced :=
    List.mem_cons_of_mem _ List.mem_cons_self
  exact ⟨reachable_session, hmem, Session.isInstance_of_mem_produced reachable_session hmem⟩

end RecordSchema
