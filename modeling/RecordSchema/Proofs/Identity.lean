import RecordSchema.Proofs.NestedCodecs
import RecordSchema.Proofs.Tags

/-!
# Identity of types

An instance belongs to one type of one registry, and only there is it taken for what it is. Every
handle asks for the tag of an instance before it does anything with it, so types of the same name
and with the same fields stay apart when they are built twice. `Instance.IsKnownAs` collects what
handles, registries and fields make of an instance, and `Session.isKnownAs_of_mem_produced` says
that this holds of whatever a session is given, also where types have codecs of their own.
-/

namespace RecordSchema

open Outcome

/-! ## What is refused -/

/-- The record refuses the instance, whatever is asked. -/
structure RecordHandle.Refuses (h : RecordHandle) (i : Instance) : Prop where
  update : ∀ changes, h.update i changes = .error (i.mismatch h.name)
  render : h.render i = .error (i.mismatch h.name)
  encode : h.encode i = .error (i.mismatch h.name)

/-- The union refuses the instance, whatever is asked. -/
structure UnionHandle.Refuses (h : UnionHandle) (i : Instance) : Prop where
  update : ∀ changes, h.update i changes = .error (i.mismatch h.name)
  render : h.render i = .error (i.mismatch h.name)
  encode : h.encode i = .error (i.mismatch h.name)
  matchOn : ∀ {α : Type} (handlers : Entries (Instance → α)),
    (∀ variant ∈ h.variantNames, handlers.has variant) →
    h.matchOn (.ofInstance i) handlers = .error (i.mismatch h.name)

/-- A record refuses what does not belong to it. -/
theorem RecordHandle.refuses_of_not_is {h : RecordHandle} {i : Instance}
    (hi : ¬ h.is (.ofInstance i)) : h.Refuses i := by
  have howned : h.owned i = .error (i.mismatch h.name) := if_neg hi
  refine ⟨fun changes => ?_, ?_, ?_⟩
  · rw [update, howned]
    rfl
  · rw [render, howned]
    rfl
  · rw [encode, howned]
    rfl

/-- A union refuses what does not belong to it. -/
theorem UnionHandle.refuses_of_not_is {h : UnionHandle} {i : Instance}
    (hi : ¬ h.is (.ofInstance i)) : h.Refuses i := by
  have howned : h.owned (.ofInstance i) = .error (i.mismatch h.name) := if_neg hi
  refine ⟨fun changes => ?_, ?_, ?_, fun handlers hhandlers => ?_⟩
  · rw [update, howned]
    rfl
  · rw [render, howned]
    rfl
  · rw [encode, howned]
    rfl
  · -- No handler is missing, so that the instance is looked at.
    have hnone : h.variantNames.find? (!handlers.has ·) = none :=
      List.find?_eq_none.mpr fun variant hvariant => by simp [hhandlers variant hvariant]
    rw [matchOn, hnone]
    change (h.owned (.ofInstance i) >>= _) = _
    rw [howned]
    rfl

/-- A variant does not update what does not belong to it. -/
theorem VariantHandle.update_of_not_is {h : VariantHandle} {i : Instance}
    (hi : ¬ h.is (.ofInstance i)) (changes : List (String × Option Value)) :
    h.update i changes = .error (i.mismatch h.qualifiedName) := by
  have howns : h.owns i = false := Bool.eq_false_iff.mpr hi
  rw [update, howns]
  rfl

/-- A registry does not encode what does not belong to it. -/
theorem Registry.encode_of_not_owns {r : Registry} {i : Instance} (hi : ¬ r.owns i.typeName i) :
    ∃ error, r.encode i = .error error := by
  rw [encode, Encoding.typedInstance]
  cases r.lookup i.typeName with
  | error error => exact ⟨error, rfl⟩
  | ok entry =>
      rw [Bool.eq_false_iff.mpr hi]
      exact ⟨_, rfl⟩

/-- In the value, `part` stands where the rule inside `depth` arrays takes an instance of the type:
by itself, or as a member of a keyed collection. -/
inductive Value.StandsFor (part : Value) (typeName : String) : Rule → Nat → Value → Prop where
  | single : StandsFor part typeName (.tagged typeName) 0 part
  | member {idField key members} : (key, part) ∈ members →
      StandsFor part typeName (.keyed typeName idField) 0 (.object members)
  | item {rule depth items item} : item ∈ items → StandsFor part typeName rule depth item →
      StandsFor part typeName rule (depth + 1) (.array items)

/-- A rule that takes an instance for one of a type takes it from the registry that has it. -/
theorem Registry.owns_of_standsFor {r : Registry} {typeName : String} {i : Instance} {rule : Rule}
    {depth : Nat} {value normal : Value}
    (hstands : (Value.ofInstance i).StandsFor typeName rule depth value)
    (h : r.Accepts rule depth value normal) : r.owns typeName i := by
  have hsingle : ∀ {normal}, r.Accepts (.tagged typeName) 0 (.ofInstance i) normal →
      r.owns typeName i := by
    obtain ⟨tag, variant, fields⟩ := i
    intro normal h
    cases h
    exact decide_eq_true rfl
  induction hstands generalizing normal with
  | single => exact hsingle h
  | @member idField key members hmem =>
      cases idField with
      | none => cases h
      | some idField =>
          obtain ⟨_, -, hall, -⟩ := accepts_keyed_iff.mp h
          obtain ⟨_, -, -, hmember⟩ := exists_of_mem_left hall hmem
          exact hsingle hmember
  | item hitem _ ih =>
      obtain ⟨_, -, hall⟩ := accepts_array_iff.mp h
      obtain ⟨_, -, haccepted⟩ := exists_of_mem_left hall hitem
      exact ih haccepted

/-! ## What an instance is known as -/

/-- Among these registries the instance is known as one of a type of `r`, and as nothing else: the
handles of this type and of its own variant know it, all other handles and registries refuse it, and
the fields that take it for an instance of some type are those for its own. -/
structure Instance.IsKnownAs (i : Instance) (registries : List Registry) (r : Registry)
    (typeName : String) : Prop where
  is_record : ∀ h : RecordHandle, h.registry ∈ registries →
    (h.is (.ofInstance i) ↔ h.registry = r ∧ h.name = typeName)
  is_union : ∀ h : UnionHandle, h.registry ∈ registries →
    (h.is (.ofInstance i) ↔ h.registry = r ∧ h.name = typeName)
  is_variant : ∀ h : VariantHandle, h.union.registry ∈ registries →
    (h.is (.ofInstance i) ↔
      (h.union.registry = r ∧ h.union.name = typeName) ∧ i.variant = some h.name)
  record_refuses : ∀ h : RecordHandle, h.registry ∈ registries →
    ¬ (h.registry = r ∧ h.name = typeName) → h.Refuses i
  union_refuses : ∀ h : UnionHandle, h.registry ∈ registries →
    ¬ (h.registry = r ∧ h.name = typeName) → h.Refuses i
  variant_refuses : ∀ h : VariantHandle, h.union.registry ∈ registries →
    ¬ ((h.union.registry = r ∧ h.union.name = typeName) ∧ i.variant = some h.name) →
    ∀ changes, h.update i changes = .error (i.mismatch h.qualifiedName)
  registry_refuses : ∀ other ∈ registries, other ≠ r → ∃ error, other.encode i = .error error
  own_field : ∀ path, r.coerceValue (.ofInstance i) (.tagged typeName) 0 path = .ok (.ofInstance i)
  other_field : ∀ other ∈ registries, ∀ name, ¬ (other = r ∧ name = typeName) →
    ∀ (type : FieldType) (value : Value),
      (Value.ofInstance i).StandsFor name type.rule type.depth value →
      ∀ path, ∃ rejection, other.coerce type (some value) path = .error rejection

/-- A field that takes a value for an instance of a type takes it from the registry that has it. -/
theorem Registry.owns_of_coerce {r : Registry} (hr : r.Checked) {typeName : String} {i : Instance}
    {type : FieldType} {value : Value} {path : Path} {result : Option Value}
    (hstands : (Value.ofInstance i).StandsFor typeName type.rule type.depth value)
    (h : r.coerce type (some value) path = .ok result) : r.owns typeName i := by
  obtain ⟨normal, hnormal, -⟩ := map_eq_ok.mp h
  exact owns_of_standsFor hstands ((coerceValue_eq_ok hr path).mp hnormal)

/-- Among registries with different numbers, an instance is known as one of the type whose tag it
carries. -/
theorem Instance.isKnownAs_of_tag_eq {registries : List Registry}
    (hnumbers : ∀ r ∈ registries, ∀ other ∈ registries, other.number = r.number → other = r)
    (hchecked : ∀ r ∈ registries, r.Checked) {r : Registry} (hr : r ∈ registries)
    {typeName : String} {d : TypeDefinition} (hd : r.definition? typeName = some d) {i : Instance}
    (htag : i.tag = r.tag typeName) : i.IsKnownAs registries r typeName := by
  have howns : ∀ other ∈ registries, ∀ name,
      other.owns name i ↔ other = r ∧ name = typeName := by
    intro other hother name
    rw [Registry.owns, decide_eq_true_iff, htag, Registry.tag, Registry.tag, TypeTag.mk.injEq]
    constructor
    · intro h
      exact ⟨hnumbers r hr other hother h.1.symm, h.2.symm⟩
    · intro h
      obtain ⟨rfl, rfl⟩ := h
      exact ⟨rfl, rfl⟩
  have hvariant : ∀ h : VariantHandle, h.union.registry ∈ registries → (h.is (.ofInstance i) ↔
      (h.union.registry = r ∧ h.union.name = typeName) ∧ i.variant = some h.name) := by
    intro h hmem
    have his : h.is (.ofInstance i) =
        (h.union.registry.owns h.union.name i && i.variant == some h.name) := rfl
    rw [his, Bool.and_eq_true, beq_iff_eq, howns _ hmem]
  constructor
  case is_record => exact fun h hmem => howns _ hmem h.name
  case is_union => exact fun h hmem => howns _ hmem h.name
  case is_variant => exact hvariant
  case record_refuses =>
    exact fun h hmem hother => h.refuses_of_not_is fun his => hother ((howns _ hmem _).mp his)
  case union_refuses =>
    exact fun h hmem hother => h.refuses_of_not_is fun his => hother ((howns _ hmem _).mp his)
  case variant_refuses =>
    exact fun h hmem hother => h.update_of_not_is fun his => hother ((hvariant h hmem).mp his)
  case registry_refuses =>
    exact fun other hmem hne => Registry.encode_of_not_owns fun h => hne ((howns _ hmem _).mp h).1
  case own_field =>
    intro path
    rw [Registry.coerceValue_eq_ok (hchecked r hr), Value.ofInstance, htag]
    exact .owned hd
  case other_field =>
    intro other hmem name hother type value hstands path
    cases hcoerce : other.coerce type (some value) path with
    | error rejection => exact ⟨rejection, rfl⟩
    | ok result =>
        have howned := Registry.owns_of_coerce (hchecked other hmem) hstands hcoerce
        exact absurd ((howns other hmem name).mp howned) hother

/-! ## Sessions with codecs -/

/-- What was produced comes from one of the registries, and carries the tag of the type and the
variant that were asked for. -/
structure Production.IsTagged (p : Production) (registries : List Registry) :
    Prop where
  registered : p.call.registry ∈ registries
  tag_eq : p.result.tag = p.call.registry.tag p.call.typeName
  variant_eq : ∀ variant, p.call.variant? = some variant → p.result.variant = some variant

namespace Session

variable {s t : Session}

/-- A registry is built, with the number that is next, or a call on a handle of one of the
registries gives an instance. Calls may be handed any values. -/
inductive StepWithCodecs : Session → Session → Prop where
  /-- Of its codecs it is asked what the documentation of hooks asks of them: that a shape is decoded
  as an instance of the type that is named. The standard codec has no hook and keeps to it. -/
  | build {s : Session} {d : Declarations} {r} :
      (∀ definition ∈ d.definitions, definition.IsDeclared) →
      d.build s.registries.length = .ok r → (∀ entry ∈ d.codecs, entry.2.KeepsTypes r) →
      StepWithCodecs s { s with registries := s.registries ++ [r] }
  | call {s : Session} {call : Call} {i} : call.registry ∈ s.registries → call.outcome = .ok i →
      StepWithCodecs s { s with produced := s.produced ++ [⟨call, i⟩] }

/-- Some run leads to the session, whatever codecs types have in it. -/
def ReachableWithCodecs (s : Session) : Prop :=
  Relation.ReflTransGen StepWithCodecs empty s

/-- What steps keep: the registries were built in the order of their numbers and keep types, and
what they gave is tagged. -/
structure IsTagged (s : Session) : Prop where
  checked : ∀ r ∈ s.registries, r.Checked
  codecs : ∀ r ∈ s.registries, r.KeepsTypes
  numbered : s.registries.map (·.number) = List.range s.registries.length
  produced : ∀ p ∈ s.produced, p.IsTagged s.registries

theorem isTagged_empty : empty.IsTagged :=
  ⟨by simp [empty], by simp [empty], by simp [empty], by simp [empty]⟩

/-- Each step keeps a session tagged. -/
theorem IsTagged.step (h : s.IsTagged) (hstep : StepWithCodecs s t) : t.IsTagged := by
  cases hstep with
  | @build d r hdeclared hbuild hcodecs =>
      have hnumber := number_of_build hbuild
      have hbuild : d.build r.number = .ok r := hnumber.symm ▸ hbuild
      have hregistries : ∀ {P : Registry → Prop}, (∀ other ∈ s.registries, P other) → P r →
          ∀ other ∈ s.registries ++ [r], P other := by
        intro P hold hnew other hother
        rcases List.mem_append.mp hother with hother | hother
        · exact hold other hother
        · exact List.mem_singleton.mp hother ▸ hnew
      constructor
      case checked =>
        exact hregistries h.checked (Registry.IsBuiltWithCodecs.checked ⟨d, hdeclared, hbuild⟩)
      case codecs =>
        exact hregistries h.codecs (Registry.keepsTypes_of_build hdeclared hcodecs hbuild)
      case numbered => exact Registry.numbered_append h.numbered hnumber
      case produced =>
        intro p hp
        obtain ⟨hregistered, htag, hvariant⟩ := h.produced p hp
        exact ⟨List.mem_append_left _ hregistered, htag, hvariant⟩
  | @call call i hmem hi =>
      refine ⟨h.checked, h.codecs, h.numbered, fun p hp => ?_⟩
      rcases List.mem_append.mp hp with hp | hp
      · exact h.produced p hp
      · rw [List.mem_singleton.mp hp]
        exact ⟨hmem, call.tag_eq_of_outcome (h.checked _ hmem) (h.codecs _ hmem) hi,
          fun _ hvariant => call.variant_eq_of_outcome hvariant hi⟩

/-- Every session that a run leads to is tagged. -/
theorem ReachableWithCodecs.isTagged (h : s.ReachableWithCodecs) : s.IsTagged := by
  induction h with
  | refl => exact isTagged_empty
  | tail _ hstep ih => exact ih.step hstep

/-- Whatever a session has been given is known as an instance of the type that was asked for, in the
registry that was asked, and as nothing else; and it is of the variant that was asked for. -/
theorem isKnownAs_of_mem_produced (h : s.ReachableWithCodecs) {p : Production}
    (hp : p ∈ s.produced) :
    p.result.IsKnownAs s.registries p.call.registry p.call.typeName ∧
      ∀ variant, p.call.variant? = some variant → p.result.variant = some variant := by
  have hs := h.isTagged
  obtain ⟨hregistered, htag, hvariant⟩ := hs.produced p hp
  obtain ⟨d, hd⟩ := p.call.exists_definition
  have hnumbers := Registry.eq_of_numbered hs.numbered
  exact ⟨Instance.isKnownAs_of_tag_eq hnumbers hs.checked hregistered hd htag, hvariant⟩

end Session

/-! ## Labels built twice -/

namespace Labels

/-- Labels and tasks, declared in the same way and built once more. -/
def twin : Registry :=
  { registry wrapped with number := 1 }

/-- The codec of labels leaves it to the standard decoding to make an instance. -/
theorem keepsTypes_wrapped (r : Registry) : wrapped.KeepsTypes r := by
  intro hook hhook
  cases hhook
  exact fun hservices h => hservices.fields h

/-- Decoding a task. -/
def decodeTask : Call :=
  .decodeRecord ⟨registry wrapped, "Task", _, taskFields, rfl, rfl⟩
    (.object [("label", .object [("value", .string "a")]), ("title", .string "b")])

/-- The tasks of the other registry. -/
def twinTask : RecordHandle :=
  ⟨twin, "Task", _, taskFields, rfl, rfl⟩

/-- The session in which the types were built twice and a task was decoded. -/
def session : Session :=
  ⟨[registry wrapped, twin], [⟨decodeTask, task⟩]⟩

theorem reachable_session : session.ReachableWithCodecs := by
  have hcodecs : ∀ r, ∀ entry ∈ (declarations wrapped).codecs, entry.2.KeepsTypes r := by
    intro r entry hentry
    obtain rfl := List.mem_singleton.mp hentry
    exact keepsTypes_wrapped r
  have hbuild : Session.StepWithCodecs .empty ⟨[registry wrapped], []⟩ :=
    .build isDeclared_of_mem_definitions rfl (hcodecs _)
  have htwin : Session.StepWithCodecs ⟨[registry wrapped], []⟩ ⟨[registry wrapped, twin], []⟩ :=
    .build isDeclared_of_mem_definitions rfl (hcodecs _)
  have hdecode : Session.StepWithCodecs ⟨[registry wrapped, twin], []⟩ session :=
    .call List.mem_cons_self rfl
  exact ((Relation.ReflTransGen.single hbuild).tail htwin).tail hdecode

end Labels

/-- A task is no task of a registry that was built from the same declarations. -/
theorem Labels.not_is_twinTask : Labels.session.ReachableWithCodecs ∧
    ⟨Labels.decodeTask, Labels.task⟩ ∈ Labels.session.produced ∧
    ¬ Labels.twinTask.is (.ofInstance Labels.task) ∧ Labels.twinTask.Refuses Labels.task := by
  have hmem : ⟨decodeTask, task⟩ ∈ session.produced := List.mem_cons_self
  obtain ⟨hknown, -⟩ := Session.isKnownAs_of_mem_produced reachable_session hmem
  have htwin : twin ∈ session.registries := List.mem_cons_of_mem _ List.mem_cons_self
  have hother : ¬ (twin = registry wrapped ∧ "Task" = "Task") :=
    fun h => absurd (congrArg Registry.number h.1) (by decide)
  exact ⟨reachable_session, hmem, fun h => hother ((hknown.is_record twinTask htwin).mp h),
    hknown.record_refuses twinTask htwin hother⟩

end RecordSchema
