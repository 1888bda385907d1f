import RecordSchema.Proofs.Updates
import RecordSchema.Proofs.WaysToBuild

/-!
# Matches on unions

A match hands an instance of a union to the handler of its variant. An instance that a session can
offer has a variant that its union declares (`UnionHandle.exists_variant`), so that a union whose
variants all have handlers always finds one, and finds the one that was registered last
(`Entries.get?_ofList_eq_some_iff`). What a match comes to in every case is said by
`Session.match_exact`.
-/

namespace RecordSchema

open Outcome

namespace Entries

variable {α : Type} {name : String} {value : α} {entries : Entries α}

/-- The last addition of a name is found, or else the entry that was there. -/
theorem get?_putAll_reverse (entries additions : Entries α) (name : String) :
    (entries.putAll additions).get? name =
      (Entries.get? name additions.reverse).or (entries.get? name) := by
  induction additions generalizing entries with
  | nil => rfl
  | cons addition rest ih =>
      rw [putAll, List.foldl_cons, ← putAll, ih, List.reverse_cons, get?_append, Option.or_assoc]
      refine congrArg _ ?_
      rw [get?_cons]
      split
      next heq => rw [← heq, get?_put_self, Option.some_or]
      next hne => rw [get?_put_of_ne hne, get?_nil, Option.none_or]

/-- An entry is found exactly where it is the first one of its name. -/
theorem get?_eq_some_iff : entries.get? name = some value ↔
    ∃ before after, entries = before ++ (name, value) :: after ∧ name ∉ before.names := by
  constructor
  · intro h
    induction entries with
    | nil => cases h
    | cons entry rest ih =>
        rw [get?] at h
        split at h
        next heq => exact ⟨[], rest, by simp [← heq, ← Option.some.inj h], List.not_mem_nil⟩
        next hne =>
            obtain ⟨before, after, rfl, hnew⟩ := ih h
            refine ⟨entry :: before, after, rfl, ?_⟩
            exact List.not_mem_cons_of_ne_of_not_mem (fun heq => hne heq.symm) hnew
  · rintro ⟨before, after, rfl, hnew⟩
    rw [get?_append, get?_eq_none_iff.mpr hnew, Option.none_or, get?_cons, if_pos rfl]

/-- Of entries that are put one after the other, the last one of a name is found. -/
theorem get?_ofList_eq_some_iff : entries.ofList.get? name = some value ↔
    ∃ before after, entries = before ++ (name, value) :: after ∧ name ∉ Entries.names after := by
  rw [ofList, get?_putAll_reverse, get?_nil, Option.or_none, get?_eq_some_iff]
  constructor
  · rintro ⟨before, after, heq, hnew⟩
    refine ⟨after.reverse, before.reverse, ?_, by simpa [names] using hnew⟩
    simpa using congrArg List.reverse heq
  · rintro ⟨before, after, rfl, hnew⟩
    exact ⟨after.reverse, before.reverse, by simp, by simpa [names] using hnew⟩

/-- Entries that are put one after the other have the names that were put. -/
theorem has_ofList_iff : entries.ofList.has name ↔ name ∈ entries.names := by
  rw [has, ofList, get?_putAll_reverse, get?_nil, Option.or_none, ← has, has_iff]
  simp [names]

end Entries

/-- A value is the instance that it is taken for. -/
theorem Value.instance?_eq_some_iff {value : Value} {i : Instance} :
    value.instance? = some i ↔ value = .ofInstance i := by
  constructor
  · intro h
    cases value with
    | tagged tag variant fields =>
        obtain rfl := Option.some.inj h
        rfl
    | _ => cases h
  · rintro rfl
    rfl

/-! ## Instances of a union -/

namespace UnionHandle

variable {h : UnionHandle} {value : Value} {i : Instance}

/-- An instance of a union has a variant that the union declares. -/
theorem exists_variant (hi : h.registry.IsInstance h.name i) :
    ∃ variant, i.variant = some variant ∧ variant ∈ h.variantNames := by
  obtain ⟨d, declared, hd, hdeclared, -⟩ := hi.acceptsField
  cases hd.symm.trans h.is_declared
  obtain ⟨variant, hvariant, hfields⟩ := h.exists_variant_of_fieldsOf? hdeclared
  exact ⟨variant, hvariant, Entries.mem_names_of_get? hfields⟩

/-- The error that tells what stands in place of an instance of the union. -/
def mismatch (h : UnionHandle) (value : Value) : TypeError :=
  .typeMismatch h.name (value.instance?.elim "a plain value" Instance.qualifiedName)

/-- An instance belongs to the union, or it is refused. -/
theorem owned_ofInstance :
    h.owned (.ofInstance i) =
      if h.owns i then .ok i else .error (h.mismatch (.ofInstance i)) := rfl

/-- A value that is no instance of the union is refused. -/
theorem owned_of_foreign (hvalue : ∀ i, value = .ofInstance i → ¬ h.owns i) :
    h.owned value = .error (h.mismatch value) := by
  cases hinstance : value.instance? with
  | none => simp [owned, mismatch, hinstance]
  | some i =>
      obtain rfl := Value.instance?_eq_some_iff.mp hinstance
      rw [owned_ofInstance, if_neg (hvalue i rfl)]

end UnionHandle

/-! ## Matches -/

namespace UnionHandle

variable {α : Type} {h : UnionHandle} {value : Value} {registered : Entries (Instance → α)}

/-- Every variant of the union has a handler among those that were registered. -/
def Handled (h : UnionHandle) (registered : Entries (Instance → α)) : Prop :=
  ∀ variant ∈ h.variantNames, variant ∈ registered.names

/-- A union whose variants all have handlers looks at the value. -/
theorem matchOn_of_handled (hall : h.Handled registered) :
    h.matchOn value registered.ofList = (do
      let i ← h.owned value
      match registered.ofList.get? (i.variant.getD "") with
      | some handler => return handler i
      | none => .error (.unknownVariant h.name (i.variant.getD ""))) := by
  have hnone : h.variantNames.find? (!registered.ofList.has ·) = none := by
    refine List.find?_eq_none.mpr fun variant hvariant => ?_
    simp [Entries.has_ofList_iff.mpr (hall variant hvariant)]
  unfold matchOn
  split
  case h_1 variant hsome => cases hnone.symm.trans hsome
  case h_2 => rfl

/-- A match fails for the first variant that has no handler, whatever the value is. -/
theorem matchOn_of_unhandled {before after : List String} {variant : String}
    (hnames : h.variantNames = before ++ variant :: after)
    (hbefore : ∀ other ∈ before, other ∈ registered.names) (hvariant : variant ∉ registered.names) :
    h.matchOn value registered.ofList = .error (.exhaustivenessViolation h.name variant) := by
  have hfirst : h.variantNames.find? (!registered.ofList.has ·) = some variant := by
    refine List.find?_eq_some_iff_append.mpr ⟨?_, before, after, hnames, fun other hother => ?_⟩
    · simpa [← Entries.has_ofList_iff] using hvariant
    · simp [Entries.has_ofList_iff.mpr (hbefore other hother)]
  rw [matchOn, hfirst]

/-- A variant without a handler is the first one, or there is one before. -/
theorem exists_unhandled (hall : ¬ h.Handled registered) :
    ∃ before variant after, h.variantNames = before ++ variant :: after ∧
      (∀ other ∈ before, other ∈ registered.names) ∧ variant ∉ registered.names :=
  exists_first_not hall

/-- An instance of a union whose variants all have handlers is handed to the handler of its variant
that was registered last. -/
theorem exists_matchOn_of_handled {i : Instance} (hall : h.Handled registered)
    (hi : h.registry.IsInstance h.name i) :
    ∃ before variant handler after, i.variant = some variant ∧
      registered = before ++ (variant, handler) :: after ∧ variant ∉ Entries.names after ∧
      h.matchOn (.ofInstance i) registered.ofList = .ok (handler i) := by
  obtain ⟨variant, hvariant, hdeclared⟩ := exists_variant hi
  have hhas := Entries.has_ofList_iff.mpr (hall variant hdeclared)
  obtain ⟨handler, hhandler⟩ := Option.isSome_iff_exists.mp hhas
  obtain ⟨before, after, heq, hlast⟩ := Entries.get?_ofList_eq_some_iff.mp hhandler
  have howned : h.owned (.ofInstance i) = .ok i := if_pos (decide_eq_true hi.tag_eq)
  refine ⟨before, variant, handler, after, hvariant, heq, hlast, ?_⟩
  rw [matchOn_of_handled hall, howned]
  change (match registered.ofList.get? (i.variant.getD "") with
    | some handler => _
    | none => _) = _
  rw [hvariant, Option.getD_some, hhandler]
  rfl

/-- What a match of the value comes to, with handlers that were registered one after the other. It
gives a result exactly if every variant has a handler and the value is an instance of the union, and
the result is that of the last handler of the variant. Otherwise it tells the first variant that has
no handler, whatever the value is, or else what the value is. No variant is unknown. -/
structure MatchesExactly (h : UnionHandle) (registered : Entries (Instance → α)) (value : Value) :
    Prop where
  exists_result_iff : (∃ result, h.matchOn value registered.ofList = .ok result) ↔
    h.Handled registered ∧ ∃ i, value = .ofInstance i ∧ h.registry.IsInstance h.name i
  result : ∀ result, h.matchOn value registered.ofList = .ok result →
    ∃ i before variant handler after, value = .ofInstance i ∧ i.variant = some variant ∧
      registered = before ++ (variant, handler) :: after ∧ variant ∉ Entries.names after ∧
      result = handler i
  unhandled : ∀ before variant after, h.variantNames = before ++ variant :: after →
    (∀ other ∈ before, other ∈ registered.names) → variant ∉ registered.names →
    h.matchOn value registered.ofList = .error (.exhaustivenessViolation h.name variant)
  foreign : h.Handled registered →
    (¬ ∃ i, value = .ofInstance i ∧ h.registry.IsInstance h.name i) →
    h.matchOn value registered.ofList = .error (h.mismatch value)
  known : ∀ typeName variant,
    h.matchOn value registered.ofList ≠ .error (.unknownVariant typeName variant)

/-- Matches are exact for values that are valid instances of the union if they carry its tag. -/
theorem matchesExactly (hvalue : ∀ i, value = .ofInstance i → h.owns i →
      h.registry.IsInstance h.name i) (registered : Entries (Instance → α)) :
    h.MatchesExactly registered value := by
  have hforeign : h.Handled registered →
      (¬ ∃ i, value = .ofInstance i ∧ h.registry.IsInstance h.name i) →
      h.matchOn value registered.ofList = .error (h.mismatch value) := by
    intro hall hnone
    rw [matchOn_of_handled hall,
      owned_of_foreign fun i hi howns => hnone ⟨i, hi, hvalue i hi howns⟩]
    rfl
  -- There are three cases: a variant without a handler, a foreign value, and an instance.
  by_cases hall : h.Handled registered
  · by_cases hinstance : ∃ i, value = .ofInstance i ∧ h.registry.IsInstance h.name i
    · obtain ⟨i, rfl, hi⟩ := hinstance
      obtain ⟨before, variant, handler, after, hvariant, heq, hlast, hmatch⟩ :=
        exists_matchOn_of_handled hall hi
      constructor
      case exists_result_iff => exact iff_of_true ⟨_, hmatch⟩ ⟨hall, i, rfl, hi⟩
      case result =>
        intro result hresult
        obtain rfl := Except.ok.inj (hmatch.symm.trans hresult)
        exact ⟨i, before, variant, handler, after, rfl, hvariant, heq, hlast, rfl⟩
      case unhandled => exact fun _ _ _ => matchOn_of_unhandled
      case foreign => exact hforeign
      case known => simp [hmatch]
    · have hmatch := hforeign hall hinstance
      constructor
      case exists_result_iff => simp [hmatch, hinstance]
      case result => simp [hmatch]
      case unhandled => exact fun _ _ _ => matchOn_of_unhandled
      case foreign => exact hforeign
      case known => simp [hmatch, mismatch]
  · obtain ⟨before, variant, after, hnames, hbefore, hvariant⟩ := exists_unhandled hall
    have hmatch : h.matchOn value registered.ofList = _ :=
      matchOn_of_unhandled hnames hbefore hvariant
    constructor
    case exists_result_iff => simp [hmatch, hall]
    case result => simp [hmatch]
    case unhandled => exact fun _ _ _ => matchOn_of_unhandled
    case foreign => exact hforeign
    case known => simp [hmatch]

end UnionHandle

namespace Session

variable {s t : Session}

/-- Types with the standard codec decode sound instances. -/
theorem Step.withSoundCodecs (h : Step s t) : StepWithSoundCodecs s t := by
  cases h with
  | build hd hbuild =>
      refine .build hd.declared hbuild fun entry hentry => ?_
      rw [hd.codecs entry hentry]
      exact Codec.givesSound_standard _
  | call hmem hvalues hshapes hi => exact .call hmem hvalues hshapes hi

/-- Runs without codecs are among those with codecs that decode sound instances. -/
theorem Reachable.withSoundCodecs (h : s.Reachable) : s.ReachableWithSoundCodecs :=
  Relation.ReflTransGen.mono (fun _ _ => Step.withSoundCodecs) _ _ h

/-- Matches on the unions of a session are exact, for every value that the session can offer and
whatever handlers are registered. -/
theorem match_exact (hs : s.ReachableWithSoundCodecs) {h : UnionHandle}
    (hmem : h.registry ∈ s.registries) {value : Value} (hvalue : Offered s.instances value)
    {α : Type} (registered : Entries (Instance → α)) : h.MatchesExactly registered value :=
  h.matchesExactly (fun _ hi howns => hs.isInstance_of_owns hmem (hi ▸ hvalue) howns) registered

end Session

namespace Boards

/-- Handlers that tell what is in an event; the first one for opened tasks is replaced. -/
def handlers : Entries (Instance → Nat) :=
  [("Opened", fun _ ↦ 0), ("Closed", fun i ↦ i.fields.length), ("Moved", fun _ ↦ 7),
    ("Opened", fun i ↦ i.fields.length + 1)]

end Boards

/-- The event that a task was opened goes to the handler for opened tasks that was registered last;
a board is no event, and it is not looked at where closed tasks have no handler. -/
theorem Boards.match_opened : session.ReachableWithSoundCodecs ∧
    event.registry ∈ session.registries ∧
    Offered session.instances (.ofInstance (opened dueTask)) ∧
    event.MatchesExactly handlers (.ofInstance (opened dueTask)) ∧
    event.matchOn (.ofInstance (opened dueTask)) handlers.ofList = .ok 2 ∧
    event.matchOn (.ofInstance board) handlers.ofList = .error (.typeMismatch "Event" "Board") ∧
    event.matchOn (.ofInstance board) (Entries.ofList (handlers.take 1)) =
      .error (.exhaustivenessViolation "Event" "Closed") := by
  have hs := reachable_session.withSoundCodecs
  have hmem : event.registry ∈ session.registries := List.mem_cons_self
  have hopened : Offered session.instances (.ofInstance (opened dueTask)) :=
    .inside (List.mem_cons_of_mem _ List.mem_cons_self) .refl
  have hboard : Offered session.instances (.ofInstance board) := .inside List.mem_cons_self .refl
  have hhandled : ∀ variant ∈ event.variantNames, variant ∈ handlers.names := by decide
  have hforeign : ¬ ∃ i, Value.ofInstance board = .ofInstance i ∧
      event.registry.IsInstance event.name i := by
    rintro ⟨i, heq, hi⟩
    obtain rfl := Value.ofInstance_inj.mp heq
    exact absurd hi.tag_eq (by decide)
  refine ⟨hs, hmem, hopened, Session.match_exact hs hmem hopened handlers, rfl, ?_, ?_⟩
  · exact (Session.match_exact hs hmem hboard handlers).foreign hhandled hforeign
  · exact (Session.match_exact hs hmem hboard (handlers.take 1)).unhandled ["Opened"] "Closed" []
      rfl (by decide) (by decide)

end RecordSchema
