import RecordSchema.CommandLine.Run
import RecordSchema.Proofs.Closed
import RecordSchema.Proofs.Loaded
import RecordSchema.Proofs.Session

/-!
# Operations of built registries

No operation on a handle of a built registry fails for a type that is not there: such a failure
tells that a registry itself was asked for a type that it does not declare
(`Registry.IsBuilt.isResolved_operations`). The command that validates a document counts on this.
-/

namespace RecordSchema

open Outcome

/-! ## Operations of handles -/

theorem isResolved_positional {typeName : String} {declared : Fields}
    {arguments : List (Option Value)} : IsResolved (positional typeName declared arguments) := by
  unfold positional
  split
  · exact failsOnlyAs_error id
  · exact failsOnlyAs_ok

theorem isResolved_mergeChanges {typeName : String} {declared : Fields} {present : Entries Value}
    {changes : List (String × Option Value)} :
    IsResolved (mergeChanges typeName declared present changes) := by
  induction changes generalizing present with
  | nil => exact failsOnlyAs_ok
  | cons change changes ih =>
      obtain ⟨field, value⟩ := change
      unfold mergeChanges
      repeat' split
      all_goals first | exact ih | exact failsOnlyAs_error id

theorem RecordHandle.isResolved_owned (h : RecordHandle) (i : Instance) :
    IsResolved (h.owned i) := by
  unfold owned
  split
  · exact failsOnlyAs_ok
  · exact failsOnlyAs_error id

theorem UnionHandle.isResolved_owned (h : UnionHandle) (value : Value) :
    IsResolved (h.owned value) := by
  unfold owned
  repeat' split
  all_goals first | exact failsOnlyAs_ok | exact failsOnlyAs_error id

theorem UnionHandle.isResolved_variant (h : UnionHandle) (name : String) :
    IsResolved (h.variant name) := by
  unfold variant
  split
  · exact failsOnlyAs_ok
  · exact failsOnlyAs_error id

theorem UnionHandle.isResolved_matchOn {α : Type} (h : UnionHandle) (value : Value)
    (handlers : Entries (Instance → α)) : IsResolved (h.matchOn value handlers) := by
  unfold matchOn
  split
  · exact failsOnlyAs_error id
  · refine (h.isResolved_owned value).bind fun i _ => ?_
    dsimp only
    split
    · exact failsOnlyAs_ok
    · exact failsOnlyAs_error id

namespace VariantHandle

variable {h : VariantHandle}

theorem isResolved_constructFrom (hr : h.union.registry.IsClosed)
    (candidate : String → Option Value) : IsResolved (h.constructFrom candidate) :=
  Registry.isResolved_construct hr h.union.is_declared candidate

theorem isResolved_fromShape (hr : h.union.registry.IsClosed) (shape : Value) :
    IsResolved (h.fromShape shape) := by
  unfold fromShape
  split
  · exact isResolved_constructFrom hr _
  · split
    · exact failsOnlyAs_ok
    · exact isResolved_constructFrom hr _
  · exact failsOnlyAs_error (by simp [TypeError.IsUnresolved, Rejection.wrongKind])

theorem isResolved_update (hr : h.union.registry.IsClosed) (i : Instance)
    (changes : List (String × Option Value)) : IsResolved (h.update i changes) := by
  unfold update
  split
  · exact failsOnlyAs_error id
  · exact isResolved_mergeChanges.bind fun _ _ => isResolved_constructFrom hr _

end VariantHandle

/-- No call of a handle of a closed registry fails for an unknown type. -/
theorem Call.isResolved_outcome {call : Call} (hr : call.registry.IsClosed)
    (hresolved : call.registry.Resolved) : IsResolved call.outcome := by
  cases call with
  | constructRecord h arguments =>
      exact isResolved_positional.bind fun _ _ =>
        Registry.isResolved_construct hr h.is_declared _
  | readRecord h shape => exact Registry.isResolved_adapt hr h.is_declared shape
  | updateRecord h i changes =>
      exact (h.isResolved_owned i).bind fun _ _ => isResolved_mergeChanges.bind fun _ _ =>
        Registry.isResolved_construct hr h.is_declared _
  | decodeRecord h shape =>
      exact Registry.isResolved_decode hr hresolved h.is_declared
  | readUnion h shape => exact Registry.isResolved_adapt hr h.is_declared shape
  | updateUnion h i changes =>
      refine (h.isResolved_owned _).bind fun i _ => (h.isResolved_variant _).bind fun v hv => ?_
      obtain rfl := UnionHandle.union_of_variant hv
      exact v.isResolved_update hr i changes
  | decodeUnion h shape =>
      exact Registry.isResolved_decode hr hresolved h.is_declared
  | constructVariant h arguments =>
      exact isResolved_positional.bind fun _ _ => h.isResolved_constructFrom hr _
  | readVariant h shape => exact h.isResolved_fromShape hr shape
  | updateVariant h i changes => exact h.isResolved_update hr i changes

/-- An instance that a session can offer and that belongs to a type of one of its registries is
valid for the type. -/
theorem Session.isInstance_of_owns {s : Session} (hs : s.Reachable) {r : Registry}
    (hr : r ∈ s.registries) {i : Instance} (hi : Offered s.instances (.ofInstance i))
    {typeName : String} (howns : r.owns typeName i) : r.IsInstance typeName i :=
  hi.isInstance_of_owns (List.forall_mem_map.mpr hs.isSound.sound)
    (hs.isSound.eq_of_number_eq r hr) howns

/-- Encoding an instance of a record fails for other reasons than an unknown type. -/
theorem RecordHandle.isResolved_encode {h : RecordHandle} {i : Instance}
    (hr : h.registry.Resolved) (hvalid : h.owns i → h.registry.IsInstance h.name i) :
    IsResolved (h.encode i) := by
  refine (h.isResolved_owned i).bind fun result howned => ?_
  obtain rfl := RecordHandle.eq_of_owned howned
  have howns : h.owns result := by
    by_contra hforeign
    simp [owned, hforeign] at howned
  exact Registry.isResolved_encode hr (hvalid howns)

/-- Encoding an instance of a union fails for other reasons than an unknown type. -/
theorem UnionHandle.isResolved_encode {h : UnionHandle} {i : Instance}
    (hr : h.registry.Resolved) (hvalid : h.owns i → h.registry.IsInstance h.name i) :
    IsResolved (h.encode i) := by
  refine (h.isResolved_owned _).bind fun result howned => ?_
  obtain rfl := UnionHandle.eq_of_owned howned
  have howns : h.owns result := by
    by_contra hforeign
    simp [owned, Value.ofInstance, Value.instance?, hforeign] at howned
  exact Registry.isResolved_encode hr (hvalid howns)

/-! ## Commands -/

namespace CommandLine

variable {m : Type → Type} [Monad m]

open CommandLine.Session

/-- Decodes a document as an instance of a type, if the type is declared. -/
def validateDeclared (files : FileAccess m) (typeName document path : String)
    (given : SettingsOverride) : Session m Unit := do
  let loaded ← definitions files (← settings files path given)
  say ("Validating " ++ document ++ " against " ++ typeName)
  let shape ← readDocument files document
  if (loaded.registry.definition? typeName).isNone then throw (.type (.unknownType typeName))
  match loaded.registry.decode typeName shape with
  | .ok i =>
      say ("✓ " ++ document ++ " is a valid " ++ typeName)
      say (loaded.registry.render i)
  | .error error =>
      say ("✗ " ++ document ++ " is not a valid " ++ typeName)
      throw (.rejected error)

variable [LawfulMonad m]

/-- What follows a result that a command may not have matters for the result only. -/
theorem bind_orEnd_congr {ε α β : Type} {error : ε → CommandError} {outcome : Except ε α}
    {next next' : α → Session m β} (h : ∀ a, outcome = .ok a → next a = next' a) :
    (orEnd error outcome >>= next) = orEnd error outcome >>= next' := by
  cases outcome with
  | ok a => simp [orEnd, h a rfl]
  | error e => exact ExceptT.ext (by simp [orEnd])

/-- What follows loaded definitions matters for built registries only. -/
theorem bind_definitions_congr {β : Type} {files : FileAccess m} {settings : Settings}
    {next next' : LoadedDefinitions → Session m β}
    (h : ∀ loaded, loaded.registry.IsBuilt → next loaded = next' loaded) :
    (definitions files settings >>= next) = definitions files settings >>= next' := by
  simp only [definitions, bind_assoc]
  refine bind_congr fun _ => bind_congr fun _ => bind_congr fun _ => bind_congr fun _ => ?_
  exact bind_orEnd_congr fun loaded hloaded => h loaded (isBuilt_of_load hloaded)

/-- An unknown type is reported exactly if the type that the document should be of is not declared;
whatever else is wrong is wrong with the document. -/
theorem validate_eq_validateDeclared (files : FileAccess m)
    (typeName document path : String) (given : SettingsOverride) :
    validate files typeName document path given =
      validateDeclared files typeName document path given := by
  unfold validate validateDeclared
  refine bind_congr fun _ => bind_definitions_congr fun loaded hbuilt => ?_
  refine bind_congr fun _ => bind_congr fun shape => ?_
  cases hd : loaded.registry.definition? typeName with
  | none =>
      rw [Registry.decode_of_undeclared hd]
      simp [TypeError.code]
  | some d =>
      cases hdecode : loaded.registry.decode typeName shape with
      | ok i => rfl
      | error error =>
          have hcode : error.code ≠ .unknownType := by
            intro hcode
            cases error <;> cases hcode
            exact Registry.isResolved_decode hbuilt.isClosed hbuilt.resolved hd _ hdecode trivial
          simp [hcode]

end CommandLine

/-! ## Built registries -/

/-- Whatever is asked of the handles of a built registry, it does not fail for a type that is not
there: neither what gives an instance, nor encoding an instance that a session can offer, nor a
match. Decoding fails for an unknown type exactly if this is the type that is asked for, and so does
the command that validates a document. All that fields refer to is there. -/
theorem Registry.IsBuilt.isResolved_operations {r : Registry} (hr : r.IsBuilt) :
    (∀ call : Call, call.registry = r → IsResolved call.outcome) ∧
    (∀ s : Session, s.Reachable → r ∈ s.registries → ∀ i, Offered s.instances (.ofInstance i) →
      (∀ h : RecordHandle, h.registry = r → IsResolved (h.encode i)) ∧
      ∀ h : UnionHandle, h.registry = r → IsResolved (h.encode i)) ∧
    (∀ h : UnionHandle, h.registry = r → ∀ (α : Type) value (handlers : Entries (Instance → α)),
      IsResolved (h.matchOn value handlers)) ∧
    (∀ typeName shape name, r.decode typeName shape = .error (.unknownType name) ↔
      r.definition? typeName = none ∧ name = typeName) ∧
    (∀ (m : Type → Type) [Monad m] [LawfulMonad m] (files : FileAccess m)
      (typeName document path : String) (given : SettingsOverride),
      CommandLine.validate files typeName document path given =
        CommandLine.validateDeclared files typeName document path given) ∧
    r.IsClosed := by
  refine ⟨?_, ?_, ?_, ?_, ?_, hr.isClosed⟩
  · rintro call rfl
    exact call.isResolved_outcome hr.isClosed hr.resolved
  · intro s hs hmem i hi
    constructor
    · rintro h rfl
      exact h.isResolved_encode hr.resolved (Session.isInstance_of_owns hs hmem hi)
    · rintro h rfl
      exact h.isResolved_encode hr.resolved (Session.isInstance_of_owns hs hmem hi)
  · rintro h rfl α value handlers
    exact h.isResolved_matchOn value handlers
  · exact fun _ _ _ => decode_eq_unknownType_iff hr.isClosed hr.resolved
  · intro m _ _ files typeName document path given
    exact CommandLine.validate_eq_validateDeclared files typeName document path given

namespace Boards

/-- Decoding a board that has no members. -/
def decodeEmpty : Call :=
  .decodeRecord ⟨registry, "Board", _, _, definition?_board, shape_boardDefinition⟩ (.object [])

end Boards

/-- A board without members is not decoded, but not for a type that is not there. -/
theorem Boards.isResolved_decodeEmpty : registry.IsBuilt ∧
    (∃ e, decodeEmpty.outcome = .error e) ∧ IsResolved decodeEmpty.outcome ∧
    registry.decode "Person" (.object []) = .error (.unknownType "Person") := by
  obtain ⟨hcalls, -, -, hdecode, -, -⟩ := isBuilt_registry.isResolved_operations
  exact ⟨isBuilt_registry, ⟨_, rfl⟩, hcalls decodeEmpty rfl, (hdecode _ _ _).mpr ⟨rfl, rfl⟩⟩

end RecordSchema
