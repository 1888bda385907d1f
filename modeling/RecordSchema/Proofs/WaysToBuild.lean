import RecordSchema.Proofs.LaterData
import RecordSchema.Proofs.RejectedCalls

/-!
# Ways to build an instance

A record and a variant are built from arguments, from an object that names its members, and from an
instance of another type, whose fields are read like the members of an object. All of them hand the
same candidates to the same check (`construct_eq_coerceFields`), so they have the same outcome. A
union reads a shape as the variant does that the shape names, but for the type that a rejection is
reported against.
-/

namespace RecordSchema

open Outcome

namespace Registry

variable {r : Registry} {typeName : String} {d : TypeDefinition} {variant : Option String}
  {declared : Fields}

/-- An instance is constructed by coercing its fields, and a rejection of one of them is reported
against the type or the variant. -/
theorem construct_eq_coerceFields (hd : r.definition? typeName = some d)
    (hdeclared : d.fieldsOf? variant = some declared) (candidate : String → Option Value) :
    r.construct typeName variant candidate =
      ((r.coerceFields declared candidate []).map fun present ↦
        ⟨r.tag typeName, variant, present⟩).mapError (d.rejected variant) := by
  rw [construct, definition_eq_ok.mpr hd]
  change (fieldsToConstruct d variant >>= _) = _
  rw [fieldsToConstruct_eq_ok.mpr hdeclared]
  change ((r.coerceFields declared candidate []).mapError (d.rejected variant) >>= _) = _
  cases r.coerceFields declared candidate [] <;> rfl

/-- A shape that names a declared variant is read by coercing the fields of the variant, and a
rejection of one of them is reported against the type. -/
theorem adapt_object_eq_coerceFields (hr : r.Checked) (hd : r.definition? typeName = some d)
    {members : Entries Value} (hvariant : r.shapeVariant? d members = some variant)
    (hdeclared : d.fieldsOf? variant = some declared) :
    r.adapt d (.object members) =
      ((r.coerceFields declared (fun name ↦ (r.fieldMembers d members).get? name) []).map
        fun present ↦ ⟨r.tag typeName, variant, present⟩).mapError (d.rejected none) :=
  calc r.adapt d (.object members)
    _ = (r.coerceShape d members []).mapError (d.rejected none) := rfl
    _ = _ := by rw [coerceShape_eq_coerceFields hvariant hdeclared, hr.name_eq hd]

end Registry

/-- Arguments that are not too many are the candidates for the fields as the members of an object
are that has them under the names of the fields. -/
theorem positional_of_le {typeName : String} {declared : Fields} (hdistinct : declared.names.Nodup)
    {arguments : List (Option Value)} (h : arguments.length ≤ declared.length) :
    positional typeName declared arguments =
      .ok fun name ↦ (givenArguments declared arguments).get? name := by
  rw [positional, if_neg (Nat.not_lt.mpr h)]
  exact congrArg Except.ok (funext fun name => (get?_givenArguments hdistinct arguments name).symm)

/-- Too many arguments are refused before any of them is looked at. -/
theorem positional_of_lt {typeName : String} {declared : Fields} {arguments : List (Option Value)}
    (h : declared.length < arguments.length) : positional typeName declared arguments =
      .error (.arityMismatch typeName declared.length arguments.length) :=
  if_pos h

/-- Instances of a type, or of a variant of one, are built alike in all ways: arguments in order of
declaration are the members of an object under the names of their fields, there may not be more of
them than fields, and an instance of another type is the object of its fields. -/
structure BuildsAlike (name : String) (declared : Fields) (owns : Instance → Bool)
    (construct : List (Option Value) → Except TypeError Instance)
    (fromShape : Value → Except TypeError Instance) : Prop where
  arguments_eq : ∀ arguments, arguments.length ≤ declared.length →
    construct arguments = fromShape (.object (givenArguments declared arguments))
  too_many : ∀ arguments, declared.length < arguments.length →
    construct arguments = .error (.arityMismatch name declared.length arguments.length)
  other_instance : ∀ i, owns i = false → fromShape (.ofInstance i) = fromShape (.object i.fields)

/-- The fields of a record are looked up among all members of a shape. -/
theorem RecordHandle.fieldMembers_eq (h : RecordHandle) (members : Entries Value) :
    h.registry.fieldMembers h.definition members = members := by
  simp [Registry.fieldMembers, TypeDefinition.isUnion, TypeDefinition.variants?, Shape.variants?,
    h.is_record]

/-- Records are built alike in all ways. -/
theorem RecordHandle.buildsAlike {h : RecordHandle} (hr : h.registry.Checked) :
    BuildsAlike h.name h.fields h.owns h.construct h.fromShape where
  arguments_eq arguments hle := by
    have hdistinct := (hr.names h.is_declared).distinct h.fieldsOf?_eq
    have hvariant : h.registry.shapeVariant? h.definition (givenArguments h.fields arguments)
        = some none := by
      rw [Registry.shapeVariant?, h.is_record]
    rw [construct, positional_of_le hdistinct hle, fromShape,
      Registry.adapt_object_eq_coerceFields hr h.is_declared hvariant h.fieldsOf?_eq,
      h.fieldMembers_eq]
    exact Registry.construct_eq_coerceFields h.is_declared h.fieldsOf?_eq _
  too_many arguments hlt := by
    rw [construct, positional_of_lt hlt]
    rfl
  other_instance i hi := by
    refine if_neg ?_
    rw [hr.name_eq h.is_declared]
    exact Bool.eq_false_iff.mp hi

/-- Variants are built alike in all ways. -/
theorem VariantHandle.buildsAlike {h : VariantHandle} (hr : h.union.registry.Checked) :
    BuildsAlike h.qualifiedName h.fields h.owns h.construct h.fromShape where
  arguments_eq arguments hle := by
    have hdistinct := (hr.names h.union.is_declared).distinct h.fieldsOf?_eq
    rw [construct, positional_of_le hdistinct hle]
    rfl
  too_many arguments hlt := by
    rw [construct, positional_of_lt hlt]
    rfl
  other_instance _ hi := if_neg (Bool.eq_false_iff.mp hi)

/-- A union reads a shape as the variant that it names does, without the name. -/
theorem VariantHandle.fromShape_eq_of_named {h : VariantHandle} (hr : h.union.registry.Checked)
    {before after : Entries Value}
    (hkey : h.union.registry.config.codec.variantKey ∉ (before ++ after).names) :
    ∃ outcome : Except Rejection Instance,
      h.union.fromShape (.object (before ++
        (h.union.registry.config.codec.variantKey, .string h.name) :: after)) =
          outcome.mapError (h.union.definition.rejected none) ∧
      h.fromShape (.object (before ++ after)) =
        outcome.mapError (h.union.definition.rejected (some h.name)) := by
  have hbefore : h.union.registry.config.codec.variantKey ∉ before.names :=
    fun hmem => hkey (Entries.names_append .. ▸ List.mem_append_left _ hmem)
  have hvariant : h.union.registry.shapeVariant? h.union.definition (before ++
      (h.union.registry.config.codec.variantKey, .string h.name) :: after) =
        some (some h.name) := by
    rw [Registry.shapeVariant?, h.union.is_union, Entries.get?_append,
      Entries.get?_eq_none_iff.mpr hbefore, Option.none_or, Entries.get?_cons, if_pos rfl]
  have hmembers : h.union.registry.fieldMembers h.union.definition (before ++
      (h.union.registry.config.codec.variantKey, .string h.name) :: after) = before ++ after := by
    have hunion : h.union.definition.isUnion := by
      simp [TypeDefinition.isUnion, TypeDefinition.variants?, Shape.variants?, h.union.is_union]
    rw [Registry.fieldMembers, if_pos hunion, Entries.erase_append_cons hbefore]
  have hunion := Registry.adapt_object_eq_coerceFields hr h.union.is_declared hvariant
    h.fieldsOf?_eq
  rw [hmembers] at hunion
  exact ⟨_, hunion, Registry.construct_eq_coerceFields h.union.is_declared h.fieldsOf?_eq _⟩

/-- In every built registry, all ways to build an instance of a record or of a variant have the same
outcome: arguments, the object that has them under the names of the fields, and an instance of
another type with these fields give the same instance or the same error, and too many arguments are
refused. A union reads a shape that names a variant as the variant reads what is left of it: both
give the same instance, or the same rejection, each under its own name. -/
theorem Registry.ways_to_build_agree {r : Registry} (hr : r.IsBuiltWithCodecs) :
    (∀ h : RecordHandle, h.registry = r →
      BuildsAlike h.name h.fields h.owns h.construct h.fromShape) ∧
    ∀ v : VariantHandle, v.union.registry = r →
      BuildsAlike v.qualifiedName v.fields v.owns v.construct v.fromShape ∧
      ∀ before after : Entries Value, r.config.codec.variantKey ∉ (before ++ after).names →
        ∃ outcome : Except Rejection Instance,
          v.union.fromShape (.object
              (before ++ (r.config.codec.variantKey, .string v.name) :: after)) =
            outcome.mapError (v.union.definition.rejected none) ∧
          v.fromShape (.object (before ++ after)) =
            outcome.mapError (v.union.definition.rejected (some v.name)) := by
  refine ⟨fun h hregistry => ?_, fun v hregistry => ?_⟩
  · subst hregistry
    exact h.buildsAlike hr.checked
  · subst hregistry
    exact ⟨v.buildsAlike hr.checked, fun _ _ => v.fromShape_eq_of_named hr.checked⟩

namespace Boards

/-- The definition of events. -/
def eventDefinition : TypeDefinition :=
  ⟨"Event", .union eventVariants, none⟩

theorem definition?_event : registry.definition? "Event" = some eventDefinition := rfl

theorem shape_eventDefinition : eventDefinition.shape = .union eventVariants := rfl

/-- Access to events. -/
def event : UnionHandle :=
  ⟨registry, "Event", eventDefinition, eventVariants, definition?_event, shape_eventDefinition⟩

/-- Events that a task was opened. -/
def openedEvent : VariantHandle :=
  ⟨event, "Opened", [("task", .ofRule (.tagged "Task"))], rfl⟩

/-- A task with a number for its identifier. -/
def numbered : Value :=
  .object [("id", .number (.ofInt 1))]

/-- The identifier is no text. -/
def wrongId : Rejection :=
  .wrongKind [.field "task", .field "id"] "String" (.number (.ofInt 1))

end Boards

/-- The event that a task with a wrong identifier was opened is rejected at the identifier, in
whatever way it is built. -/
theorem Boards.wrongId_of_numbered : registry.IsBuiltWithCodecs ∧
    openedEvent.union.registry = registry ∧ [some numbered].length ≤ openedEvent.fields.length ∧
    "@tag" ∉ Entries.names ([("task", numbered)] ++ []) ∧
    openedEvent.fromShape (.object [("task", numbered)]) =
      .error (event.definition.rejected (some "Opened") wrongId) ∧
    openedEvent.construct [some numbered] =
      .error (event.definition.rejected (some "Opened") wrongId) ∧
    event.fromShape (.object [("task", numbered), ("@tag", .string "Opened")]) =
      .error (event.definition.rejected none wrongId) := by
  have hbuilt := isBuilt_registry.isBuiltWithCodecs
  have hlength : [some numbered].length ≤ openedEvent.fields.length := by decide
  have hkey : "@tag" ∉ Entries.names ([("task", numbered)] ++ []) := by decide
  have hshape : openedEvent.fromShape (.object [("task", numbered)]) =
      .error (event.definition.rejected (some "Opened") wrongId) := rfl
  obtain ⟨-, hvariants⟩ := Registry.ways_to_build_agree hbuilt
  obtain ⟨halike, hnamed⟩ := hvariants openedEvent rfl
  have harguments := halike.arguments_eq [some numbered] hlength
  obtain ⟨outcome, hunion, hvariant⟩ := hnamed [("task", numbered)] [] hkey
  obtain ⟨rejection, rfl, hrejection⟩ := mapError_eq_error.mp (hvariant.symm.trans hshape)
  obtain rfl : rejection = wrongId := (TypeError.validationRejected.inj hrejection).2.2
  exact ⟨hbuilt, rfl, hlength, hkey, hshape, harguments.trans hshape, hunion⟩

end RecordSchema
