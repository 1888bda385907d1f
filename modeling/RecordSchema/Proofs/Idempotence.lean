import RecordSchema.Proofs.LaterData
import RecordSchema.Proofs.NormalForms
import RecordSchema.Proofs.Updates

/-!
# Validation is idempotent

A normal form is its own normal form, so what a check gives can be checked again, at the same place
or at another, and is given back as it is, with its members in the order that they have. This holds
of a candidate for a field (`Registry.coerce_again`), of the fields of a record or of a variant
together (`coerceFields_again`), and so of an instance, which is constructed again from its fields
(`construct_again`).
-/

namespace RecordSchema

open Outcome

namespace Registry

variable {r : Registry} {path other : Path}

/-- A candidate that was accepted is accepted again, as it was left. -/
theorem coerce_again (hr : r.Checked) {type : FieldType} {candidate result : Option Value}
    (h : r.coerce type candidate path = .ok result) : r.coerce type result other = .ok result := by
  have hcoerce : ∀ {candidate : Option Value} {path : Path},
      r.coerce type candidate path = .ok result ↔ r.AcceptsField type candidate result :=
    field_eq_ok fun _ _ path _ => coerceValue_eq_ok hr path
  exact hcoerce.mpr (hcoerce.mp h).of_normal

/-- Candidates for fields are accepted together if each is accepted as the field of its name. -/
theorem coerceFields_eq_ok (hr : r.Checked) {declared : Fields} (hdistinct : declared.names.Nodup)
    {candidate : String → Option Value} {present : Entries Value} :
    r.coerceFields declared candidate path = .ok present ↔
      present.names.Sublist declared.names ∧ ∀ field ∈ declared,
        r.AcceptsField field.2 (candidate field.1) (present.get? field.1) := by
  rw [coerceFields, fields_eq_ok hdistinct]
  simp only [field_eq_ok fun _ _ path _ => coerceValue_eq_ok hr path]

/-- Fields that were accepted together are accepted again, in the order of declaration. -/
theorem coerceFields_again (hr : r.Checked) {declared : Fields} (hdistinct : declared.names.Nodup)
    {candidate : String → Option Value} {present : Entries Value}
    (h : r.coerceFields declared candidate path = .ok present) :
    r.coerceFields declared present.get? other = .ok present := by
  rw [coerceFields_eq_ok hr hdistinct] at h ⊢
  obtain ⟨hsub, hfields⟩ := h
  exact ⟨hsub, fun field hfield => (hfields field hfield).of_normal⟩

/-- An instance that was constructed is constructed again from its fields. -/
theorem construct_again (hr : r.Checked) {typeName : String} {variant : Option String}
    {candidate : String → Option Value} {i : Instance}
    (h : r.construct typeName variant candidate = .ok i) :
    r.construct typeName variant i.get? = .ok i := by
  rw [construct_eq_ok hr] at h ⊢
  obtain ⟨d, declared, hd, hdeclared, htag, hvariant, hsub, hfields⟩ := h
  exact ⟨d, declared, hd, hdeclared, htag, hvariant, hsub,
    fun field hfield => (hfields field hfield).of_normal⟩

/-- Validation is idempotent in every built registry: what it gives for a field, and for the fields
of a record or of a variant, it gives again for what it gave, wherever that is put; and an instance
is constructed again from the fields that it was given. -/
theorem coerce_idempotent (hr : r.IsBuiltWithCodecs) :
    (∀ {type : FieldType} {candidate result : Option Value} {path : Path},
      r.coerce type candidate path = .ok result →
      ∀ other, r.coerce type result other = .ok result) ∧
    (∀ {typeName : String} {d : TypeDefinition} {variant : Option String} {declared : Fields}
        {candidate : String → Option Value} {present : Entries Value} {path : Path},
      r.definition? typeName = some d → d.fieldsOf? variant = some declared →
      r.coerceFields declared candidate path = .ok present →
      ∀ other, r.coerceFields declared present.get? other = .ok present) ∧
    ∀ {typeName : String} {variant : Option String} {candidate : String → Option Value}
        {i : Instance},
      r.construct typeName variant candidate = .ok i →
      r.construct typeName variant i.get? = .ok i := by
  have hchecked := hr.checked
  refine ⟨fun h _ => coerce_again hchecked h, fun hd hdeclared h _ => ?_,
    construct_again hchecked⟩
  exact coerceFields_again hchecked ((hchecked.names hd).distinct hdeclared) h

end Registry

namespace Boards

/-- The candidates for the fields of a board, in another order than they are declared in: an event
and one of two tasks are plain. -/
def plainFields : Entries Value :=
  [("events", .array [openedShape]),
   ("tasks", .object [
     ("b", .object [("due", .date newYear), ("id", .string "b")]),
     ("a", .ofInstance dueTask)])]

/-- The fields of the board, with instances in the places of shapes. -/
def checkedFields : Entries Value :=
  [("tasks", .object [
     ("b", .ofInstance ⟨registry.tag "Task", none, [("id", .string "b"), ("due", .date newYear)]⟩),
     ("a", .ofInstance dueTask)]),
   ("events", .array [.ofInstance (opened (task "c"))])]

/-- The fields of the board, and a list of events, pass a second check as they passed the first. -/
theorem coerceFields_checkedFields :
    registry.coerceFields (boardFields (some "id")) plainFields.get? [] = .ok checkedFields ∧
      registry.coerceFields (boardFields (some "id")) checkedFields.get? [.field "board"] =
        .ok checkedFields ∧
      registry.coerce eventsType (some (.array [.ofInstance (opened (task "c")),
          .ofInstance (opened dueTask)])) [.field "events"] =
        .ok (some (.array [.ofInstance (opened (task "c")), .ofInstance (opened dueTask)])) ∧
      registry.construct "Board" none checkedFields.get? =
        .ok ⟨registry.tag "Board", none, checkedFields⟩ := by
  have hplain : registry.coerceFields (boardFields (some "id")) plainFields.get? [] =
      .ok checkedFields := rfl
  have hconstruct : registry.construct "Board" none plainFields.get? =
      .ok ⟨registry.tag "Board", none, checkedFields⟩ := rfl
  obtain ⟨hvalue, hfields, hinstance⟩ :=
    Registry.coerce_idempotent isBuilt_registry.isBuiltWithCodecs
  have hdeclared : boardDefinition.fieldsOf? none = some (boardFields (some "id")) := rfl
  exact ⟨hplain, hfields definition?_board hdeclared hplain _, hvalue coerce_events _,
    hinstance hconstruct⟩

end Boards

end RecordSchema
