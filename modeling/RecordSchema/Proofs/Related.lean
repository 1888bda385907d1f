import RecordSchema.Definition.Basic
import RecordSchema.Proofs.Entries

/-!
# Definitions that correspond

Entries and shapes correspond if they have the same names in the same order and, under them, values
or field types that do. Applying a step to all types of a shape gives the shape whose types are what
the step gives for them (`Shape.mapTypes_eq_ok`).
-/

namespace RecordSchema

open Outcome

/-- The entries have the same names in the same order, and values that correspond. -/
def Entries.Related {α β : Type} (R : α → β → Prop) (left : Entries α) (right : Entries β) : Prop :=
  List.Forall₂ (fun l r => l.1 = r.1 ∧ R l.2 r.2) left right

/-- Both shapes are records or both are unions, with the same variants and the same fields in the
same order, and with types that correspond. -/
inductive Shape.Related (R : FieldType → FieldType → Prop) : Shape → Shape → Prop
  | record {fields others : Fields} : fields.Related R others →
      Related R (.record fields) (.record others)
  | union {variants others : Entries Fields} : variants.Related (Entries.Related R) others →
      Related R (.union variants) (.union others)

namespace Entries

variable {α β ε : Type} {R S : α → β → Prop} {entries : Entries α} {right : Entries β}

/-- Entries correspond by what follows for their values. -/
theorem Related.imp (hRS : ∀ {a b}, R a b → S a b) (h : entries.Related R right) :
    entries.Related S right :=
  List.Forall₂.imp (fun _ _ heq => ⟨heq.1, hRS heq.2⟩) h

/-- Entries that correspond have the same names. -/
theorem Related.names_eq (h : entries.Related R right) : entries.names = right.names :=
  map_eq_map_of_forall₂ (List.Forall₂.imp (fun _ _ heq => heq.1) h)

/-- What is found among entries corresponds to what is found among those that correspond to them. -/
theorem Related.exists_get? (h : entries.Related R right) {name : String} {value : α}
    (hget : entries.get? name = some value) :
    ∃ other, right.get? name = some other ∧ R value other := by
  have hflip : List.Forall₂ (fun r l => r.1 = l.1 ∧ R l.2 r.2) right entries :=
    List.Forall₂.flip (List.Forall₂.imp (fun _ _ heq => ⟨heq.1.symm, heq.2⟩) h)
  exact get?_of_forall₂ (R := fun other value => R value other) hflip hget

/-- There are entries that correspond exactly when there are values that do. -/
theorem exists_related_iff :
    (∃ others, entries.Related R others) ↔ ∀ entry ∈ entries, ∃ value, R entry.2 value := by
  constructor
  · intro h entry hmem
    obtain ⟨others, hothers⟩ := h
    obtain ⟨other, -, -, hother⟩ := exists_of_mem_left hothers hmem
    exact ⟨other.2, hother⟩
  · intro h
    refine exists_forall₂ fun entry hmem => ?_
    obtain ⟨value, hvalue⟩ := h entry hmem
    exact ⟨(entry.1, value), rfl, hvalue⟩

/-- A step for each value of the entries gives the entries with the results. -/
theorem mapM_eq_ok_of_mem {step : String → α → Except ε β}
    (hstep : ∀ entry ∈ entries, ∀ b, step entry.1 entry.2 = .ok b ↔ R entry.2 b) :
    (entries.mapM fun (name, value) ↦ do
      let result ← step name value
      return (name, result)) = .ok right ↔ entries.Related R right := by
  rw [Outcome.mapM_eq_ok, Related]
  refine forall₂_congr_left fun entry hentry other => ?_
  simp only [bind_eq_ok, hstep entry hentry, pure_eq_ok]
  constructor
  · intro h
    obtain ⟨value, hvalue, rfl⟩ := h
    exact ⟨rfl, hvalue⟩
  · intro h
    exact ⟨other.2, h.2, Prod.ext h.1 rfl⟩

/-- A step for each value gives the entries with the results. -/
theorem mapM_eq_ok {step : String → α → Except ε β}
    (hstep : ∀ name a b, step name a = .ok b ↔ R a b) :
    (entries.mapM fun (name, value) ↦ do
      let result ← step name value
      return (name, result)) = .ok right ↔ entries.Related R right :=
  mapM_eq_ok_of_mem fun entry _ => hstep entry.1 entry.2

end Entries

namespace Shape

variable {R S : FieldType → FieldType → Prop} {shape right : Shape}

/-- Shapes correspond by what follows for their types. -/
theorem Related.imp (hRS : ∀ {a b}, R a b → S a b) (h : Related R shape right) :
    Related S shape right := by
  cases h with
  | record h => exact .record (h.imp hRS)
  | union h => exact .union (h.imp (Entries.Related.imp hRS))

/-- There is a shape that corresponds exactly when each type of a field corresponds to one. -/
theorem exists_related_iff :
    (∃ other, Related R shape other) ↔
      ∀ fields ∈ shape.alternatives, ∀ field ∈ fields, ∃ type, R field.2 type := by
  cases shape with
  | record fields =>
      rw [alternatives, List.forall_mem_singleton, ← Entries.exists_related_iff]
      constructor
      · rintro ⟨_, ⟨hothers⟩⟩
        exact ⟨_, hothers⟩
      · rintro ⟨others, hothers⟩
        exact ⟨_, .record hothers⟩
  | union variants =>
      simp only [alternatives, Entries.values, List.forall_mem_map, ← Entries.exists_related_iff]
      constructor
      · rintro ⟨_, hothers⟩
        cases hothers with
        | union hothers => exact ⟨_, hothers⟩
      · rintro ⟨others, hothers⟩
        exact ⟨_, .union hothers⟩

/-- The fields of an instance correspond to the fields of an instance. -/
theorem Related.exists_alternative (h : Related R shape right) {fields : Fields}
    (hfields : fields ∈ right.alternatives) :
    ∃ declared ∈ shape.alternatives, Entries.Related R declared fields := by
  cases h with
  | record h =>
      obtain rfl := List.mem_singleton.mp hfields
      exact ⟨_, List.mem_cons_self, h⟩
  | union h =>
      obtain ⟨variant, hvariant, rfl⟩ := List.mem_map.mp hfields
      obtain ⟨declared, hdeclared, -, hrelated⟩ := exists_of_mem_right h hvariant
      exact ⟨_, List.mem_map_of_mem hdeclared, hrelated⟩

/-- A step for each type gives the shape with the results. -/
theorem mapTypes_eq_ok {step : String → FieldType → Except TypeError FieldType}
    (hstep : ∀ label type result, step label type = .ok result ↔ R type result) :
    shape.mapTypes step = .ok right ↔ shape.Related R right := by
  have hfields : ∀ label (fields others : Fields),
      fields.mapTypes step label = .ok others ↔ fields.Related R others :=
    fun label _ _ => Entries.mapM_eq_ok fun field => hstep (label ++ field)
  cases shape with
  | record fields =>
      rw [mapTypes, map_eq_ok]
      constructor
      · rintro ⟨others, hothers, rfl⟩
        exact .record ((hfields _ _ _).mp hothers)
      · rintro ⟨hothers⟩
        exact ⟨_, (hfields _ _ _).mpr hothers, rfl⟩
  | union variants =>
      rw [mapTypes, bind_eq_ok]
      constructor
      · rintro ⟨others, hothers, hright⟩
        obtain rfl := pure_eq_ok.mp hright
        exact .union ((Entries.mapM_eq_ok fun variant => hfields (variant ++ ".")).mp hothers)
      · rintro (_ | hothers)
        exact ⟨_, (Entries.mapM_eq_ok fun variant => hfields (variant ++ ".")).mpr hothers, rfl⟩

end Shape

end RecordSchema
