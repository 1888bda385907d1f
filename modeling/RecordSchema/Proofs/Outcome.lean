import Mathlib.Data.List.Forall2

/-!
# Outcomes

What it means for a computation that can fail to give a result. `bind_eq_ok` takes a sequence of
steps apart, `mapM_eq_ok` a list of steps; renaming an error or a result does not decide about
success. `bind_eq_error` says which step of a sequence failed, and `FailsOnlyAs` bounds the errors
that any of the steps can end in.
-/

namespace RecordSchema.Outcome

variable {ε ε' α β : Type}

/-- Two steps give a result exactly when the first one does and the second one does with it. -/
theorem bind_eq_ok {step : Except ε α} {next : α → Except ε β} {b : β} :
    (step >>= next) = .ok b ↔ ∃ a, step = .ok a ∧ next a = .ok b := by
  cases step with
  | error e => simp [bind, Except.bind]
  | ok a => simp [bind, Except.bind]

/-- A mapped result comes from a result. -/
theorem map_eq_ok {step : Except ε α} {f : α → β} {b : β} :
    step.map f = .ok b ↔ ∃ a, step = .ok a ∧ f a = b := by
  cases step with
  | error e => simp [Except.map]
  | ok a => simp [Except.map]

/-- Renaming errors keeps results as they are. -/
theorem mapError_eq_ok {step : Except ε α} {f : ε → ε'} {a : α} :
    step.mapError f = .ok a ↔ step = .ok a := by
  cases step with
  | error e => simp [Except.mapError]
  | ok a => simp [Except.mapError]

/-- Two steps fail where the first one does, or where the second one does with its result. -/
theorem bind_eq_error {step : Except ε α} {next : α → Except ε β} {e : ε} :
    (step >>= next) = .error e ↔ step = .error e ∨ ∃ a, step = .ok a ∧ next a = .error e := by
  cases step with
  | error e => simp [bind, Except.bind]
  | ok a => simp [bind, Except.bind]

/-- Where the first step is known to succeed, two steps fail where the second one does. -/
theorem bind_eq_error_of_ok {step : Except ε α} {next : α → Except ε β} {a : α} {e : ε}
    (hstep : step = .ok a) : (step >>= next) = .error e ↔ next a = .error e := by
  rw [hstep]
  rfl

/-- Mapping a result keeps errors as they are. -/
theorem map_eq_error {step : Except ε α} {f : α → β} {e : ε} :
    step.map f = .error e ↔ step = .error e := by
  cases step with
  | error e => simp [Except.map]
  | ok a => simp [Except.map]

/-- A renamed error comes from an error. -/
theorem mapError_eq_error {step : Except ε α} {f : ε → ε'} {e : ε'} :
    step.mapError f = .error e ↔ ∃ original, step = .error original ∧ f original = e := by
  cases step with
  | error e => simp [Except.mapError]
  | ok a => simp [Except.mapError]

/-- What is returned is the result. -/
theorem pure_eq_ok {a b : α} : (pure a : Except ε α) = .ok b ↔ a = b := by
  simp [pure, Except.pure]

/-- What follows a step matters for its result only. -/
theorem bind_congr_of_ok {step : Except ε α} {next next' : α → Except ε β}
    (h : ∀ a, step = .ok a → next a = next' a) : (step >>= next) = step >>= next' := by
  cases step with
  | error e => rfl
  | ok a => exact h a rfl

/-- A step that does not fail has a result. -/
theorem exists_ok_of_isOk {step : Except ε α} (h : step.isOk) : ∃ a, step = .ok a := by
  cases step with
  | ok a => exact ⟨a, rfl⟩
  | error e => cases h

/-- A step fails exactly if it has no result. -/
theorem exists_error_iff {step : Except ε α} : (∃ e, step = .error e) ↔ ¬ ∃ a, step = .ok a := by
  cases step <;> simp

/-- A condition on the result of a step, where the result is known. -/
theorem exists_ok_iff {step : Except ε α} {a : α} {P : α → Prop} (h : step = .ok a) :
    (∃ result, step = .ok result ∧ P result) ↔ P a := by
  simp [h]

/-- A condition on a mapped result is one on the result. -/
theorem exists_map_ok_iff {step : Except ε α} {f : α → β} {P : β → Prop} :
    (∃ result, step.map f = .ok result ∧ P result) ↔ ∃ a, step = .ok a ∧ P (f a) := by
  cases step with
  | error e => simp [Except.map]
  | ok a => simp [Except.map]

/-- A list of steps gives the results of all of them. -/
theorem mapM_eq_ok {f : α → Except ε β} {items : List α} {results : List β} :
    items.mapM f = .ok results ↔ List.Forall₂ (fun a b => f a = .ok b) items results := by
  induction items generalizing results with
  | nil => cases results <;> simp [List.mapM_nil, pure, Except.pure]
  | cons item items ih =>
      rw [List.mapM_cons, bind_eq_ok]
      constructor
      · intro h
        obtain ⟨first, hfirst, hrest⟩ := h
        obtain ⟨others, hothers, hresults⟩ := bind_eq_ok.mp hrest
        rw [pure_eq_ok] at hresults
        exact hresults ▸ .cons hfirst (ih.mp hothers)
      · intro h
        cases h with
        | cons hfirst hrest =>
            exact ⟨_, hfirst, bind_eq_ok.mpr ⟨_, ih.mpr hrest, rfl⟩⟩

/-- Lists of the same steps give the same. -/
theorem mapM_congr {f g : α → Except ε β} {items : List α} (h : ∀ item ∈ items, f item = g item) :
    items.mapM f = items.mapM g := by
  induction items with
  | nil => rfl
  | cons item items ih =>
      obtain ⟨hitem, hitems⟩ := List.forall_mem_cons.mp h
      rw [List.mapM_cons, List.mapM_cons, hitem, ih hitems]

/-- What is on the right of two lists that correspond one by one has its partner on the left. -/
theorem exists_of_mem_right {R : α → β → Prop} {left : List α} {right : List β}
    (h : List.Forall₂ R left right) {b : β} (hmem : b ∈ right) : ∃ a ∈ left, R a b := by
  induction h with
  | nil => simp at hmem
  | cons hfirst _ ih =>
      rcases List.mem_cons.mp hmem with rfl | hmem
      · exact ⟨_, List.mem_cons_self, hfirst⟩
      · obtain ⟨a, ha, hab⟩ := ih hmem
        exact ⟨a, List.mem_cons_of_mem _ ha, hab⟩

/-- What is on the left of two lists that correspond one by one has its partner on the right. -/
theorem exists_of_mem_left {R : α → β → Prop} {left : List α} {right : List β}
    (h : List.Forall₂ R left right) {a : α} (hmem : a ∈ left) : ∃ b ∈ right, R a b :=
  exists_of_mem_right (List.Forall₂.flip (R := flip R) h) hmem

/-- Lists that correspond one by one correspond by what follows for what is on the left. -/
theorem forall₂_imp_left {R S : α → β → Prop} {left : List α} {right : List β}
    (h : ∀ a ∈ left, ∀ b, R a b → S a b) (hall : List.Forall₂ R left right) :
    List.Forall₂ S left right := by
  induction hall with
  | nil => exact .nil
  | cons hhead _ ih =>
      obtain ⟨hfirst, hrest⟩ := List.forall_mem_cons.mp h
      exact .cons (hfirst _ hhead) (ih hrest)

/-- Lists correspond one by one whichever of two relations that agree on the left is meant. -/
theorem forall₂_congr_left {R S : α → β → Prop} {left : List α} {right : List β}
    (h : ∀ a ∈ left, ∀ b, R a b ↔ S a b) : List.Forall₂ R left right ↔ List.Forall₂ S left right :=
  ⟨forall₂_imp_left fun a ha b => (h a ha b).mp, forall₂_imp_left fun a ha b => (h a ha b).mpr⟩

/-- Lists whose members are related to the same are related to the same lists. -/
theorem forall₂_iff_of_alike {R : α → β → Prop} {left other : List α}
    (h : List.Forall₂ (fun a b => ∀ c, R a c ↔ R b c) left other) (right : List β) :
    List.Forall₂ R left right ↔ List.Forall₂ R other right := by
  induction h generalizing right with
  | nil => rfl
  | cons hhead _ ih =>
      cases right with
      | nil => simp
      | cons c right => rw [List.forall₂_cons, List.forall₂_cons, hhead, ih]

/-- Lists that differ in one place correspond one by one if what they have there does. -/
theorem forall₂_replace {R : α → α → Prop} (hrefl : ∀ a, R a a) {part other : α}
    (h : R part other) (before after : List α) :
    List.Forall₂ R (before ++ part :: after) (before ++ other :: after) :=
  List.rel_append (List.forall₂_same.mpr fun a _ => hrefl a)
    (.cons h (List.forall₂_same.mpr fun a _ => hrefl a))

/-- Lists have the same list of images exactly if their members have the same images one by one. -/
theorem map_eq_map_iff {γ : Type} {f : α → γ} {g : β → γ} {left : List α} {right : List β} :
    left.map f = right.map g ↔ List.Forall₂ (fun a b => f a = g b) left right := by
  rw [← List.forall₂_eq_eq_eq, List.forall₂_map_left_iff, List.forall₂_map_right_iff]

/-- Lists whose members have the same images one by one have the same list of images. -/
theorem map_eq_map_of_forall₂ {γ : Type} {f : α → γ} {g : β → γ} {left : List α} {right : List β}
    (h : List.Forall₂ (fun a b => f a = g b) left right) : left.map f = right.map g :=
  map_eq_map_iff.mpr h

/-- A list whose members are one by one the images of those of another list is its image. -/
theorem map_eq_of_forall₂ {f : α → β} {left : List α} {right : List β}
    (h : List.Forall₂ (fun a b => f a = b) left right) : left.map f = right :=
  (map_eq_map_of_forall₂ h).trans (List.map_id right)

/-- A list corresponds one by one to its image if each of its members does. -/
theorem forall₂_map_right {R : α → β → Prop} {f : α → β} {items : List α}
    (h : ∀ a ∈ items, R a (f a)) : List.Forall₂ R items (items.map f) :=
  List.forall₂_map_right_iff.mpr (List.forall₂_same.mpr h)

/-- A condition on what is on the right of two lists can be asked of each partner or of the list. -/
theorem forall₂_and_right {R : α → β → Prop} {P : β → Prop} {left : List α} {right : List β} :
    List.Forall₂ (fun a b => R a b ∧ P b) left right ↔
      List.Forall₂ R left right ∧ ∀ b ∈ right, P b := by
  have hflip := List.forall₂_and_left (R := flip R) (p := P) right left
  constructor
  · intro h
    obtain ⟨hright, hall⟩ := hflip.mp (h.imp fun _ _ h => h.symm).flip
    exact ⟨hall.flip, hright⟩
  · intro h
    exact (hflip.mpr ⟨h.2, h.1.flip⟩).flip.imp fun _ _ h => h.symm

/-- A list of which every member has a partner has a list of partners. -/
theorem exists_forall₂ {R : α → β → Prop} {left : List α} (h : ∀ a ∈ left, ∃ b, R a b) :
    ∃ right, List.Forall₂ R left right := by
  induction left with
  | nil => exact ⟨[], .nil⟩
  | cons a left ih =>
      obtain ⟨⟨b, hb⟩, hrest⟩ := List.forall_mem_cons.mp h
      obtain ⟨right, hright⟩ := ih hrest
      exact ⟨b :: right, .cons hb hright⟩

/-- Lists that correspond through partners correspond through a list of them. -/
theorem forall₂_exists_iff {γ : Type} {R : α → β → Prop} {S : β → γ → Prop} {left : List α}
    {right : List γ} :
    List.Forall₂ (fun a c => ∃ b, R a b ∧ S b c) left right ↔
      ∃ middle, List.Forall₂ R left middle ∧ List.Forall₂ S middle right := by
  constructor
  · intro h
    induction h with
    | nil => exact ⟨[], .nil, .nil⟩
    | cons hhead _ ih =>
        obtain ⟨b, hleft, hright⟩ := hhead
        obtain ⟨middle, hlefts, hrights⟩ := ih
        exact ⟨b :: middle, .cons hleft hlefts, .cons hright hrights⟩
  · intro h
    obtain ⟨middle, hleft, hright⟩ := h
    induction hleft generalizing right with
    | nil =>
        cases hright
        exact .nil
    | cons hhead _ ih =>
        cases hright with
        | cons hhead' htail => exact .cons ⟨_, hhead, hhead'⟩ (ih htail)

/-- A list that does not have a property throughout has a first place without it. -/
theorem exists_first_not {P : α → Prop} {items : List α} (h : ¬ ∀ item ∈ items, P item) :
    ∃ before item after, items = before ++ item :: after ∧ (∀ other ∈ before, P other) ∧
      ¬ P item := by
  induction items with
  | nil => simp at h
  | cons first rest ih =>
      by_cases hfirst : P first
      · have hrest : ¬ ∀ item ∈ rest, P item := fun hall =>
          h (List.forall_mem_cons.mpr ⟨hfirst, hall⟩)
        obtain ⟨before, item, after, rfl, hbefore, hitem⟩ := ih hrest
        exact ⟨first :: before, item, after, rfl, List.forall_mem_cons.mpr ⟨hfirst, hbefore⟩, hitem⟩
      · exact ⟨[], first, rest, rfl, List.forall_mem_nil _, hfirst⟩

/-- A list of checks that passes has passed each of them. -/
theorem eq_ok_of_forM {f : α → Except ε Unit} {items : List α} (h : items.forM f = .ok ()) :
    ∀ item ∈ items, f item = .ok () := by
  induction items with
  | nil => simp
  | cons item items ih =>
      rw [List.forM_eq_forM, List.forM_cons] at h
      obtain ⟨_, hfirst, hrest⟩ := bind_eq_ok.mp h
      exact List.forall_mem_cons.mpr ⟨hfirst, ih hrest⟩

section FailsOnlyAs

variable {P : ε → Prop}

/-- Whatever error the computation ends in has the property. -/
def FailsOnlyAs (P : ε → Prop) (step : Except ε α) : Prop :=
  ∀ e, step = .error e → P e

theorem failsOnlyAs_ok {a : α} : FailsOnlyAs P (.ok a) :=
  fun _ h => nomatch h

theorem failsOnlyAs_error {e : ε} (h : P e) : FailsOnlyAs P (.error e : Except ε α) :=
  fun _ heq => Except.error.inj heq ▸ h

/-- Two steps fail as each of them may. -/
theorem FailsOnlyAs.bind {step : Except ε α} {next : α → Except ε β} (h : FailsOnlyAs P step)
    (hnext : ∀ a, step = .ok a → FailsOnlyAs P (next a)) : FailsOnlyAs P (step >>= next) := by
  intro e he
  rcases bind_eq_error.mp he with hstep | ⟨a, ha, he⟩
  · exact h e hstep
  · exact hnext a ha e he

/-- Mapping a result keeps errors as they are. -/
theorem FailsOnlyAs.map {step : Except ε α} {f : α → β} (h : FailsOnlyAs P step) :
    FailsOnlyAs P (step.map f) :=
  fun e he => h e (map_eq_error.mp he)

/-- A renamed error is as its name says. -/
theorem FailsOnlyAs.mapError {step : Except ε α} {f : ε → ε'} (h : FailsOnlyAs P step)
    {Q : ε' → Prop} (hf : ∀ e, P e → Q (f e)) : FailsOnlyAs Q (step.mapError f) := by
  intro e he
  obtain ⟨original, horiginal, rfl⟩ := mapError_eq_error.mp he
  exact hf original (h original horiginal)

/-- A loop fails as its step may. -/
theorem failsOnlyAs_foldlM {f : β → α → Except ε β} {items : List α} {start : β}
    (h : ∀ item ∈ items, ∀ b, FailsOnlyAs P (f b item)) :
    FailsOnlyAs P (items.foldlM f start) := by
  induction items generalizing start with
  | nil => exact failsOnlyAs_ok
  | cons item items ih =>
      obtain ⟨hitem, hitems⟩ := List.forall_mem_cons.mp h
      rw [List.foldlM_cons]
      exact (hitem start).bind fun _ _ => ih hitems

end FailsOnlyAs

end RecordSchema.Outcome
