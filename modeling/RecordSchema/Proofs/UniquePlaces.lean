import RecordSchema.Proofs.DecodedPlaces

/-!
# What is expected at a path

At one path several things are expected, one after the other: a candidate for a field, a value, the
shape of a type and candidates for its fields. `Place.stage` tells them apart. The types leave no
choice: at a path there is at most one place of each stage (`Registry.Governs.unique`).
-/

namespace RecordSchema

open Outcome

/-- The place in the order in which places at the same path follow from each other. Variants stand
alone. -/
def Place.stage : Place → Nat
  | .field _ => 0
  | .value _ _ => 1
  | .shape _ => 2
  | .fields _ => 3
  | .variant _ => 4

/-- Paths of one step more are the same if they were and the steps are the same. -/
theorem Path.step_inj {path other : Path} {step step' : PathSegment}
    (h : path ++ [step] = other ++ [step']) : path = other ∧ step = step' := by
  obtain ⟨hpath, hstep⟩ := List.append_inj' h rfl
  exact ⟨hpath, List.head_eq_of_cons_eq hstep⟩

/-- A path of one step more is not empty. -/
theorem Path.step_ne_nil {path : Path} {step : PathSegment} : path ++ [step] ≠ [] :=
  List.append_ne_nil_of_right_ne_nil path (List.cons_ne_nil step [])

namespace Registry

variable {r : Registry} {subject : Subject} {start place other : Place} {path : Path}

/-- What is expected of the whole refers to declared types only and names each field once. -/
structure IsSoundStart (r : Registry) (start : Place) : Prop where
  known : r.KnowsPlace start
  distinct : ∀ declared, start = .fields declared → declared.names.Nodup

/-- The shape of a type can be expected of the whole. -/
theorem isSoundStart_shape {typeName : String} {d : TypeDefinition}
    (hd : r.definition? typeName = some d) : r.IsSoundStart (.shape d) :=
  ⟨⟨typeName, hd⟩, nofun⟩

/-- The fields of a type can be expected of the whole. -/
theorem isSoundStart_fields (hr : r.Checked) (hclosed : r.IsClosed) {typeName : String}
    {d : TypeDefinition} {variant : Option String} {declared : Fields}
    (hd : r.definition? typeName = some d) (hdeclared : d.fieldsOf? variant = some declared) :
    r.IsSoundStart (.fields declared) where
  known := fun _ hfield => hclosed.knows hd hdeclared hfield
  distinct := by
    rintro _ ⟨⟩
    exact (hr.names hd).distinct hdeclared

/-- Candidates for fields are expected under distinct names. -/
theorem Governs.nodup_names (hr : r.Checked) (hclosed : r.IsClosed) (hstart : r.IsSoundStart start)
    {declared : Fields} (h : r.Governs subject start path (.fields declared)) :
    declared.names.Nodup := by
  cases h with
  | start => exact hstart.distinct declared rfl
  | fields hshape _ _ _ hdeclared =>
      obtain ⟨typeName, hd⟩ := hshape.knowsPlace hclosed hstart.known
      exact (hr.names hd).distinct hdeclared

/-- Of the whole, only what follows from the start is expected. -/
theorem Governs.start_of_nil (h : r.Governs subject start [] place) :
    place = start ∨ start.stage < place.stage := by
  generalize hpath : ([] : Path) = path at h
  induction h with
  | start => exact .inl rfl
  | shape _ _ _ ih | fields _ _ _ _ _ ih | candidate _ ih =>
      rcases ih hpath with rfl | hlt
      · exact .inr (Nat.lt_succ_self _)
      · exact .inr (Nat.lt_succ_of_lt hlt)
  | _ => exact absurd hpath.symm Path.step_ne_nil

/-- A candidate for a field is expected under the name of a field only, or as the whole. -/
theorem Governs.step_of_field {step : PathSegment} {type : FieldType}
    (h : r.Governs subject start (path ++ [step]) (.field type)) : ∃ name, step = .field name := by
  generalize hpath : path ++ [step] = whole at h
  cases h with
  | start => exact absurd hpath Path.step_ne_nil
  | field => exact ⟨_, (Path.step_inj hpath).2⟩

/-- A value that is expected below anything but the name of a field is an item of an array, or a
member of a keyed collection. -/
theorem Governs.value_of_step {step : PathSegment} {rule : Rule} {depth : Nat}
    (h : r.Governs subject start (path ++ [step]) (.value rule depth))
    (hstep : ∀ name, step ≠ .field name) :
    (∃ position, step = .index position ∧
      r.Governs subject start path (.value rule (depth + 1))) ∨
    ∃ typeName idField, rule = .tagged typeName ∧ depth = 0 ∧
      r.Governs subject start path (.value (.keyed typeName idField) 0) := by
  generalize hpath : path ++ [step] = whole at h
  cases h with
  | start => exact absurd hpath Path.step_ne_nil
  | item position h =>
      obtain ⟨rfl, hindex⟩ := Path.step_inj hpath
      exact .inl ⟨position, hindex, h⟩
  | keyedItem _ h | member _ h =>
      obtain ⟨rfl, -⟩ := Path.step_inj hpath
      exact .inr ⟨_, _, rfl, rfl, h⟩
  | candidate h =>
      subst hpath
      obtain ⟨name, hfield⟩ := h.step_of_field
      exact absurd hfield (hstep name)

/-- At a path there is one place of each stage. -/
theorem Governs.unique (hr : r.Checked) (hclosed : r.IsClosed) (hstart : r.IsSoundStart start)
    (h : r.Governs subject start path place) (hother : r.Governs subject start path other)
    (hstage : place.stage = other.stage) : place = other := by
  have hwhole : ∀ {place}, r.Governs subject start [] place → place.stage = start.stage →
      place = start := fun h hstage => h.start_of_nil.resolve_right (hstage ▸ Nat.lt_irrefl _)
  induction h generalizing other with
  | start => exact (hwhole hother hstage.symm).symm
  | item position _ ih =>
      cases other with
      | value rule' depth' =>
          rcases hother.value_of_step nofun with ⟨_, -, hbefore⟩ | ⟨_, _, -, -, hbefore⟩
          · cases ih hbefore rfl
            rfl
          · cases ih hbefore rfl
      | _ => cases hstage
  | keyedItem position _ ih =>
      cases other with
      | value rule' depth' =>
          rcases hother.value_of_step nofun with ⟨_, -, hbefore⟩ | ⟨_, _, rfl, rfl, hbefore⟩
          · cases ih hbefore rfl
          · cases ih hbefore rfl
            rfl
      | _ => cases hstage
  | member key _ ih =>
      cases other with
      | value rule' depth' =>
          rcases hother.value_of_step nofun with ⟨_, hkey, -⟩ | ⟨_, _, rfl, rfl, hbefore⟩
          · cases hkey
          · cases ih hbefore rfl
            rfl
      | _ => cases hstage
  | shape h hd hat ih =>
      cases hother with
      | start => exact hwhole (h.shape hd hat) hstage
      | shape hother hd' _ =>
          cases ih hother rfl
          rw [Option.some.inj (hd.symm.trans hd')]
      | _ => cases hstage
  | variantKey _ hunion ih =>
      generalize hpath : Path.field _ _ = whole at hother
      cases hother with
      | start => exact absurd hpath Path.step_ne_nil
      | variantKey hother hunion' =>
          obtain ⟨rfl, -⟩ := Path.step_inj hpath
          cases ih hother rfl
          rw [Shape.union.inj (hunion.symm.trans hunion')]
      | _ => cases hstage
  | fields h hat hmembers hvariant hdeclared ih =>
      cases hother with
      | start => exact hwhole (h.fields hat hmembers hvariant hdeclared) hstage
      | fields hother hat' hmembers' hvariant' hdeclared' =>
          cases ih hother rfl
          obtain rfl := Option.some.inj (hat.symm.trans hat')
          obtain rfl := Option.some.inj (hmembers.symm.trans hmembers')
          obtain rfl := Option.some.inj (hvariant.symm.trans hvariant')
          rw [Option.some.inj (hdeclared.symm.trans hdeclared')]
      | _ => cases hstage
  | field h hmem ih =>
      generalize hpath : Path.field _ _ = whole at hother
      cases hother with
      | start => exact absurd hpath Path.step_ne_nil
      | field hother hmem' =>
          obtain ⟨rfl, hname⟩ := Path.step_inj hpath
          cases hname
          cases ih hother rfl
          have hdistinct := h.nodup_names hr hclosed hstart
          have hget := Entries.get?_of_mem hdistinct hmem
          rw [Option.some.inj (hget.symm.trans (Entries.get?_of_mem hdistinct hmem'))]
      | _ => cases hstage
  | candidate h ih =>
      cases hother with
      | start => exact hwhole h.candidate hstage
      | candidate hother =>
          cases ih hother rfl
          rfl
      -- A candidate stands under the name of a field.
      | item | keyedItem | member => cases h.step_of_field.choose_spec
      | _ => cases hstage

end Registry

end RecordSchema
