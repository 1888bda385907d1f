import RecordSchema.Proofs.DecodedPlaces

/-!
# Rejected calls

Constructing an instance, reading one from a shape and decoding one reject what they are given at a
place in it, and say there what is wrong (`Call.explains_of_rejected`). The one exception is a field
of the name of the variant key, which a union that is read from a shape does not see; decoding the
same shape does, and so does the variant itself.
-/

namespace RecordSchema

open Outcome

/-- An object has each key once, and an instance each field. -/
def Value.HasDistinctNames (value : Value) : Prop :=
  ∀ members, value.named? = some members → members.names.Nodup

theorem Value.HasDistinctNames.keys {value : Value} (h : value.HasDistinctNames) :
    value.HasDistinctKeys := by
  cases value with
  | object members => exact h members rfl
  | _ => trivial

/-- The arguments that are there, under the names of their fields. -/
def givenArguments (declared : Fields) (arguments : List (Option Value)) : Entries Value :=
  (declared.names.zip arguments).filterMap fun argument ↦ argument.2.map (argument.1, ·)

/-- Arguments are given under the names of fields. -/
theorem names_givenArguments_subset (declared : Fields) (arguments : List (Option Value)) :
    (givenArguments declared arguments).names ⊆ declared.names := by
  intro name hname
  obtain ⟨value, hmem⟩ := Entries.exists_mem_of_mem_names hname
  obtain ⟨argument, hargument, hgiven⟩ := List.mem_filterMap.mp hmem
  obtain ⟨_, -, heq⟩ := Option.map_eq_some_iff.mp hgiven
  cases heq
  exact (List.of_mem_zip hargument).1

/-- The arguments that are there are the candidates for the fields. -/
theorem get?_givenArguments {declared : Fields} (hdistinct : declared.names.Nodup)
    (arguments : List (Option Value)) (name : String) :
    (givenArguments declared arguments).get? name =
      (Entries.get? name (declared.names.zip arguments)).join := by
  induction declared generalizing arguments with
  | nil => rfl
  | cons field rest ih =>
      obtain ⟨hnew, hdistinct⟩ := List.nodup_cons.mp hdistinct
      cases arguments with
      | nil => rfl
      | cons argument arguments =>
          rw [Entries.names_cons, List.zip_cons_cons, Entries.get?_cons]
          cases argument with
          | some value =>
              have hgiven : givenArguments (field :: rest) (some value :: arguments) =
                  (field.1, value) :: givenArguments rest arguments := rfl
              rw [hgiven, Entries.get?_cons, ih hdistinct]
              split <;> rfl
          | none =>
              have hgiven : givenArguments (field :: rest) (none :: arguments) =
                  givenArguments rest arguments := rfl
              rw [hgiven]
              split
              next heq =>
                  subst heq
                  exact Entries.get?_eq_none_iff.mpr
                    fun hmem => hnew (names_givenArguments_subset rest arguments hmem)
              next => exact ih hdistinct arguments

/-- Arguments that are given are among the arguments. -/
theorem mem_of_mem_givenArguments {declared : Fields} {arguments : List (Option Value)}
    {argument : String × Value} (h : argument ∈ givenArguments declared arguments) :
    argument.2 ∈ arguments.filterMap id := by
  obtain ⟨given, hgiven, hsome⟩ := List.mem_filterMap.mp h
  obtain ⟨value, hvalue, rfl⟩ := Option.map_eq_some_iff.mp hsome
  exact List.mem_filterMap.mpr ⟨given.2, (List.of_mem_zip hgiven).2, hvalue⟩

namespace Registry

variable {r : Registry} {typeName : String} {d : TypeDefinition} {variant : Option String}
  {declared : Fields} {root : Value} {members : Entries Value} {error : TypeError}
  {rejection : Rejection}

/-- Candidates for fields are rejected for one of them, or for one that is not there. -/
theorem explains_of_construct (hr : r.IsBuilt) (hd : r.definition? typeName = some d)
    (hdeclared : d.fieldsOf? variant = some declared) (hroot : root.named? = some members)
    (hkeys : ∀ member ∈ members, member.2.Everywhere Value.HasDistinctKeys)
    (h : r.construct typeName variant members.get? = .error error)
    (hrejection : error.rejection? = some rejection) :
    r.Explains (.ofValue r root) (.fields declared) rejection ∨
      r.HidesField (.ofValue r root) (.fields declared) rejection := by
  have hkind : rejection.kind ≠ .unresolved := by
    have hresolved := isResolved_construct hr.isClosed hd members.get? error h
    cases error <;> cases hrejection
    exact hresolved
  obtain ⟨_, hrejected, rfl⟩ := (construct_eq_error hd hdeclared).mp h
  cases hrejection
  obtain ⟨⟨name, type⟩, hmem, hfield⟩ := exists_field_of_fields_eq_error hrejected
  have hplace : r.Governs (.ofValue r root) (.fields declared) (Path.field [] name) (.field type) :=
    Governs.start.field hmem
  have hroot' : root.at? [] = some root := rfl
  have hstep : root.at? (Path.field [] name) = members.get? name :=
    (Value.at?_append hroot' (.field name)).trans (step?_field hroot name)
  rcases hfield with ⟨hnone, hrequired, rfl⟩ | ⟨value, hvalue, hrejected⟩
  · exact .inl (.missingField hplace hrequired (hstep.trans hnone))
  · exact explains_of_coerceValue hr.resolved.checked (hkeys _ (Entries.mem_of_get? hvalue))
      (hstep.trans hvalue) hplace.candidate hkind hrejected

/-- A shape is rejected if it is none, or for something in it. -/
theorem explains_of_adapt (hr : r.IsBuilt) (hd : r.definition? typeName = some d)
    (hnames : root.Everywhere Value.HasDistinctNames) (h : r.adapt d root = .error error)
    (hrejection : error.rejection? = some rejection) :
    r.Explains (.ofValue r root) (.shape d) rejection ∨
      r.HidesField (.ofValue r root) (.shape d) rejection := by
  have hkind : rejection.kind ≠ .unresolved := by
    have hresolved := isResolved_adapt hr.isClosed hd root error h
    cases error <;> cases hrejection
    exact hresolved
  have hread : ∀ members : Entries Value, root.named? = some members →
      (∀ member ∈ members, member.2.Everywhere Value.HasDistinctNames) →
      (r.coerceShape d members []).mapError (d.rejected none) = .error error →
      r.Explains (.ofValue r root) (.shape d) rejection ∨
        r.HidesField (.ofValue r root) (.shape d) rejection := by
    intro members hroot hmembers hfails
    obtain ⟨_, hrejected, rfl⟩ := mapError_eq_error.mp hfails
    cases hrejection
    refine explains_of_coerceShape rfl hroot (hnames.here members hroot) .start ?_ hrejected
    intro member hmember _ _ _ hthere hplace hfails
    have hkeys := (hmembers member hmember).imp fun _ => Value.HasDistinctNames.keys
    exact explains_of_coerceValue hr.resolved.checked hkeys hthere hplace hkind hfails
  cases root with
  | object members => exact hread members rfl (Value.everywhere_object.mp hnames).2 h
  | tagged tag variant fields =>
      rw [adapt] at h
      split at h
      · cases h
      · exact hread fields rfl (Value.everywhere_tagged.mp hnames).2 h
  | _ =>
      cases h
      cases hrejection
      exact .inl (.noObject (.inl ⟨d, rfl⟩) .start rfl rfl)

/-- What is rejected of arguments in order of declaration is rejected of them as candidates by
name. -/
theorem construct_of_positional (hr : r.Checked) (hd : r.definition? typeName = some d)
    (hdeclared : d.fieldsOf? variant = some declared) {qualifiedName : String}
    {arguments : List (Option Value)}
    (h : (positional qualifiedName declared arguments >>= r.construct typeName variant)
      = .error error)
    (hrejection : error.rejection? = some rejection) :
    r.construct typeName variant (givenArguments declared arguments).get? = .error error := by
  rw [positional] at h
  split at h
  · cases h
    cases hrejection
  · have hcandidate : (fun name ↦ (Entries.get? name (declared.names.zip arguments)).join) =
        (givenArguments declared arguments).get? :=
      funext fun name =>
        (get?_givenArguments ((hr.names hd).distinct hdeclared) arguments name).symm
    exact hcandidate ▸ h

/-- Arguments are rejected for one of them, or for one that is not there. -/
theorem explains_of_positional (hr : r.IsBuilt) (hd : r.definition? typeName = some d)
    (hdeclared : d.fieldsOf? variant = some declared) {qualifiedName : String}
    {arguments : List (Option Value)}
    (hnames : ∀ value ∈ arguments.filterMap id, value.Everywhere Value.HasDistinctNames)
    (h : (positional qualifiedName declared arguments >>= r.construct typeName variant)
      = .error error)
    (hrejection : error.rejection? = some rejection) :
    r.Explains (.ofValue r (.object (givenArguments declared arguments))) (.fields declared)
        rejection ∨
      r.HidesField (.ofValue r (.object (givenArguments declared arguments))) (.fields declared)
        rejection :=
  explains_of_construct hr hd hdeclared rfl
    (fun _ hmember =>
      (hnames _ (mem_of_mem_givenArguments hmember)).imp fun _ => Value.HasDistinctNames.keys)
    (construct_of_positional hr.resolved.checked hd hdeclared h hrejection) hrejection

end Registry

/-- The fields of a record are those of its definition. -/
theorem RecordHandle.fieldsOf?_eq (h : RecordHandle) :
    h.definition.fieldsOf? none = some h.fields := by
  simp only [TypeDefinition.fieldsOf?, h.is_record]

/-- The fields of a variant are those of the definition of its union. -/
theorem VariantHandle.fieldsOf?_eq (h : VariantHandle) :
    h.union.definition.fieldsOf? (some h.name) = some h.fields := by
  simp only [TypeDefinition.fieldsOf?, h.union.is_union, h.is_variant]

/-- A shape that a variant reads is rejected if it is none, or for something in it. -/
theorem VariantHandle.explains_of_fromShape {h : VariantHandle} (hr : h.union.registry.IsBuilt)
    {root : Value} (hnames : root.Everywhere Value.HasDistinctNames) {error : TypeError}
    {rejection : Rejection} (hfails : h.fromShape root = .error error)
    (hrejection : error.rejection? = some rejection) :
    h.union.registry.Explains (.ofValue h.union.registry root) (.fields h.fields) rejection ∨
      h.union.registry.HidesField (.ofValue h.union.registry root) (.fields h.fields)
        rejection := by
  have hread : ∀ members : Entries Value, root.named? = some members →
      (∀ member ∈ members, member.2.Everywhere Value.HasDistinctNames) →
      h.constructFrom (fun field ↦ members.get? field) = .error error →
      h.union.registry.Explains (.ofValue h.union.registry root) (.fields h.fields) rejection ∨
        h.union.registry.HidesField (.ofValue h.union.registry root) (.fields h.fields)
          rejection :=
    fun members hroot hmembers hfails => Registry.explains_of_construct hr h.union.is_declared
      h.fieldsOf?_eq hroot
      (fun member hmember => (hmembers member hmember).imp fun _ => Value.HasDistinctNames.keys)
      hfails hrejection
  cases root with
  | object members => exact hread members rfl (Value.everywhere_object.mp hnames).2 hfails
  | tagged tag variant fields =>
      rw [VariantHandle.fromShape] at hfails
      split at hfails
      · cases hfails
      · exact hread fields rfl (Value.everywhere_tagged.mp hnames).2 hfails
  | _ =>
      cases hfails
      cases hrejection
      exact .inl (.noObject (.inr ⟨h.fields, rfl⟩) .start rfl rfl)

namespace Call

/-- What is checked, and what is expected of it as a whole: the fields of arguments, a shape, or an
instance. An update checks fields that are in part those of the instance. -/
def subject? : Call → Option (Subject × Place)
  | constructRecord h arguments =>
      some (.ofValue h.registry (.object (givenArguments h.fields arguments)), .fields h.fields)
  | constructVariant h arguments =>
      some (.ofValue h.union.registry (.object (givenArguments h.fields arguments)),
        .fields h.fields)
  | readRecord h shape => some (.ofValue h.registry shape, .shape h.definition)
  | readUnion h shape => some (.ofValue h.registry shape, .shape h.definition)
  | readVariant h shape => some (.ofValue h.union.registry shape, .fields h.fields)
  | decodeRecord h shape => some (.ofJson h.registry shape, .value (.tagged h.name) 0)
  | decodeUnion h shape => some (.ofJson h.registry shape, .value (.tagged h.name) 0)
  | updateRecord .. | updateUnion .. | updateVariant .. => none

/-- A call that is rejected names a place of what it was given, and what it says about it is true:
the value there is not accepted where the types expect something else, or there is nothing where
something is due, or it is the key of a member of a keyed collection. The only exception is a field
of the name of the variant key, where a union is read from a shape. -/
theorem explains_of_rejected {call : Call} (hr : call.registry.IsBuilt)
    (hnames : ∀ value ∈ call.values, value.Everywhere Value.HasDistinctNames)
    (hshapes : ∀ shape ∈ call.shapes, shape.WellFormed) {subject : Subject} {start : Place}
    (hsubject : call.subject? = some (subject, start)) {error : TypeError} {rejection : Rejection}
    (hfails : call.outcome = .error error) (hrejection : error.rejection? = some rejection) :
    (subject.at? rejection.path.dropLast).isSome ∧
      (call.registry.Explains subject start rejection ∨
        call.shapes = [] ∧ call.registry.HidesField subject start rejection) := by
  suffices hplaced : call.registry.Explains subject start rejection ∨
      call.shapes = [] ∧ call.registry.HidesField subject start rejection by
    refine ⟨?_, hplaced⟩
    rcases hplaced with hexplains | ⟨-, hhides⟩
    · exact hexplains.exists_parent
    · exact hhides.exists_parent
  cases call with
  | constructRecord h arguments =>
      cases hsubject
      exact (Registry.explains_of_positional hr h.is_declared h.fieldsOf?_eq hnames hfails
        hrejection).imp_right (⟨rfl, ·⟩)
  | constructVariant h arguments =>
      cases hsubject
      exact (Registry.explains_of_positional hr h.union.is_declared h.fieldsOf?_eq hnames hfails
        hrejection).imp_right (⟨rfl, ·⟩)
  | readRecord h shape | readUnion h shape =>
      cases hsubject
      exact (Registry.explains_of_adapt hr h.is_declared (hnames shape List.mem_cons_self) hfails
        hrejection).imp_right (⟨rfl, ·⟩)
  | readVariant h shape =>
      cases hsubject
      exact (h.explains_of_fromShape hr (hnames shape List.mem_cons_self) hfails
        hrejection).imp_right (⟨rfl, ·⟩)
  | decodeRecord h shape | decodeUnion h shape =>
      cases hsubject
      exact .inl (Registry.explains_of_decode hr ⟨_, h.is_declared⟩
        (hshapes shape List.mem_cons_self) hfails hrejection)
  | _ => cases hsubject

end Call

/-- A parcel whose city is no text is rejected at the city. -/
theorem Parcels.explains_wrongCity :
    ((Json.object (members (.number (.integer 1)))).at? [.field "address"]).isSome ∧
      registry.Explains (.ofJson registry (.object (members (.number (.integer 1)))))
        (.value (.tagged "Parcel") 0) wrongCity := by
  have hshape : (Json.object (members (.number (.integer 1)))).WellFormed := by
    simp [members, Entries.names]
  obtain ⟨hparent, hplaced⟩ := @Call.explains_of_rejected
    (.decodeRecord ⟨registry, "Parcel", parcel, parcelFields, rfl, rfl⟩ _) isBuilt_registry
    (List.forall_mem_nil _) (List.forall_mem_singleton.mpr hshape) _ _ rfl _ _
    decode_members_wrongCity rfl
  exact ⟨hparent, hplaced.resolve_right fun h => List.cons_ne_nil _ _ h.1⟩

/-!
An entry of a ledger is a note with a text under the name of the variant key.
-/

namespace Ledgers

/-- The fields of a note. -/
def noteFields : Fields :=
  [("@tag", .ofRule .string), ("size", .ofRule .number)]

/-- Entries are notes. -/
def entry : TypeDefinition :=
  ⟨"Entry", .union [("Note", noteFields)], none⟩

/-- The registry of entries. -/
def registry : Registry :=
  ⟨0, [("Entry", ⟨entry, .standard⟩)], [], .standard⟩

theorem isBuilt_registry : registry.IsBuilt := by
  refine ⟨{ Declarations.empty .standard with definitions := [entry] }, ⟨fun d hd => ?_, ?_⟩, rfl⟩
  · obtain rfl := List.mem_singleton.mp hd
    exact @TypeDefinition.IsDeclared.union "Entry" [("Note", noteFields)] _ (by decide) (by decide)
      rfl
  · simp [Declarations.empty]

/-- A note with everything that notes have. -/
def note : Value :=
  .object [("@tag", .string "Note"), ("size", .number (.ofInt 1))]

/-- The text is said to be missing. -/
def missingText : Rejection :=
  .missing [.field "@tag"] "String"

/-- The text is there. -/
theorem not_explains_missingText :
    ¬ registry.Explains (.ofValue registry note) (.shape entry) missingText :=
  fun h => nomatch h.nothing_of_missing rfl

/-- Not every rejection says what is wrong where it says so: where a union is read from a shape, a
field of the name of the variant key is missed although it is there. -/
theorem not_forall_explains_of_rejected :
    ¬ ∀ (call : Call) (subject : Subject) (start : Place) (error : TypeError)
        (rejection : Rejection), call.registry.IsBuilt →
      (∀ value ∈ call.values, value.Everywhere Value.HasDistinctNames) →
      (∀ shape ∈ call.shapes, shape.WellFormed) → call.subject? = some (subject, start) →
      call.outcome = .error error → error.rejection? = some rejection →
      call.registry.Explains subject start rejection := by
  intro h
  have hnames : note.Everywhere Value.HasDistinctNames := by
    refine Value.everywhere_object.mpr ⟨?_, ?_⟩
    · rintro _ ⟨⟩
      decide
    · refine List.forall_mem_cons.mpr ⟨.of_leaf trivial nofun, ?_⟩
      exact List.forall_mem_singleton.mpr (.of_leaf trivial nofun)
  exact not_explains_missingText (h (.readUnion ⟨registry, "Entry", entry, _, rfl, rfl⟩ note) _ _ _
    missingText isBuilt_registry (List.forall_mem_singleton.mpr hnames) (List.forall_mem_nil _) rfl
    rfl rfl)

end Ledgers

end RecordSchema
