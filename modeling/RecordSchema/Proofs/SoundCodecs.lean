import RecordSchema.Proofs.ReadsAs
import RecordSchema.Proofs.Tags

/-!
# Codecs and sound instances

A hook that decodes does not make instances by itself: it gives one that it was given, by what it
asked for or by some registry before (`DecodeHook.GivesSound`). So whatever is decoded is sound, also
where types have codecs of their own (`Registry.sound_of_decode`), and in a session with such codecs
every instance is valid for the type of each handle that knows it
(`Session.ReachableWithSoundCodecs.isInstance_of_owns`).
-/

namespace RecordSchema

open Outcome

/-- What a hook can ask for gives sound instances, if it asks with well-formed JSON values. -/
structure DecodingServices.GiveSound (services : DecodingServices) (registries : List Registry) :
    Prop where
  fields : ∀ {typeName shape i}, shape.WellFormed → services.fields typeName shape = .ok i →
    (Value.ofInstance i).Sound registries
  shape : ∀ {typeName shape i}, shape.WellFormed → services.shape typeName shape = .ok i →
    (Value.ofInstance i).Sound registries

/-- The hook decodes sound instances, as long as it is given sound ones. There may be more
registries than these. -/
def DecodeHook.GivesSound (hook : DecodeHook) (registries : List Registry) : Prop :=
  ∀ {all services typeName shape i}, registries ⊆ all → DecodingServices.GiveSound services all →
    Json.WellFormed shape → hook services typeName shape = .ok i → (Value.ofInstance i).Sound all

/-- The codec has no hook for decoding, or one that decodes sound instances. -/
def Codec.GivesSound (codec : Codec) (registries : List Registry) : Prop :=
  ∀ hook, codec.decode? = some hook → hook.GivesSound registries

/-- The standard codec has no hook. -/
theorem Codec.givesSound_standard (registries : List Registry) :
    Codec.standard.GivesSound registries :=
  fun _ h => nomatch h

/-- All codecs of the registry decode sound instances. -/
def Registry.GivesSound (r : Registry) (registries : List Registry) : Prop :=
  ∀ entry ∈ r.types, entry.2.codec.GivesSound registries

/-- What gives sound instances still does so when there are more registries. -/
theorem Registry.GivesSound.mono {r : Registry} {registries more : List Registry}
    (h : r.GivesSound registries) (hsub : registries ⊆ more) : r.GivesSound more :=
  fun entry hentry hook hhook _ _ _ _ _ hmore =>
    h entry hentry hook hhook (List.Subset.trans hsub hmore)

/-- The runner gives sound instances for the hooks that do. -/
def HookRunner.GivesSound (run : HookRunner) (registries : List Registry) : Prop :=
  ∀ {typeName hook shape i}, DecodeHook.GivesSound hook registries → Json.WellFormed shape →
    run typeName hook shape = .ok i → (Value.ofInstance i).Sound registries

/-! ## Decoding -/

/-- What the reader is asked for is sound. -/
structure ShapeReader.GivesSound (reader : ShapeReader) (registries : List Registry) : Prop where
  value : ∀ {rule depth path value}, reader.value rule depth path = .ok value →
    value.Sound registries
  decoded : ∀ {typeName i}, reader.decoded typeName = .ok i → (Value.ofInstance i).Sound registries

namespace Decoding

variable {r : Registry} {run : HookRunner} {registries : List Registry} {typeName : String}
  {path : Path} {i : Instance}

theorem sound_of_items {readers : List ShapeReader} {rule : Rule} {depth index : Nat}
    {values : List Value} (hreaders : ∀ reader ∈ readers, reader.GivesSound registries)
    (h : items rule depth path index readers = .ok values) :
    ∀ value ∈ values, value.Sound registries := by
  induction readers generalizing index values with
  | nil =>
      cases h
      exact List.forall_mem_nil _
  | cons reader readers ih =>
      obtain ⟨hreader, hreaders⟩ := List.forall_mem_cons.mp hreaders
      obtain ⟨first, hfirst, h⟩ := bind_eq_ok.mp h
      obtain ⟨others, hothers, h⟩ := bind_eq_ok.mp h
      obtain rfl := pure_eq_ok.mp h
      exact List.forall_mem_cons.mpr ⟨hreader.value hfirst, ih hreaders hothers⟩

/-- A list is decoded to a sound keyed collection if its items are decoded to sound instances. -/
theorem sound_of_keyedItems {idField : String} {jsons : List Json} {members : Entries Value}
    (hreaders : ∀ json ∈ jsons, (r.reader run json).GivesSound registries)
    (h : keyedItems r typeName idField path 0 [] (jsons.map (r.reader run)) = .ok members) :
    (Value.object members).Sound registries := by
  have hdecoded : List.Forall₂ (fun json reader => ∀ {i},
      ShapeReader.decoded reader typeName = .ok i ↔ (r.reader run json).decoded typeName = .ok i)
      jsons (jsons.map (r.reader run)) :=
    forall₂_map_right fun _ _ => Iff.rfl
  have hempty : (Entries.names ([] : Entries Value)).Nodup := List.nodup_nil
  obtain ⟨_, rfl, hall, hdistinct⟩ := (keyedItems_eq_ok hempty hdecoded).mp h
  refine Value.everywhere_object.mpr ⟨hdistinct, fun member hmember => ?_⟩
  obtain ⟨json, hjson, i, hi, heq, -⟩ := exists_of_mem_right hall hmember
  exact heq ▸ (hreaders json hjson).decoded hi

/-- An object is decoded to a sound keyed collection if its members are decoded to sound
instances. -/
theorem sound_of_keyedMembers {jsons : Entries Json} {members : Entries Value}
    (hdistinct : jsons.names.Nodup)
    (hreaders : ∀ json ∈ jsons, (r.reader run json.2).GivesSound registries)
    (h : keyedMembers typeName path (jsons.mapValues (r.reader run)) = .ok members) :
    (Value.object members).Sound registries := by
  have hdecoded : List.Forall₂ (fun json (reader : String × ShapeReader) => json.1 = reader.1 ∧
      ∀ {i}, reader.2.decoded typeName = .ok i ↔ (r.reader run json.2).decoded typeName = .ok i)
      jsons (jsons.mapValues (r.reader run)) :=
    forall₂_map_right fun _ _ => ⟨rfl, Iff.rfl⟩
  have hall := (keyedMembers_eq_ok
    (R := fun json i => (r.reader run json).decoded typeName = .ok i) hdecoded).mp h
  have hnames : jsons.names = members.names := map_eq_map_of_forall₂ (hall.imp fun _ _ => And.left)
  rw [hnames] at hdistinct
  refine Value.everywhere_object.mpr ⟨hdistinct, fun member hmember => ?_⟩
  obtain ⟨json, hjson, -, i, hi, heq⟩ := exists_of_mem_right hall hmember
  exact heq ▸ (hreaders json hjson).decoded hi

/-- What fields are decoded to is sound if the readers of the members give what is. -/
theorem sound_of_members {d : TypeDefinition} {variant : Option String}
    {readers : Entries ShapeReader} {declared : Fields} {decoded : Entries Value}
    (hreaders : ∀ reader ∈ readers, reader.2.GivesSound registries)
    (h : members r d variant readers declared = .ok decoded) :
    ∀ entry ∈ decoded, entry.2.Sound registries := by
  rw [members_eq_collect] at h
  refine Entries.forall_mem_of_collect h fun field _ value hvalue => ?_
  cases hget : readers.get? field.1 with
  | none =>
      rw [hget] at hvalue
      cases hvalue
  | some reader =>
      rw [hget, member] at hvalue
      split at hvalue
      · cases hvalue
      · obtain ⟨_, hread, heq⟩ := map_eq_ok.mp hvalue
        obtain rfl := Option.some.inj heq
        exact (hreaders _ (Entries.mem_of_get? hget)).value (mapError_eq_ok.mp hread)

variable (hr : r.Checked) (hmem : r ∈ registries)
  (hnumbers : ∀ other ∈ registries, other.number = r.number → other = r)

include hr hmem hnumbers

/-- Fields are decoded to a sound instance if the readers of the members give what is sound. -/
theorem sound_of_fields {shape : Json} {readers : Option (Entries ShapeReader)}
    (hreaders : ∀ members ∈ readers, ∀ reader ∈ members, reader.2.GivesSound registries)
    (h : fields r typeName shape readers = .ok i) : (Value.ofInstance i).Sound registries := by
  cases readers with
  | none => cases h
  | some readers =>
      obtain ⟨d, -, h⟩ := bind_eq_ok.mp h
      obtain ⟨variant, -, h⟩ := bind_eq_ok.mp h
      obtain ⟨declared, -, h⟩ := bind_eq_ok.mp h
      obtain ⟨decoded, hdecoded, h⟩ := bind_eq_ok.mp h
      have hsound := sound_of_members (hreaders readers rfl) hdecoded
      exact (Registry.isInstance_of_construct hr hmem hnumbers
        (fun name value hvalue => hsound _ (Entries.mem_of_get? hvalue)) h).2

variable (hcodecs : r.GivesSound registries) (hrun : HookRunner.GivesSound run registries)

include hcodecs hrun

/-- A codec decodes a shape to a sound instance. -/
theorem sound_of_byCodec {shape : Json} {readers : Option (Entries ShapeReader)}
    (hshape : shape.WellFormed)
    (hreaders : ∀ members ∈ readers, ∀ reader ∈ members, reader.2.GivesSound registries)
    (h : byCodec r run typeName shape readers = .ok i) : (Value.ofInstance i).Sound registries := by
  obtain ⟨entry, hentry, h⟩ := bind_eq_ok.mp h
  have hentry := Entries.mem_of_get? (Registry.lookup_eq_ok.mp hentry)
  split at h
  next hook hhook => exact hrun (hcodecs _ hentry hook hhook) hshape h
  next => exact sound_of_fields hr hmem hnumbers hreaders h

/-- Readers of well-formed JSON values give what is sound. -/
theorem givesSound_reader {json : Json} (hjson : json.WellFormed) :
    (r.reader run json).GivesSound registries := by
  have hdecoded : ∀ {json readers typeName i}, Json.WellFormed json →
      (∀ members ∈ readers, ∀ reader ∈ members, reader.2.GivesSound registries) →
      byCodec r run typeName json readers = .ok i → (Value.ofInstance i).Sound registries :=
    fun hjson => sound_of_byCodec hr hmem hnumbers hcodecs hrun hjson
  have hplain : (Value.ofJson json).Sound registries := Registry.sound_ofJson hjson
  induction json using Json.induction with
  | array jsons ih =>
      have hreaders : ∀ json ∈ jsons, (r.reader run json).GivesSound registries := by
        intro json hitem
        have hitem' := Json.wellFormed_array.mp hjson json hitem
        exact ih json hitem hitem' (Registry.sound_ofJson hitem')
      rw [Registry.reader, Registry.itemReaders_eq_map]
      refine ⟨fun {rule depth path value} hvalue => ?_, fun hi => hdecoded hjson (by simp) hi⟩
      cases depth with
      | succ depth =>
          obtain ⟨values, hvalues, rfl⟩ := map_eq_ok.mp hvalue
          exact Value.everywhere_array.mpr
            ⟨trivial, sound_of_items (List.forall_mem_map.mpr hreaders) hvalues⟩
      | zero =>
          cases rule with
          | keyed typeName idField =>
              obtain ⟨members, hmembers, rfl⟩ := map_eq_ok.mp hvalue
              exact sound_of_keyedItems hreaders hmembers
          | _ =>
              obtain rfl := Except.ok.inj hvalue
              exact hplain
  | object jsons ih =>
      obtain ⟨hdistinct, hmembers⟩ := Json.wellFormed_object.mp hjson
      have hreaders : ∀ json ∈ jsons, (r.reader run json.2).GivesSound registries :=
        fun json hmember =>
          ih json hmember (hmembers json hmember) (Registry.sound_ofJson (hmembers json hmember))
      have hinstances : ∀ {typeName i}, byCodec r run typeName (.object jsons)
          (some (Entries.mapValues (r.reader run) jsons)) = .ok i →
          (Value.ofInstance i).Sound registries := by
        intro typeName i hi
        refine hdecoded hjson ?_ hi
        rintro _ ⟨⟩
        exact List.forall_mem_map.mpr hreaders
      rw [Registry.reader, Registry.memberReaders_eq_mapValues]
      refine ⟨fun {rule depth path value} hvalue => ?_, hinstances⟩
      cases depth with
      | succ depth =>
          have hread : Except.ok (.ofJson (.object jsons)) = Except.ok (ε := TypeError) value := by
            cases rule <;> exact hvalue
          exact Except.ok.inj hread ▸ hplain
      | zero =>
          cases rule with
          | tagged typeName =>
              obtain ⟨i, hi, rfl⟩ := map_eq_ok.mp hvalue
              exact hinstances (mapError_eq_ok.mp hi)
          | keyed typeName idField =>
              obtain ⟨members, hmembers, rfl⟩ := map_eq_ok.mp hvalue
              exact sound_of_keyedMembers hdistinct hreaders hmembers
          | _ =>
              obtain rfl := Except.ok.inj hvalue
              exact hplain
  | string s =>
      refine ⟨fun {rule depth path value} hvalue => ?_, fun hi => hdecoded hjson (by simp) hi⟩
      by_cases hdate : rule = .date ∧ depth = 0
      · -- A string is read as a date or stays what it is.
        obtain ⟨rfl, rfl⟩ := hdate
        obtain rfl := Except.ok.inj hvalue
        cases Instant.parse? s <;> exact .of_leaf trivial trivial
      · obtain rfl := Except.ok.inj ((value_leaf_string hdate).symm.trans hvalue)
        exact .of_leaf trivial trivial
  | _ =>
      refine ⟨fun {rule depth path value} hvalue => ?_, fun hi => hdecoded hjson (by simp) hi⟩
      obtain rfl := Except.ok.inj hvalue
      exact hplain

end Decoding

namespace Registry

variable {r : Registry} {registries : List Registry} {typeName : String} {shape : Json}
  {i : Instance} (hr : r.Checked) (hmem : r ∈ registries)
  (hnumbers : ∀ other ∈ registries, other.number = r.number → other = r)
  (hcodecs : r.GivesSound registries)

include hr hmem hnumbers hcodecs

/-- Hooks that call each other up to some depth give sound instances. -/
theorem givesSound_runHook (depth : Nat) : (r.runHook depth).GivesSound registries := by
  -- What a hook asks for is decoded with one level less.
  induction depth with
  | zero => exact fun _ _ h => nomatch h
  | succ depth ih =>
      intro typeName hook shape i hhook hshape h
      have hreader : ∀ {json : Json}, json.WellFormed →
          (r.reader (r.runHook depth) json).GivesSound registries :=
        Decoding.givesSound_reader hr hmem hnumbers hcodecs ih
      refine hhook (List.Subset.refl _) ⟨fun {typeName shape i} hshape hi => ?_, fun hshape hi =>
        (hreader hshape).decoded hi⟩ hshape h
      refine Decoding.sound_of_fields hr hmem hnumbers ?_ hi
      cases shape with
      | object members =>
          rintro _ ⟨⟩
          rw [memberReaders_eq_mapValues]
          exact List.forall_mem_map.mpr fun member hmember =>
            hreader ((Json.wellFormed_object.mp hshape).2 member hmember)
      | _ => exact fun _ h => nomatch h

/-- What is decoded from a well-formed JSON value is sound. -/
theorem sound_of_decode (hshape : shape.WellFormed) (h : r.decode typeName shape = .ok i) :
    (Value.ofInstance i).Sound registries :=
  (Decoding.givesSound_reader hr hmem hnumbers hcodecs
    (givesSound_runHook hr hmem hnumbers hcodecs _) hshape).decoded h

end Registry

/-! ## Sessions -/

/-- A call on a handle of one of the registries, with sound values, gives a sound instance. -/
theorem Call.sound_of_outcome {registries : List Registry}
    (hchecked : ∀ r ∈ registries, r.Checked)
    (hnumbers : ∀ r ∈ registries, ∀ other ∈ registries, other.number = r.number → other = r)
    {call : Call} {i : Instance} (hmem : call.registry ∈ registries)
    (hcodecs : call.registry.GivesSound registries)
    (hvalues : ∀ value ∈ call.values, value.Sound registries)
    (hshapes : ∀ shape ∈ call.shapes, shape.WellFormed) (hi : call.outcome = .ok i) :
    (Value.ofInstance i).Sound registries := by
  cases hcall : call.shapes with
  | nil =>
      exact (isInstance_of_outcome_of_shapes_eq_nil hchecked hnumbers hmem hcall hvalues hi).2
  | cons shape shapes =>
      have hshape : shape ∈ call.shapes := hcall ▸ List.mem_cons_self
      rw [outcome_of_mem_shapes hshape] at hi
      exact Registry.sound_of_decode (hchecked _ hmem) hmem (hnumbers _ hmem) hcodecs
        (hshapes shape hshape) hi

namespace Session

variable {s t : Session}

/-- A registry is built, with the number that is next and with codecs that decode sound instances,
or a call on a handle of one of the registries, with values that are offered, gives an instance. -/
inductive StepWithSoundCodecs : Session → Session → Prop where
  | build {s : Session} {d : Declarations} {r} :
      (∀ definition ∈ d.definitions, definition.IsDeclared) →
      d.build s.registries.length = .ok r →
      (∀ entry ∈ d.codecs, entry.2.GivesSound (s.registries ++ [r])) →
      StepWithSoundCodecs s { s with registries := s.registries ++ [r] }
  | call {s : Session} {call : Call} {i} : call.registry ∈ s.registries →
      (∀ value ∈ call.values, Offered s.instances value) →
      (∀ shape ∈ call.shapes, shape.WellFormed) → call.outcome = .ok i →
      StepWithSoundCodecs s { s with produced := s.produced ++ [⟨call, i⟩] }

/-- Some run leads to the session, whatever codecs types have in it that decode sound instances. -/
def ReachableWithSoundCodecs (s : Session) : Prop :=
  Relation.ReflTransGen StepWithSoundCodecs empty s

/-- What steps keep: the registries were built in the order of their numbers, and codecs and calls
give sound instances. -/
structure GivesSound (s : Session) : Prop where
  checked : ∀ r ∈ s.registries, r.Checked
  codecs : ∀ r ∈ s.registries, r.GivesSound s.registries
  numbered : s.registries.map (·.number) = List.range s.registries.length
  sound : ∀ i ∈ s.instances, (Value.ofInstance i).Sound s.registries

theorem givesSound_empty : empty.GivesSound :=
  ⟨by simp [empty], by simp [empty], by simp [empty], by simp [empty, instances]⟩

/-- Each step keeps what is given sound. -/
theorem GivesSound.step (h : s.GivesSound) (hstep : StepWithSoundCodecs s t) : t.GivesSound := by
  cases hstep with
  | @build d r hdeclared hbuild hcodecs =>
      have hnumber := number_of_build hbuild
      have hbuild : d.build r.number = .ok r := hnumber.symm ▸ hbuild
      have hsub : s.registries ⊆ s.registries ++ [r] := List.subset_append_left ..
      constructor
      case checked =>
        have hr : r.Checked := Registry.IsBuiltWithCodecs.checked ⟨d, hdeclared, hbuild⟩
        exact List.forall_mem_append.mpr ⟨h.checked, List.forall_mem_singleton.mpr hr⟩
      case codecs =>
        have hr : r.GivesSound (s.registries ++ [r]) := Registry.forall_codec_of_build
          (P := (·.GivesSound (s.registries ++ [r]))) (Codec.givesSound_standard _) hdeclared
          hcodecs hbuild
        exact List.forall_mem_append.mpr
          ⟨fun other hother => (h.codecs other hother).mono hsub, List.forall_mem_singleton.mpr hr⟩
      case numbered => exact Registry.numbered_append h.numbered hnumber
      case sound => exact fun i hi => (h.sound i hi).mono hsub
  | @call call i hmem hvalues hshapes hi =>
      refine ⟨h.checked, h.codecs, h.numbered, ?_⟩
      have hi := call.sound_of_outcome h.checked (Registry.eq_of_numbered h.numbered) hmem
        (h.codecs _ hmem) (fun value hvalue => (hvalues value hvalue).sound h.sound) hshapes hi
      rw [instances, List.map_append, List.map_singleton]
      exact List.forall_mem_append.mpr ⟨h.sound, List.forall_mem_singleton.mpr hi⟩

/-- In every session that a run leads to, what was given is sound. -/
theorem ReachableWithSoundCodecs.givesSound (h : s.ReachableWithSoundCodecs) : s.GivesSound := by
  induction h with
  | refl => exact givesSound_empty
  | tail _ hstep ih => exact ih.step hstep

/-- An instance that a session can offer and that belongs to a type of one of its registries is
valid for the type, also where types have codecs of their own. -/
theorem ReachableWithSoundCodecs.isInstance_of_owns (hs : s.ReachableWithSoundCodecs)
    {r : Registry} (hr : r ∈ s.registries) {i : Instance}
    (hi : Offered s.instances (.ofInstance i)) {typeName : String} (howns : r.owns typeName i) :
    r.IsInstance typeName i :=
  hi.isInstance_of_owns hs.givesSound.sound (Registry.eq_of_numbered hs.givesSound.numbered r hr)
    howns

end Session

end RecordSchema
