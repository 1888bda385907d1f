import Mathlib.Data.List.Perm.Basic
import RecordSchema.Proofs.Closed
import RecordSchema.Proofs.RequiredCycle

/-!
# The order of references

`Registry.dependencyOrder` lists the types in the order in which a walk along their references
finishes them. `Registry.Visits` is that walk without a bound on its depth; the bound is never
reached (`exists_visits_foldl`). A type to which a finished type refers has been finished before it,
or else it was still open, and then it leads to that type (`Visits.standsBefore_of_refers`). So
references that do not lead back are put in order, whatever cycles there are among the others
(`dependencyOrder_topological`).
-/

namespace RecordSchema

open Outcome Relation

/-- The first text has a place in the list before one of the second. -/
def StandsBefore (first second : String) (texts : List String) : Prop :=
  [first, second].Sublist texts

instance (first second : String) (texts : List String) :
    Decidable (StandsBefore first second texts) :=
  inferInstanceAs (Decidable (List.Sublist _ _))

section StandsBefore

variable {first second : String} {left right texts : List String}

/-- What stands before something still does when texts are put in. -/
theorem StandsBefore.mono (h : StandsBefore first second left) (hsub : left.Sublist right) :
    StandsBefore first second right :=
  h.trans hsub

/-- What is on the left stands before what is on the right. -/
theorem standsBefore_append (hfirst : first ∈ left) (hsecond : second ∈ right) :
    StandsBefore first second (left ++ right) :=
  (List.singleton_sublist.mpr hfirst).append (List.singleton_sublist.mpr hsecond)

/-- The first text stands before all others. -/
theorem standsBefore_cons (hsecond : second ∈ texts) : StandsBefore first second (first :: texts) :=
  (List.singleton_sublist.mpr hsecond).cons_cons first

/-- Of two texts of a list, one stands before the other. -/
theorem standsBefore_or (hfirst : first ∈ texts) (hsecond : second ∈ texts)
    (hne : first ≠ second) : StandsBefore first second texts ∨ StandsBefore second first texts := by
  obtain ⟨left, right, rfl⟩ := List.append_of_mem hfirst
  rcases List.mem_append.mp hsecond with hleft | hright
  · exact .inr (standsBefore_append hleft List.mem_cons_self)
  · have hright := (List.mem_cons.mp hright).resolve_left (Ne.symm hne)
    exact .inl ((standsBefore_cons hright).mono (List.sublist_append_right _ _))

/-- Where each text stands once, only one of two stands before the other. -/
theorem StandsBefore.asymm (hdistinct : texts.Nodup) (h : StandsBefore first second texts) :
    ¬ StandsBefore second first texts := by
  intro hback
  induction texts with
  | nil => cases h
  | cons text texts ih =>
      obtain ⟨hnew, hdistinct⟩ := List.nodup_cons.mp hdistinct
      cases h with
      | cons _ h =>
          cases hback with
          | cons _ hback => exact ih hdistinct h hback
          | cons_cons => exact hnew (h.subset (by simp))
      | cons_cons =>
          cases hback with
          | cons _ hback => exact hnew (hback.subset (by simp))
          | cons_cons => exact hnew (List.singleton_sublist.mp ‹_›)

end StandsBefore

/-! ## References -/

/-- The rules that name a type are those of its instances and of collections of them under keys. -/
theorem Rule.typeName?_eq_some_iff {rule : Rule} {name : String} :
    rule.typeName? = some name ↔ rule = .tagged name ∨ ∃ key, rule = .keyed name key := by
  cases rule <;> simp [typeName?]

/-- Among the fields under labels are the types of the fields that instances can have. -/
theorem Shape.exists_labelledField_iff (shape : Shape) (P : FieldType → Prop) :
    (∃ field ∈ shape.labelledFields, P field.2) ↔
      ∃ fields ∈ shape.alternatives, ∃ field ∈ fields, P field.2 := by
  cases shape with
  | record fields => simp [labelledFields, alternatives]
  | union variants =>
      simp only [labelledFields, alternatives, Entries.values, Fields.labelled, List.mem_flatMap,
        List.mem_map]
      constructor
      · rintro ⟨_, ⟨variant, hvariant, field, hfield, rfl⟩, h⟩
        exact ⟨_, ⟨variant, hvariant, rfl⟩, field, hfield, h⟩
      · rintro ⟨_, ⟨variant, hvariant, rfl⟩, field, hfield, h⟩
        exact ⟨_, ⟨variant, hvariant, field, hfield, rfl⟩, h⟩

/-- Listing names once keeps all of them. -/
theorem mem_foldl_distinct {name : String} (names found : List String) :
    name ∈ names.foldl (fun names name ↦ if names.contains name then names else names ++ [name])
      found ↔ name ∈ found ∨ name ∈ names := by
  induction names generalizing found with
  | nil => simp
  | cons first rest ih =>
      rw [List.foldl_cons, ih]
      split
      next hfound =>
          have hmem := List.contains_iff_mem.mp hfound
          grind
      next => grind

namespace Registry

section Statement

variable (r : Registry)

/-- A field of the type, of one of its variants if it is a union, refers to the other type: it has
values of that type or collections of them, in whatever arrays, and may be optional. -/
def Refers (name other : String) : Prop :=
  ∃ d, r.definition? name = some d ∧ ∃ fields ∈ d.shape.alternatives, ∃ field ∈ fields,
    field.2.rule = .tagged other ∨ ∃ key, field.2.rule = .keyed other key

/-- References lead from the type to the other one. -/
abbrev Reaches : String → String → Prop :=
  ReflTransGen r.Refers

/-- Walking from names, one after the other, when some types have been entered already, finishes
the types that are listed, in this order. -/
inductive Visits : List String → List String → List String → Prop where
  | nil {entered} : Visits entered [] []
  | skip {entered name names order} : name ∈ entered → Visits entered names order →
      Visits entered (name :: names) order
  | enter {entered name names inner rest} : name ∉ entered →
      Visits (name :: entered) (r.references name) inner →
      Visits (inner ++ name :: entered) names rest →
      Visits entered (name :: names) (inner ++ name :: rest)

end Statement

variable {r : Registry} {name other : String} {entered names order : List String}

/-- The references of a type are those of its fields. -/
theorem mem_references_iff : other ∈ r.references name ↔ r.Refers name other := by
  rw [references, Refers]
  cases hd : r.definition? name with
  | none => simp
  | some d =>
      simp only [Option.map_some, Option.getD_some, TypeDefinition.references, mem_foldl_distinct,
        List.mem_filterMap, Rule.typeName?_eq_some_iff, List.not_mem_nil, false_or,
        Option.some.injEq, exists_eq_left']
      exact d.shape.exists_labelledField_iff fun type =>
        type.rule = .tagged other ∨ ∃ key, type.rule = .keyed other key

theorem Refers.mem_references (h : r.Refers name other) : other ∈ r.references name :=
  mem_references_iff.mpr h

theorem refers_of_mem_references (h : other ∈ r.references name) : r.Refers name other :=
  mem_references_iff.mp h

/-- What the fields of a built registry refer to is there, whatever codecs its types have. -/
theorem IsBuiltWithCodecs.isClosed (hr : r.IsBuiltWithCodecs) : r.IsClosed := by
  obtain ⟨d, -, hbuild⟩ := hr
  exact Declarations.isClosed_of_build hbuild

/-- Types that are found are among the declared names. -/
theorem mem_names_of_definition? {d : TypeDefinition} (hd : r.definition? name = some d) :
    name ∈ r.types.names := by
  obtain ⟨entry, hentry, -⟩ := Option.map_eq_some_iff.mp hd
  exact Entries.mem_names_of_get? hentry

/-- Only declared types are referred to. -/
theorem IsClosed.mem_names_of_refers (hr : r.IsClosed) (h : r.Refers name other) :
    other ∈ r.types.names := by
  obtain ⟨d, hd, fields, hfields, field, hfield, hrule⟩ := h
  obtain ⟨entry, hentry, rfl⟩ := Option.map_eq_some_iff.mp hd
  have hknows := hr _ (Entries.mem_of_get? hentry) fields hfields field hfield
  have hother : r.Knows (.tagged other) := by
    rcases hrule with hrule | ⟨key, hrule⟩
    · exact hrule ▸ hknows
    · exact Knows.of_keyed (hrule ▸ hknows)
  obtain ⟨d, hd⟩ := hother
  exact mem_names_of_definition? hd

/-- References do not lead out of names that refer to each other only. -/
theorem mem_of_reaches (hclosed : ∀ name ∈ names, ∀ other, r.Refers name other → other ∈ names)
    (hname : name ∈ names) (h : r.Reaches name other) : other ∈ names := by
  induction h with
  | refl => exact hname
  | tail _ hstep ih => exact hclosed _ ih _ hstep

/-- References lead to declared types. -/
theorem IsClosed.mem_names_of_reaches (hr : r.IsClosed) (hname : name ∈ r.types.names)
    (h : r.Reaches name other) : other ∈ r.types.names :=
  mem_of_reaches (fun _ _ _ hstep => hr.mem_names_of_refers hstep) hname h

/-! ## What a walk finishes -/

/-- What a walk finishes when it enters a type is below the type, the type itself or later. -/
theorem mem_append_cons {first : String} {below later : List String}
    (h : name ∈ below ++ first :: later) : name ∈ below ∨ name = first ∨ name ∈ later :=
  (List.mem_append.mp h).imp_right List.mem_cons.mp

/-- What is finished later is a part of the order. -/
theorem sublist_append_cons (first : String) (below later : List String) :
    later.Sublist (below ++ first :: later) :=
  (List.sublist_cons_self first later).trans (List.sublist_append_right below _)

/-- The types that a walk finished at a type and behind it, together with those before. -/
theorem perm_finished (name : String) (entered inner rest : List String) :
    (rest ++ (inner ++ name :: entered)).Perm (inner ++ name :: rest ++ entered) := by
  rw [List.append_assoc, ← List.append_assoc rest]
  refine (List.perm_append_comm.append_right _).trans ?_
  rw [List.append_assoc]
  exact List.perm_middle.append_left inner

/-- No type is finished twice, or when it has been entered before. -/
theorem Visits.nodup_append (h : r.Visits entered names order) (hdistinct : entered.Nodup) :
    (order ++ entered).Nodup := by
  induction h with
  | nil => exact hdistinct
  | skip _ _ ih => exact ih hdistinct
  | enter hname _ _ ihinner ihrest =>
      have hinner := ihinner (List.nodup_cons.mpr ⟨hname, hdistinct⟩)
      exact (perm_finished ..).nodup_iff.mp (ihrest hinner)

/-- The names that a walk starts from have been entered when it ends. -/
theorem Visits.mem_of_mem_names (h : r.Visits entered names order) (hname : name ∈ names) :
    name ∈ order ++ entered := by
  induction h with
  | nil => cases hname
  | skip hmem _ ih =>
      rcases List.mem_cons.mp hname with rfl | hname
      · exact List.mem_append_right _ hmem
      · exact ih hname
  | enter _ _ _ _ ihrest =>
      rcases List.mem_cons.mp hname with rfl | hname
      · simp
      · exact (perm_finished ..).mem_iff.mp (ihrest hname)

/-- What a finished type refers to has been entered when the walk ends. -/
theorem Visits.mem_of_refers (h : r.Visits entered names order) (hname : name ∈ order)
    (href : r.Refers name other) : other ∈ order ++ entered := by
  induction h with
  | nil => cases hname
  | skip _ _ ih => exact ih hname
  | enter _ hinner _ ihinner ihrest =>
      rw [← (perm_finished ..).mem_iff]
      rcases mem_append_cons hname with hbelow | rfl | hlater
      · exact List.mem_append_right _ (ihinner hbelow)
      · exact List.mem_append_right _ (hinner.mem_of_mem_names href.mem_references)
      · exact ihrest hlater

/-- All that is finished is reached from the names. -/
theorem Visits.exists_reaches (h : r.Visits entered names order) (hother : other ∈ order) :
    ∃ name ∈ names, r.Reaches name other := by
  induction h with
  | nil => cases hother
  | skip _ _ ih =>
      obtain ⟨name, hname, hreaches⟩ := ih hother
      exact ⟨name, List.mem_cons_of_mem _ hname, hreaches⟩
  | enter _ _ _ ihinner ihrest =>
      rcases mem_append_cons hother with hbelow | rfl | hlater
      · obtain ⟨next, hnext, hreaches⟩ := ihinner hbelow
        exact ⟨_, List.mem_cons_self, .head (refers_of_mem_references hnext) hreaches⟩
      · exact ⟨_, List.mem_cons_self, .refl⟩
      · obtain ⟨name, hname, hreaches⟩ := ihrest hlater
        exact ⟨name, List.mem_cons_of_mem _ hname, hreaches⟩

/-- A walk from the references of a type finishes what the type reaches. -/
theorem Visits.reaches_of_references (h : r.Visits entered (r.references name) order)
    (hother : other ∈ order) : r.Reaches name other := by
  obtain ⟨next, hnext, hreaches⟩ := h.exists_reaches hother
  exact .head (refers_of_mem_references hnext) hreaches

/-- What a type refers to is finished before it, unless it had been entered before the walk or is
still open, so that it reaches the type. -/
theorem Visits.standsBefore_of_refers (h : r.Visits entered names order) (hname : name ∈ order)
    (href : r.Refers name other) :
    other ∈ entered ∨ StandsBefore other name order ∨ r.Reaches other name := by
  induction h with
  | nil => cases hname
  | skip _ _ ih => exact ih hname
  | @enter entered first names inner rest _ hinner _ ihinner ihrest =>
      rcases mem_append_cons hname with hbelow | rfl | hlater
      · -- The type was finished below the one that is entered here.
        rcases ihinner hbelow with hmem | hbefore | hback
        · rcases List.mem_cons.mp hmem with rfl | hmem
          · exact .inr (.inr (hinner.reaches_of_references hbelow))
          · exact .inl hmem
        · exact .inr (.inl (hbefore.mono (List.sublist_append_left _ _)))
        · exact .inr (.inr hback)
      · have hentered := hinner.mem_of_mem_names href.mem_references
        rcases mem_append_cons hentered with hmem | rfl | hmem
        · exact .inr (.inl (standsBefore_append hmem List.mem_cons_self))
        · exact .inr (.inr .refl)
        · exact .inl hmem
      · rcases ihrest hlater with hmem | hbefore | hback
        · rcases mem_append_cons hmem with hmem | rfl | hmem
          · exact .inr (.inl (standsBefore_append hmem (List.mem_cons_of_mem _ hlater)))
          · have hbefore : StandsBefore other name (other :: rest) := standsBefore_cons hlater
            exact .inr (.inl (hbefore.mono (List.sublist_append_right _ _)))
          · exact .inl hmem
        · exact .inr (.inl (hbefore.mono (sublist_append_cons ..)))
        · exact .inr (.inr hback)

/-! ## The bound on the depth -/

/-- A walk depends on what has been entered, and not on the order of that. -/
theorem Visits.congr (h : r.Visits entered names order) {others : List String}
    (hsame : ∀ name, name ∈ entered ↔ name ∈ others) : r.Visits others names order := by
  induction h generalizing others with
  | nil => exact .nil
  | skip hmem _ ih => exact .skip ((hsame _).mp hmem) (ih hsame)
  | enter hname _ _ ihinner ihrest =>
      refine .enter (mt (hsame _).mpr hname) (ihinner fun name => ?_) (ihrest fun name => ?_)
      · rw [List.mem_cons, List.mem_cons, hsame]
      · rw [List.mem_append, List.mem_append, List.mem_cons, List.mem_cons, hsame]

/-- The types that have been entered are distinct and declared, so that the bound is never reached:
walking on with it is a walk, which adds what it finishes to what was finished and entered. -/
theorem exists_visits_foldl (hr : r.IsClosed) (depth : Nat) (walk : Walk)
    (hdistinct : walk.entered.Nodup) (hentered : walk.entered ⊆ r.types.names)
    (hnames : names ⊆ r.types.names) (hdepth : r.types.length < depth + walk.entered.length) :
    ∃ order, r.Visits walk.entered names order ∧
      (names.foldl (r.visit depth) walk).finished = walk.finished ++ order ∧
      (names.foldl (r.visit depth) walk).entered.Perm (order ++ walk.entered) := by
  induction depth generalizing names walk with
  | zero =>
      have hlength := (List.subperm_of_subset hdistinct hentered).length_le
      rw [Entries.length_names] at hlength
      omega
  | succ depth ih =>
      induction names generalizing walk with
      | nil => exact ⟨[], .nil, (List.append_nil _).symm, .refl _⟩
      | cons name names ihnames =>
          obtain ⟨hname, hnames⟩ := List.cons_subset.mp hnames
          rw [List.foldl_cons, visit]
          by_cases hmem : name ∈ walk.entered
          · rw [if_pos (List.contains_iff_mem.mpr hmem)]
            obtain ⟨order, hvisits, hfinished, hperm⟩ :=
              ihnames walk hdistinct hentered hnames hdepth
            exact ⟨order, .skip hmem hvisits, hfinished, hperm⟩
          rw [if_neg (mt List.contains_iff_mem.mp hmem)]
          have hopen : (name :: walk.entered).Nodup := List.nodup_cons.mpr ⟨hmem, hdistinct⟩
          obtain ⟨inner, hinner, hfinished, hperm⟩ :=
            ih { walk with entered := name :: walk.entered } hopen
              (List.cons_subset.mpr ⟨hname, hentered⟩)
              (fun next hnext => hr.mem_names_of_refers (refers_of_mem_references hnext))
              (by rw [List.length_cons]; omega)
          dsimp only at hfinished hperm ⊢
          generalize (r.references name).foldl (r.visit depth) _ = last at hfinished hperm ⊢
          have hlast : last.entered ⊆ r.types.names := by
            intro other hother
            rcases List.mem_append.mp (hperm.mem_iff.mp hother) with hother | hother
            · exact hr.mem_names_of_reaches hname (hinner.reaches_of_references hother)
            · exact List.cons_subset.mpr ⟨hname, hentered⟩ hother
          have hlonger : walk.entered.length ≤ last.entered.length := by
            rw [hperm.length_eq, List.length_append, List.length_cons]
            omega
          obtain ⟨rest, hrest, hrestFinished, hrestPerm⟩ :=
            ihnames { last with finished := last.finished ++ [name] }
              (hperm.nodup_iff.mpr (hinner.nodup_append hopen)) hlast hnames (by dsimp only; omega)
          refine ⟨inner ++ name :: rest, .enter hmem hinner (hrest.congr fun _ => hperm.mem_iff),
            ?_, ?_⟩
          · rw [hrestFinished, hfinished]
            simp only [List.append_assoc, List.singleton_append]
          · exact hrestPerm.trans ((hperm.append_left rest).trans (perm_finished ..))

/-- The order is that of a walk from all types. -/
theorem visits_dependencyOrder (hr : r.IsClosed) : r.Visits [] r.types.names r.dependencyOrder := by
  obtain ⟨order, hvisits, hfinished, -⟩ :=
    exists_visits_foldl hr _ ⟨[], []⟩ List.nodup_nil (List.nil_subset _) (List.Subset.refl _)
      (Nat.lt_succ_self _)
  rw [dependencyOrder, hfinished]
  exact hvisits

/-- The walk along the references of the types ends. It lists every declared type once and nothing
else, and it lists what a type refers to before the type, unless references lead back to it. -/
theorem dependencyOrder_topological (hr : r.IsBuiltWithCodecs) :
    r.Visits [] r.types.names r.dependencyOrder ∧
    r.dependencyOrder.Nodup ∧ (∀ name, name ∈ r.dependencyOrder ↔ name ∈ r.types.names) ∧
    ∀ name other, r.Refers name other → ¬ r.Reaches other name →
      StandsBefore other name r.dependencyOrder := by
  have hvisits := visits_dependencyOrder hr.isClosed
  have hmem : ∀ name, name ∈ r.dependencyOrder ↔ name ∈ r.types.names := by
    intro name
    constructor
    · intro hname
      obtain ⟨first, hfirst, hreaches⟩ := hvisits.exists_reaches hname
      exact hr.isClosed.mem_names_of_reaches hfirst hreaches
    · intro hname
      simpa using hvisits.mem_of_mem_names hname
  refine ⟨hvisits, ?_, hmem, fun name other href hback => ?_⟩
  · simpa using hvisits.nodup_append List.nodup_nil
  · obtain ⟨d, hd, -⟩ := id href
    have hname := (hmem name).mpr (mem_names_of_definition? hd)
    rcases hvisits.standsBefore_of_refers hname href with hentered | hbefore | hreaches
    · cases hentered
    · exact hbefore
    · exact absurd hreaches hback

end Registry

namespace Farms

/-- Hens refer to eggs and eggs to hens. -/
theorem mem_of_reaches_hen {name : String} (h : registry.Reaches "Hen" name) :
    name ∈ ["Hen", "Egg"] := by
  have hclosed : ∀ name ∈ ["Hen", "Egg"], ∀ other ∈ registry.references name,
      other ∈ ["Hen", "Egg"] := by decide
  exact Registry.mem_of_reaches
    (fun name hname other href => hclosed name hname other href.mem_references)
    List.mem_cons_self h

end Farms

/-- Hens are listed before farms, which refer to them in an array, although hens and eggs refer to
each other. -/
theorem Farms.standsBefore_hen_farm : registry.IsBuiltWithCodecs ∧ registry.Refers "Farm" "Hen" ∧
    ¬ registry.Reaches "Hen" "Farm" ∧ registry.dependencyOrder = ["Egg", "Hen", "Farm"] ∧
    StandsBefore "Hen" "Farm" registry.dependencyOrder := by
  have href : registry.Refers "Farm" "Hen" := Registry.refers_of_mem_references (by decide)
  have hback : ¬ registry.Reaches "Hen" "Farm" := fun h =>
    absurd (mem_of_reaches_hen h) (by decide)
  obtain ⟨-, -, -, hordered⟩ := Registry.dependencyOrder_topological isBuiltWithCodecs_registry
  exact ⟨isBuiltWithCodecs_registry, href, hback, by decide, hordered _ _ href hback⟩

end RecordSchema
