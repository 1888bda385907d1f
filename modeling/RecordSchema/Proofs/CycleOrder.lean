import RecordSchema.Proofs.DependencyOrder

/-!
# The order inside a cycle of references

Types that reach each other through references are listed in the order in which the walk finishes
them, and not in the order of their declaration. The walk finishes the type by which it enters a
cycle last. That type is the first declared of all types from which the cycle is reached, if it is
on the cycle itself, and otherwise one to which a type outside the cycle refers
(`exists_last_of_cycle`). Two types that refer to each other are therefore listed the other way
round than they are declared (`Bookshelves.not_forall_standsBefore_iff`).
-/

namespace RecordSchema

open Relation

namespace Registry

variable {r : Registry} {name other last : String} {entered names order : List String}

/-- References lead from each of the types to the other one. -/
def SameCycle (r : Registry) (name other : String) : Prop :=
  r.Reaches name other ∧ r.Reaches other name

theorem SameCycle.refl (name : String) : r.SameCycle name name :=
  ⟨.refl, .refl⟩

theorem SameCycle.symm (h : r.SameCycle name other) : r.SameCycle other name :=
  ⟨h.2, h.1⟩

theorem SameCycle.trans (h : r.SameCycle name other) (hlast : r.SameCycle other last) :
    r.SameCycle name last :=
  ⟨h.1.trans hlast.1, hlast.2.trans h.2⟩

/-- What lies on the way from a finished type to another one is finished with it, if nothing on the
way had been entered before. -/
theorem Visits.mem_of_reaches (h : r.Visits entered names order) (hname : name ∈ order)
    (hreaches : r.Reaches name other)
    (hfree : ∀ between, r.Reaches name between → r.Reaches between other → between ∉ entered) :
    other ∈ order := by
  induction hreaches with
  | refl => exact hname
  | @tail between other hfirst hstep ih =>
      have hbetween := ih fun place hplace hafter => hfree place hplace (hafter.tail hstep)
      have hnext := List.mem_append.mp (h.mem_of_refers hbetween hstep)
      exact hnext.resolve_right (hfree other (hfirst.tail hstep) .refl)

/-- Of a cycle that had not been entered, a walk finishes one type last. It is one of the names that
the walk starts from, or a type outside the cycle refers to it. -/
theorem Visits.exists_last (h : r.Visits entered names order) (hname : name ∈ order)
    (hfree : ∀ other, r.SameCycle name other → other ∉ entered) :
    ∃ last, r.SameCycle name last ∧
      (∀ other, r.SameCycle name other → other ≠ last → StandsBefore other last order) ∧
      (last ∈ names ∨
        ∃ outside ∈ order, r.Refers outside last ∧ ¬ r.SameCycle name outside) := by
  induction h generalizing name with
  | nil => cases hname
  | skip _ _ ih =>
      obtain ⟨last, hlast, hbefore, hentry⟩ := ih hname hfree
      exact ⟨last, hlast, hbefore, hentry.imp_left (List.mem_cons_of_mem _)⟩
  | @enter entered first names inner rest hfirst hinner _ ihinner ihrest =>
      by_cases hcycle : r.SameCycle name first
      · -- The cycle is entered here, and the rest of it lies below.
        refine ⟨first, hcycle, fun other hother hne => ?_, .inl List.mem_cons_self⟩
        have hhere : r.Visits entered [first] (inner ++ [first]) := .enter hfirst hinner .nil
        have hmem : other ∈ inner ++ [first] :=
          hhere.mem_of_reaches (List.mem_append_right _ List.mem_cons_self)
            (hcycle.symm.trans hother).1 fun between hbetween hafter =>
              hfree between ⟨hcycle.1.trans hbetween, hafter.trans hother.2⟩
        refine standsBefore_append ((List.mem_append.mp hmem).resolve_right ?_) List.mem_cons_self
        exact mt List.mem_singleton.mp hne
      by_cases hbelow : ∃ other ∈ inner, r.SameCycle name other
      · obtain ⟨other, hother, hsame⟩ := hbelow
        obtain ⟨last, hlast, hbefore, hentry⟩ := ihinner hother fun place hplace hmem => by
          rcases List.mem_cons.mp hmem with rfl | hmem
          · exact hcycle (hsame.trans hplace)
          · exact hfree place (hsame.trans hplace) hmem
        refine ⟨last, hsame.trans hlast, fun place hplace hne => ?_, .inr ?_⟩
        · exact (hbefore place (hsame.symm.trans hplace) hne).mono (List.sublist_append_left _ _)
        · rcases hentry with hnext | ⟨outside, houtside, href, hnot⟩
          · exact ⟨first, by simp, refers_of_mem_references hnext, hcycle⟩
          · exact ⟨outside, List.mem_append_left _ houtside, href,
              fun h => hnot (hsame.symm.trans h)⟩
      · have hlater : name ∈ rest := by
          rcases mem_append_cons hname with hinside | rfl | hlater
          · exact absurd ⟨name, hinside, .refl name⟩ hbelow
          · exact absurd (.refl name) hcycle
          · exact hlater
        obtain ⟨last, hlast, hbefore, hentry⟩ := ihrest hlater fun place hplace hmem => by
          rcases mem_append_cons hmem with hmem | rfl | hmem
          · exact hbelow ⟨place, hmem, hplace⟩
          · exact hcycle hplace
          · exact hfree place hplace hmem
        have hsub := sublist_append_cons first inner rest
        refine ⟨last, hlast, fun place hplace hne => (hbefore place hplace hne).mono hsub, ?_⟩
        rcases hentry with hmem | ⟨outside, houtside, hrefers⟩
        · exact .inl (List.mem_cons_of_mem _ hmem)
        · exact .inr ⟨outside, hsub.subset houtside, hrefers⟩

/-- A walk that has been everywhere where references lead from the types that it entered goes to a
cycle from the first name that reaches it. -/
theorem Visits.exists_entry (h : r.Visits entered names order)
    (hclosed : ∀ name ∈ entered, ∀ other, r.Refers name other → other ∈ entered)
    (hname : name ∈ order) (hnew : name ∉ entered) :
    ∃ before first after last, names = before ++ first :: after ∧ r.Reaches first name ∧
      (∀ other ∈ before, ¬ r.Reaches other name) ∧ r.SameCycle name last ∧
      (∀ other, r.SameCycle name other → other ≠ last → StandsBefore other last order) ∧
      (last = first ∨
        ∃ outside, r.Reaches first outside ∧ r.Refers outside last ∧
          ¬ r.SameCycle name outside) := by
  have hfree : ∀ other ∈ entered, ¬ r.Reaches other name := fun other hother hreaches =>
    hnew (Registry.mem_of_reaches hclosed hother hreaches)
  induction h with
  | nil => cases hname
  | @skip entered first names order hfirst _ ih =>
      obtain ⟨before, start, after, last, rfl, hreaches, hbefore, hentry⟩ :=
        ih hclosed hname hnew hfree
      exact ⟨first :: before, start, after, last, rfl, hreaches,
        List.forall_mem_cons.mpr ⟨hfree first hfirst, hbefore⟩, hentry⟩
  | @enter entered first names inner rest hfirst hinner _ _ ihrest =>
      by_cases hreaches : r.Reaches first name
      · have hhere : r.Visits entered [first] (inner ++ [first]) := .enter hfirst hinner .nil
        have hmem : name ∈ inner ++ [first] :=
          hhere.mem_of_reaches (List.mem_append_right _ List.mem_cons_self) hreaches
            fun between _ hafter hmem => hfree between hmem hafter
        obtain ⟨last, hlast, hbefore, hentry⟩ := hhere.exists_last hmem
          fun other hother hmem => hfree other hmem hother.2
        have hsub : (inner ++ [first]).Sublist (inner ++ first :: rest) :=
          (List.singleton_sublist.mpr List.mem_cons_self).append_left inner
        refine ⟨[], first, names, last, rfl, hreaches, fun _ h => absurd h List.not_mem_nil, hlast,
          fun other hother hne => (hbefore other hother hne).mono hsub, ?_⟩
        refine hentry.imp List.mem_singleton.mp ?_
        rintro ⟨outside, houtside, hrefers⟩
        obtain ⟨start, hstart, houtside⟩ := hhere.exists_reaches houtside
        exact ⟨outside, List.mem_singleton.mp hstart ▸ houtside, hrefers⟩
      · have hbelow : name ∉ inner := fun h => hreaches (hinner.reaches_of_references h)
        have hne : name ≠ first := fun h => hreaches (h ▸ .refl)
        have hlater : name ∈ rest := by simpa [hbelow, hne] using hname
        have hentered : ∀ place ∈ inner ++ first :: entered, ∀ next, r.Refers place next →
            next ∈ inner ++ first :: entered := by
          intro place hplace next href
          rcases mem_append_cons hplace with hbelow | rfl | hbefore
          · exact hinner.mem_of_refers hbelow href
          · exact hinner.mem_of_mem_names href.mem_references
          · exact List.mem_append_right _ (List.mem_cons_of_mem _ (hclosed place hbefore next href))
        have hnotEntered : name ∉ inner ++ first :: entered := by simp [hbelow, hne, hnew]
        obtain ⟨before, start, after, last, rfl, hstart, hbefore, hlast, hfinished, hentry⟩ :=
          ihrest hentered hlater hnotEntered fun other hother h =>
            hnotEntered (Registry.mem_of_reaches hentered hother h)
        have hsub := sublist_append_cons first inner rest
        exact ⟨first :: before, start, after, last, rfl, hstart,
          List.forall_mem_cons.mpr ⟨hreaches, hbefore⟩, hlast,
          fun other hother hne => (hfinished other hother hne).mono hsub, hentry⟩

/-- The types are declared under distinct names. -/
theorem IsBuiltWithCodecs.nodup_names (hr : r.IsBuiltWithCodecs) : r.types.names.Nodup := by
  obtain ⟨d, -, hbuild⟩ := hr
  exact (Declarations.names_types_of_build hbuild).2

/-- One type of a cycle is listed behind all others, wherever it was declared, so that its place
among them is that of its declaration exactly for those that were declared before it. Let `first` be
the first declared of the types that reach the cycle. If it is on the cycle, it is itself the last;
otherwise it leads to a type outside the cycle that refers to the last. -/
theorem exists_last_of_cycle (hr : r.IsBuiltWithCodecs) (hname : name ∈ r.types.names) :
    ∃ first last, (r.Reaches first name ∧
        ∀ other, r.Reaches other name → other ≠ first → StandsBefore first other r.types.names) ∧
      (r.SameCycle name last ∧ ∀ other, r.SameCycle name other → other ≠ last →
        StandsBefore other last r.dependencyOrder ∧
        ((StandsBefore last other r.dependencyOrder ↔ StandsBefore last other r.types.names) ↔
          StandsBefore other last r.types.names)) ∧
      (r.SameCycle name first → last = first) ∧
      (¬ r.SameCycle name first → ∃ outside, r.Reaches first outside ∧ r.Refers outside last ∧
        ¬ r.SameCycle name outside) := by
  have hvisits := visits_dependencyOrder hr.isClosed
  have hlisted : name ∈ r.dependencyOrder := by simpa using hvisits.mem_of_mem_names hname
  have hdistinct : r.dependencyOrder.Nodup := by simpa using hvisits.nodup_append List.nodup_nil
  obtain ⟨before, first, after, last, hnames, hfirst, hbefore, hlast, hfinished, hentry⟩ :=
    hvisits.exists_entry (fun _ h => absurd h List.not_mem_nil) hlisted List.not_mem_nil
  refine ⟨first, last, ⟨hfirst, fun other hreaches hne => ?_⟩, ⟨hlast, fun other hother hne => ?_⟩,
    fun hcycle => ?_, fun hcycle => ?_⟩
  · have hother : other ∈ r.types.names := by
      cases hreaches using ReflTransGen.head_induction_on with
      | refl => exact hname
      | head hstep _ _ =>
          obtain ⟨d, hd, -⟩ := hstep
          exact mem_names_of_definition? hd
    rw [hnames] at hother ⊢
    have hafter : other ∈ after := by
      rcases mem_append_cons hother with hmem | heq | hmem
      · exact absurd hreaches (hbefore other hmem)
      · exact absurd heq hne
      · exact hmem
    exact (standsBefore_cons hafter).mono (List.sublist_append_right _ _)
  · have hlisted := hfinished other hother hne
    have hdeclared := standsBefore_or (hr.isClosed.mem_names_of_reaches hname hother.1)
      (hr.isClosed.mem_names_of_reaches hname hlast.1) hne
    refine ⟨hlisted, ?_⟩
    rw [iff_false_left (hlisted.asymm hdistinct)]
    exact ⟨hdeclared.resolve_right, fun h => h.asymm hr.nodup_names⟩
  · rcases hentry with heq | ⟨outside, hreaches, href, hnot⟩
    · exact heq
    · -- A type between the first one and the last one would be on their cycle.
      exact absurd ⟨hcycle.1.trans hreaches, .head href hlast.2⟩ hnot
  · exact hentry.resolve_left fun heq => hcycle (heq ▸ hlast)

end Registry

/-! ## Authors and their books

A book has an author, and an author may have a favourite book. The author is declared first.
-/

namespace Bookshelves

/-- The fields of an author. -/
def authorFields : Fields :=
  [("favourite", { FieldType.ofRule (.tagged "Book") with isOptional := true })]

/-- The fields of a book. -/
def bookFields : Fields :=
  [("author", .ofRule (.tagged "Author"))]

/-- Authors and books. -/
def declarations : Declarations :=
  { Declarations.empty .standard with
    definitions := [⟨"Author", .record authorFields, none⟩, ⟨"Book", .record bookFields, none⟩] }

/-- The registry of authors and books. -/
def registry : Registry where
  number := 0
  types := [
    ("Author", ⟨⟨"Author", .record authorFields, none⟩, .standard⟩),
    ("Book", ⟨⟨"Book", .record bookFields, none⟩, .standard⟩)]
  patterns := []
  config := .standard

theorem isDeclared_of_mem_definitions : ∀ d ∈ declarations.definitions, d.IsDeclared := by
  intro d hd
  simp only [declarations, List.mem_cons, List.not_mem_nil, or_false] at hd
  rcases hd with rfl | rfl
  · exact @TypeDefinition.IsDeclared.record "Author" authorFields _ (by decide) rfl
  · exact @TypeDefinition.IsDeclared.record "Book" bookFields _ (by decide) rfl

theorem isBuiltWithCodecs_registry : registry.IsBuiltWithCodecs :=
  ⟨declarations, isDeclared_of_mem_definitions, rfl⟩

/-- Authors and books refer to each other. -/
theorem sameCycle_author_book : registry.SameCycle "Author" "Book" :=
  ⟨.single (Registry.refers_of_mem_references (by decide)),
    .single (Registry.refers_of_mem_references (by decide))⟩

end Bookshelves

/-- Authors are declared first of all types that reach books, so that they are listed last. -/
theorem Bookshelves.standsBefore_book_author :
    registry.IsBuiltWithCodecs ∧ "Book" ∈ registry.types.names ∧
      registry.SameCycle "Book" "Author" ∧
      StandsBefore "Author" "Book" registry.types.names ∧
      StandsBefore "Book" "Author" registry.dependencyOrder := by
  have hname : "Book" ∈ registry.types.names := by decide
  have hcycle := sameCycle_author_book.symm
  obtain ⟨first, last, ⟨-, hfirst⟩, ⟨-, hbefore⟩, hlast, -⟩ :=
    Registry.exists_last_of_cycle isBuiltWithCodecs_registry hname
  obtain rfl : first = "Author" := by
    by_contra hne
    have hstands := hfirst "Author" hcycle.2 (Ne.symm hne)
    have hmem : first ∈ ["Author", "Book"] := hstands.subset List.mem_cons_self
    obtain rfl := List.mem_singleton.mp ((List.mem_cons.mp hmem).resolve_left hne)
    exact absurd hstands (by decide)
  obtain rfl := hlast hcycle
  exact ⟨isBuiltWithCodecs_registry, hname, hcycle, by decide,
    (hbefore "Book" (.refl _) (by decide)).1⟩

/-- Types that reach each other are not always listed in the order of their declaration. -/
theorem Bookshelves.not_forall_standsBefore_iff :
    ¬ ∀ r : Registry, r.IsBuiltWithCodecs → ∀ name other, r.SameCycle name other →
      (StandsBefore name other r.dependencyOrder ↔ StandsBefore name other r.types.names) := by
  intro h
  have hiff := h registry isBuiltWithCodecs_registry _ _ sameCycle_author_book
  exact absurd (hiff.mpr (by decide)) (by decide)

end RecordSchema
