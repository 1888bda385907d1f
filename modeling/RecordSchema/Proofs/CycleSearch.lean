import Mathlib.Data.List.Perm.Basic
import RecordSchema.Proofs.RequiredCycle

/-!
# Finding cycles of required types

`Registry.requiredCycle?` finds a cycle whenever there is one. `Registry.Searches` is its search
without a bound on the depth: the types on the path are open, those that are done are closed, and
all others have not been entered. The bound is never reached (`searches_findAmong`). What is done
when the search goes on is settled, that is, it leads to no other types and to no cycle
(`Searches.isSettled`), so that a search through all types that finds nothing leaves no cycle
(`requiredCycle?_exact`).
-/

namespace RecordSchema

open Outcome Relation

/-! ## What a type must hold -/

/-- A union has a variant. -/
theorem TypeDefinition.ne_nil_of_union {name : String} {variants : Entries Fields}
    {d : TypeDefinition} (h : union name variants = .ok d) : variants ≠ [] := by
  rintro rfl
  obtain ⟨_, -, h⟩ := bind_eq_ok.mp h
  cases h

/-- There is a list of fields that an instance can have. -/
theorem TypeDefinition.IsDeclared.alternatives_ne_nil {d : TypeDefinition} (h : d.IsDeclared) :
    d.shape.alternatives ≠ [] := by
  induction h with
  | record _ hd =>
      rw [eq_of_record hd]
      exact List.cons_ne_nil _ _
  | union _ _ hd =>
      rw [(eq_of_union hd).1]
      exact mt List.map_eq_nil_iff.mp (ne_nil_of_union hd)
  | withIdField _ ih => exact ih

/-- Shapes that correspond have as many alternatives. -/
theorem Shape.Related.length_alternatives {R : FieldType → FieldType → Prop} {shape other : Shape}
    (h : shape.Related R other) : shape.alternatives.length = other.alternatives.length := by
  cases h with
  | record => rfl
  | union h => simpa [alternatives] using List.Forall₂.length_eq h

/-- A chain that ends where it starts leads from its start back to it. -/
theorem transGen_of_isChain {α : Type} {R : α → α → Prop} {first : α} {between : List α}
    (h : (first :: between ++ [first]).IsChain R) : TransGen R first first := by
  obtain ⟨hchain, -, hback⟩ := List.isChain_append.mp h
  have hreach := List.relationReflTransGen_of_exists_isChain_cons between hchain rfl
  exact TransGen.tail' hreach (hback _ (List.getLast?_eq_some_getLast _) first rfl)

namespace Registry

section Statement

variable (r : Registry)

/-- Every instance of the type must hold one of the other type: a record in a required field for a
single value of that type, and a union in such a field of each of its variants. -/
def MustHold (name other : String) : Prop :=
  ∃ d, r.definition? name = some d ∧ ∀ fields ∈ d.shape.alternatives, ∃ field ∈ fields,
    field.2.rule = .tagged other ∧ field.2.isOptional = false ∧ field.2.depth = 0

/-- Searching below the types of a path through names, one after the other, ends with what is found
and the types that are done then. -/
inductive Searches :
    List String → List String → List String → Option (List String) → List String → Prop where
  | nil {path done} : Searches path done [] none done
  | back {path done name names} : name ∈ path →
      Searches path done (name :: names) (some (path.dropWhile (· != name) ++ [name])) done
  | skip {path done name names found last} : name ∉ path → name ∈ done →
      Searches path done names found last → Searches path done (name :: names) found last
  | found {path done name names cycle inner} : name ∉ path → name ∉ done →
      Searches (path ++ [name]) done (r.required name) (some cycle) inner →
      Searches path done (name :: names) (some cycle) (name :: inner)
  | leave {path done name names inner found last} : name ∉ path → name ∉ done →
      Searches (path ++ [name]) done (r.required name) none inner →
      Searches path (name :: inner) names found last →
      Searches path done (name :: names) found last

/-- The search through names with a bound on the depth. -/
def findAmong (path : List String) (depth : Nat) (done names : List String) :
    Option (List String) × List String :=
  names.foldl (fun (state : Option (List String) × List String) (next : String) ↦
    match state with
    | (some cycle, done) => (some cycle, done)
    | (none, done) => findCycle r path depth done next) (none, done)

end Statement

variable {r : Registry} {name next : String} {path done last names : List String}

/-- Registered types have a list of fields that an instance can have. -/
theorem IsBuiltWithCodecs.alternatives_ne_nil (hr : r.IsBuiltWithCodecs) {d : TypeDefinition}
    (hd : r.definition? name = some d) : d.shape.alternatives ≠ [] := by
  obtain ⟨entry, hentry, rfl⟩ := Option.map_eq_some_iff.mp hd
  obtain ⟨declarations, hdeclared, hbuild⟩ := hr
  obtain ⟨-, -, hregistered⟩ := Declarations.build_eq_ok.mp hbuild
  obtain ⟨declared, hmem, hregisters⟩ :=
    exists_of_mem_right hregistered (Entries.mem_of_get? hentry)
  have hne := (hdeclared declared hmem).alternatives_ne_nil
  rw [← List.length_pos_iff] at hne ⊢
  exact hregisters.definition.shape.length_alternatives ▸ hne

/-- Only declared types require others. -/
theorem required_of_not_mem (h : name ∉ r.types.names) : r.required name = [] := by
  rw [required, definition?, Entries.get?_eq_none_iff.mpr h]
  rfl

theorem mem_names_of_mem_required (h : next ∈ r.required name) : name ∈ r.types.names := by
  by_contra hnot
  rw [required_of_not_mem hnot] at h
  cases h

/-- What a type requires is what it must hold. -/
theorem IsBuiltWithCodecs.mem_required_iff (hr : r.IsBuiltWithCodecs) :
    next ∈ r.required name ↔ r.MustHold name next := by
  unfold required MustHold
  cases hd : r.definition? name with
  | none => simp
  | some d =>
      cases hshapes : d.shape.alternatives with
      | nil => exact absurd hshapes (hr.alternatives_ne_nil hd)
      | cons first others => simp [hshapes, mem_requiredIn]

/-! ## The search without a bound -/

/-- Nothing is searched after something was found. -/
theorem findAmong_cons (r : Registry) (path : List String) (depth : Nat) (done : List String)
    (name : String) (names : List String) :
    r.findAmong path depth done (name :: names) =
      match r.findCycle path depth done name with
      | (some cycle, done) => (some cycle, done)
      | (none, done) => r.findAmong path depth done names := by
  have hfound : ∀ (names : List String) (cycle done : List String),
      names.foldl (fun (state : Option (List String) × List String) (next : String) ↦
        match state with
        | (some cycle, done) => (some cycle, done)
        | (none, done) => findCycle r path depth done next) (some cycle, done)
      = (some cycle, done) := by
    intro names cycle done
    induction names with
    | nil => rfl
    | cons name names ih => exact ih
  rw [findAmong, List.foldl_cons]
  change names.foldl _ (r.findCycle path depth done name) = _
  split
  next cycle inner heq => rw [heq, hfound]
  next inner heq => rw [heq, findAmong]

/-- The search below a type goes through the types that it requires. -/
theorem findCycle_succ (r : Registry) (path : List String) (depth : Nat) (done : List String)
    (name : String) :
    r.findCycle path (depth + 1) done name =
      if path.contains name then (some (path.dropWhile (· != name) ++ [name]), done)
      else if done.contains name then (none, done)
      else
        ((r.findAmong (path ++ [name]) depth done (r.required name)).1,
          name :: (r.findAmong (path ++ [name]) depth done (r.required name)).2) :=
  rfl

/-- A path goes on with a type that is not on it. -/
theorem nodup_append_of_not_mem (hdistinct : path.Nodup) (hback : name ∉ path) :
    (path ++ [name]).Nodup := by
  rw [← List.concat_eq_append]
  exact hdistinct.concat hback

/-- The types on the path are distinct, so that the bound is never reached. -/
theorem searches_findAmong (hdistinct : path.Nodup) (hpath : path ⊆ r.types.names)
    (hdepth : r.types.length < depth + path.length) :
    r.Searches path done names (r.findAmong path depth done names).1
      (r.findAmong path depth done names).2 := by
  induction depth generalizing path done names with
  | zero =>
      have hlength := (List.subperm_of_subset hdistinct hpath).length_le
      rw [Entries.length_names] at hlength
      omega
  | succ depth ih =>
      induction names generalizing done with
      | nil => exact .nil
      | cons name names ihnames =>
          rw [findAmong_cons, findCycle_succ]
          by_cases hback : name ∈ path
          · rw [if_pos (List.contains_iff_mem.mpr hback)]
            exact .back hback
          rw [if_neg (mt List.contains_iff_mem.mp hback)]
          by_cases hdone : name ∈ done
          · rw [if_pos (List.contains_iff_mem.mpr hdone)]
            exact .skip hback hdone ihnames
          rw [if_neg (mt List.contains_iff_mem.mp hdone)]
          have hinner : r.Searches (path ++ [name]) done (r.required name)
              (r.findAmong (path ++ [name]) depth done (r.required name)).1
              (r.findAmong (path ++ [name]) depth done (r.required name)).2 := by
            by_cases hname : name ∈ r.types.names
            · refine ih ?_ ?_ (by rw [List.length_append, List.length_singleton]; omega)
              · exact nodup_append_of_not_mem hdistinct hback
              · exact List.append_subset.mpr ⟨hpath, by simpa using hname⟩
            · rw [required_of_not_mem hname]
              exact .nil
          generalize r.findAmong (path ++ [name]) depth done (r.required name) = result at hinner ⊢
          obtain ⟨_ | cycle, inner⟩ := result
          · exact .leave hback hdone hinner ihnames
          · exact .found hback hdone hinner

/-- The search for a required cycle ends. -/
theorem exists_searches_requiredCycle? (r : Registry) :
    ∃ last, r.Searches [] [] r.types.names r.requiredCycle? last :=
  ⟨_, searches_findAmong List.nodup_nil (List.nil_subset _) (Nat.lt_succ_self _)⟩

/-! ## Cycles that are found -/

/-- A type comes up twice on a reported cycle only at its ends. -/
theorem Searches.nodup_dropLast {cycle : List String}
    (h : r.Searches path done names (some cycle) last) (hdistinct : path.Nodup) :
    cycle.dropLast.Nodup := by
  generalize hfound : some cycle = found at h
  induction h with
  | nil => cases hfound
  | back =>
      cases hfound
      rw [List.dropLast_concat]
      exact hdistinct.sublist (List.dropWhile_sublist _)
  | skip _ _ _ ih => exact ih hdistinct hfound
  | found hback _ _ ih => exact ih (nodup_append_of_not_mem hdistinct hback) hfound
  | leave _ _ _ _ _ ih => exact ih hdistinct hfound

/-! ## Cycles that are not missed -/

/-- The types lead to no other types and to no cycle. -/
structure IsSettled (r : Registry) (done : List String) : Prop where
  closed : ∀ name ∈ done, r.required name ⊆ done
  acyclic : ∀ name ∈ done, ¬ TransGen (fun name next ↦ next ∈ r.required name) name name

/-- Settled types lead to settled types. -/
theorem IsSettled.mem_of_reflTransGen (h : r.IsSettled done) (hname : name ∈ done)
    (hreach : ReflTransGen (fun name next ↦ next ∈ r.required name) name next) : next ∈ done := by
  induction hreach with
  | refl => exact hname
  | tail _ hstep ih => exact h.closed _ ih hstep

/-- A type that requires settled types only can be settled. -/
theorem IsSettled.cons (h : r.IsSettled done) (hrequired : r.required name ⊆ done) :
    r.IsSettled (name :: done) where
  closed := List.forall_mem_cons.mpr
    ⟨List.subset_cons_of_subset _ hrequired,
      fun other hother => List.subset_cons_of_subset _ (h.closed other hother)⟩
  acyclic := by
    refine List.forall_mem_cons.mpr ⟨fun hcycle => ?_, h.acyclic⟩
    -- The cycle goes on with a settled type, so that it would be one of settled types.
    obtain ⟨next, hnext, hreach⟩ := TransGen.head'_iff.mp hcycle
    exact h.acyclic name (h.mem_of_reflTransGen (hrequired hnext) hreach) hcycle

/-- A search that finds nothing settles the types that it goes through. -/
theorem Searches.isSettled (h : r.Searches path done names none last) (hdone : r.IsSettled done) :
    r.IsSettled last ∧ done ⊆ last ∧ names ⊆ last := by
  generalize hfound : none = found at h
  induction h with
  | nil => exact ⟨hdone, List.Subset.refl _, List.nil_subset _⟩
  | back => cases hfound
  | skip _ hmem _ ih =>
      obtain ⟨hsettled, hsubset, hnames⟩ := ih hdone hfound
      exact ⟨hsettled, hsubset, List.cons_subset.mpr ⟨hsubset hmem, hnames⟩⟩
  | found => cases hfound
  | leave _ _ _ _ ihinner ihrest =>
      obtain ⟨hinner, hsubset, hrequired⟩ := ihinner hdone rfl
      obtain ⟨hsettled, hinnerSubset, hnames⟩ := ihrest (hinner.cons hrequired) hfound
      obtain ⟨hname, hrest⟩ := List.cons_subset.mp hinnerSubset
      exact ⟨hsettled, List.Subset.trans hsubset hrest, List.cons_subset.mpr ⟨hname, hnames⟩⟩

/-- Nothing is found only where there is no cycle. -/
theorem not_transGen_of_requiredCycle?_eq_none (h : r.requiredCycle? = none) (name : String) :
    ¬ TransGen (fun name next ↦ next ∈ r.required name) name name := by
  intro hcycle
  obtain ⟨last, hsearch⟩ := r.exists_searches_requiredCycle?
  rw [h] at hsearch
  obtain ⟨hsettled, -, hall⟩ := hsearch.isSettled
    ⟨fun _ hmem => absurd hmem List.not_mem_nil, fun _ hmem => absurd hmem List.not_mem_nil⟩
  obtain ⟨next, hnext, -⟩ := TransGen.head'_iff.mp hcycle
  exact hsettled.acyclic name (hall (mem_names_of_mem_required hnext)) hcycle

/-- The search for a cycle of types each of which must hold one of the next ends, finds nothing
exactly if there is no such cycle, and otherwise reports one: declared types that are distinct, with
the first one again at the end. -/
theorem requiredCycle?_exact (hr : r.IsBuiltWithCodecs) :
    (∃ last, r.Searches [] [] r.types.names r.requiredCycle? last) ∧
    (r.requiredCycle? = none ↔ ∀ name, ¬ TransGen r.MustHold name name) ∧
    ∀ cycle, r.requiredCycle? = some cycle → ∃ first between,
      cycle = first :: between ++ [first] ∧ (first :: between).Nodup ∧
        (∀ name ∈ first :: between, name ∈ r.types.names) ∧ cycle.IsChain r.MustHold := by
  have hrequired : (fun name next ↦ next ∈ r.required name) = r.MustHold :=
    funext₂ fun _ _ => propext hr.mem_required_iff
  obtain ⟨last, hsearch⟩ := r.exists_searches_requiredCycle?
  have hreported : ∀ cycle, r.requiredCycle? = some cycle → ∃ first between,
      cycle = first :: between ++ [first] ∧ (first :: between).Nodup ∧
        (∀ name ∈ first :: between, name ∈ r.types.names) ∧ cycle.IsChain r.MustHold := by
    intro cycle hcycle
    have hfound := isRequiredCycle_of_requiredCycle? hcycle
    obtain ⟨first, between, rfl⟩ := hfound.closed
    rw [hcycle] at hsearch
    have hdistinct := hsearch.nodup_dropLast List.nodup_nil
    rw [List.dropLast_concat] at hdistinct
    refine ⟨first, between, rfl, hdistinct, fun name hname => ?_, hrequired ▸ hfound.linked⟩
    obtain ⟨next, -, hnext⟩ := hfound.exists_required (List.mem_append_left _ hname)
    exact mem_names_of_mem_required hnext
  refine ⟨⟨last, hsearch⟩, ⟨fun hnone => ?_, fun hacyclic => ?_⟩, hreported⟩
  · exact hrequired ▸ not_transGen_of_requiredCycle?_eq_none hnone
  · cases hcycle : r.requiredCycle? with
    | none => rfl
    | some cycle =>
        obtain ⟨first, between, rfl, -, -, hlinked⟩ := hreported cycle hcycle
        exact absurd (transGen_of_isChain hlinked) (hacyclic first)

end Registry

/-- The search finds hens and eggs, which must hold each other. -/
theorem Farms.isChain_hen_egg : registry.IsBuiltWithCodecs ∧
    (∃ last, registry.Searches [] [] registry.types.names (some ["Hen", "Egg", "Hen"]) last) ∧
    (∃ name, TransGen registry.MustHold name name) ∧
    ["Hen", "Egg", "Hen"].IsChain registry.MustHold := by
  obtain ⟨hends, hnone, hreported⟩ := Registry.requiredCycle?_exact isBuiltWithCodecs_registry
  rw [requiredCycle?_registry] at hends hnone
  obtain ⟨_, _, -, -, -, hchain⟩ := hreported _ requiredCycle?_registry
  exact ⟨isBuiltWithCodecs_registry, hends, by simpa using hnone, hchain⟩

end RecordSchema
