import Mathlib.Data.List.Chain
import RecordSchema.Proofs.Closed
import RecordSchema.Proofs.Session
import RecordSchema.Registry.Order

/-!
# Cycles of required types

A type that requires another one has no instance without an instance of that one inside it. Types
that require each other in a cycle therefore have no instances at all, because values are finite.
`Registry.requiredCycle?` reports such cycles only (`isRequiredCycle_of_requiredCycle?`), so that no
session ever holds an instance of a type that is reported (`tag_ne_of_mem_requiredCycle?`).
-/

namespace RecordSchema

namespace Registry

variable {r : Registry} {name next : String}

/-! ## What instances of a type hold -/

/-- Fields require the types of their single values that may not be absent. -/
theorem mem_requiredIn {fields : Fields} :
    next ∈ requiredIn fields ↔ ∃ field ∈ fields, field.2.rule = .tagged next ∧
      field.2.isOptional = false ∧ field.2.depth = 0 := by
  rw [requiredIn, List.mem_filterMap]
  refine exists_congr fun field => and_congr_right fun _ => ?_
  obtain ⟨field, rule, isOptional, depth, source⟩ := field
  cases rule <;> simp [and_comm]

/-- What a type requires is required by the fields of all its instances. -/
theorem mem_requiredIn_of_mem_required {d : TypeDefinition} {variant : Option String}
    {declared : Fields} (hd : r.definition? name = some d)
    (hdeclared : d.fieldsOf? variant = some declared) (h : next ∈ r.required name) :
    next ∈ requiredIn declared := by
  have hmem := TypeDefinition.mem_alternatives_of_fieldsOf? hdeclared
  rw [required, hd, Option.map_some] at h
  cases halternatives : d.shape.alternatives with
  | nil =>
      rw [halternatives] at hmem
      cases hmem
  | cons first others =>
      rw [halternatives] at h hmem
      obtain ⟨hfirst, hothers⟩ := List.mem_filter.mp h
      rcases List.mem_cons.mp hmem with rfl | hmem
      · exact hfirst
      · exact List.contains_iff_mem.mp (List.all_eq_true.mp hothers declared hmem)

/-- A valid instance has, in one of its fields, a valid instance of each type that its own type
requires. -/
theorem IsInstance.exists_required {i : Instance} (hi : r.IsInstance name i)
    (hnext : next ∈ r.required name) :
    ∃ field ∈ i.fields, r.Meets (.tagged next) 0 field.2 := by
  obtain ⟨tag, variant, fields⟩ := i
  cases hi with
  | tagged hd hdeclared _ hrequired hfields =>
      obtain ⟨field, hfield, hrule, hoptional, hdepth⟩ :=
        mem_requiredIn.mp (mem_requiredIn_of_mem_required hd hdeclared hnext)
      cases hget : fields.get? field.1 with
      | none =>
          have hmay := hrequired field hfield hget
          rw [hoptional] at hmay
          cases hmay
      | some value =>
          have hvalue := hfields field hfield value hget
          rw [hrule, hdepth] at hvalue
          exact ⟨_, Entries.mem_of_get? hget, hvalue⟩

/-- Types each of which requires one of them have no instances. -/
theorem not_meets_of_forall_exists_required {names : List String}
    (h : ∀ name ∈ names, ∃ next ∈ names, next ∈ r.required name) (hname : name ∈ names)
    (value : Value) : ¬ r.Meets (.tagged name) 0 value := by
  -- An instance would have another one inside it, of which the same is to be shown.
  induction value using Value.induction generalizing name with
  | tagged tag variant fields ih =>
      intro hvalue
      obtain ⟨i, hi, hinstance⟩ := hvalue.isInstance
      obtain ⟨next, hnext, hrequired⟩ := h name hname
      obtain ⟨field, hfield, hpart⟩ := hinstance.exists_required hrequired
      cases hi
      exact ih field hfield hnext hpart
  | string s =>
      intro hvalue
      obtain ⟨i, hi, -⟩ := hvalue.isInstance
      cases hi
  | _ => intro hvalue; cases hvalue

/-! ## What the search finds -/

/-- Each type requires the next, and the last type is the first one again. -/
structure IsRequiredCycle (r : Registry) (cycle : List String) : Prop where
  linked : cycle.IsChain fun name next => next ∈ r.required name
  closed : ∃ first between, cycle = first :: between ++ [first]

/-- Each type of a cycle requires another one of the cycle. -/
theorem IsRequiredCycle.exists_required {cycle : List String} (h : r.IsRequiredCycle cycle)
    (hname : name ∈ cycle) : ∃ next ∈ cycle, next ∈ r.required name := by
  obtain ⟨first, between, rfl⟩ := h.closed
  have hstart : name ∈ first :: between := by
    rcases List.mem_append.mp hname with hname | hname
    · exact hname
    · exact List.mem_singleton.mp hname ▸ List.mem_cons_self
  obtain ⟨before, after, heq⟩ := List.append_of_mem hstart
  have hlinked := h.linked
  rw [heq, List.append_assoc, List.cons_append] at hlinked ⊢
  cases after with
  | nil => exact ⟨first, by simp, (List.isChain_append_cons_cons.mp hlinked).2.1⟩
  | cons next after => exact ⟨next, by simp, (List.isChain_append_cons_cons.mp hlinked).2.1⟩

/-- A search through names that goes on until something is found has found it before or at one of
the names. -/
theorem exists_of_foldl_eq_some {search : List String → String → Option (List String) × List String}
    {names cycle : List String} {state : Option (List String) × List String}
    (h : (names.foldl (fun (state : Option (List String) × List String) name ↦
      match state with
      | (some cycle, done) => (some cycle, done)
      | (none, done) => search done name) state).1 = some cycle) :
    state.1 = some cycle ∨ ∃ name ∈ names, ∃ done, (search done name).1 = some cycle := by
  induction names generalizing state with
  | nil => exact .inl h
  | cons name names ih =>
      obtain ⟨found | found, done⟩ := state
      · rcases ih h with hhere | ⟨other, hother, hfound⟩
        · exact .inr ⟨name, List.mem_cons_self, done, hhere⟩
        · exact .inr ⟨other, List.mem_cons_of_mem _ hother, hfound⟩
      · rcases ih h with hhere | ⟨other, hother, hfound⟩
        · exact .inl hhere
        · exact .inr ⟨other, List.mem_cons_of_mem _ hother, hfound⟩

/-- What is left of names from the first occurrence of one of them on. -/
theorem exists_dropWhile_eq {names : List String} (h : name ∈ names) :
    ∃ before after, names = before ++ name :: after ∧
      names.dropWhile (· != name) = name :: after := by
  induction names with
  | nil => cases h
  | cons other names ih =>
      by_cases heq : other = name
      · exact ⟨[], names, by rw [heq, List.nil_append], by simp [heq]⟩
      · obtain ⟨before, after, hnames, hdrop⟩ := ih (List.mem_of_ne_of_mem (Ne.symm heq) h)
        exact ⟨other :: before, after, by rw [hnames, List.cons_append], by simpa [heq] using hdrop⟩

/-- What is found below a type, at the end of a path of types each of which requires the next, is a
cycle. -/
theorem isRequiredCycle_of_findCycle {path done cycle : List String} {depth : Nat}
    (hpath : (path ++ [name]).IsChain fun name next => next ∈ r.required name)
    (h : (r.findCycle path depth done name).1 = some cycle) : r.IsRequiredCycle cycle := by
  induction depth generalizing path done name with
  | zero => cases h
  | succ depth ih =>
      rw [findCycle] at h
      split at h
      next hcontains =>
          -- The search is back at a type of the path.
          obtain ⟨before, after, heq, hdrop⟩ :=
            exists_dropWhile_eq (List.contains_iff_mem.mp hcontains)
          cases h
          rw [hdrop]
          rw [heq, List.append_assoc] at hpath
          exact ⟨hpath.right_of_append, name, after, rfl⟩
      next =>
          split at h
          · cases h
          · rcases exists_of_foldl_eq_some h with hnone | ⟨next, hnext, done, hfound⟩
            · cases hnone
            · refine ih ?_ hfound
              rw [List.append_assoc]
              exact List.isChain_append_cons_cons.mpr ⟨hpath, hnext, .singleton next⟩

/-- Only cycles are reported. -/
theorem isRequiredCycle_of_requiredCycle? {cycle : List String}
    (h : r.requiredCycle? = some cycle) : r.IsRequiredCycle cycle := by
  rcases exists_of_foldl_eq_some h with hnone | ⟨name, -, done, hfound⟩
  · cases hnone
  · exact isRequiredCycle_of_findCycle (.singleton name) hfound

/-- The types of a reported cycle have no instances. -/
theorem not_isInstance_of_requiredCycle? {cycle : List String} (h : r.requiredCycle? = some cycle)
    (hname : name ∈ cycle) (i : Instance) : ¬ r.IsInstance name i :=
  not_meets_of_forall_exists_required
    (fun _ hmem => (isRequiredCycle_of_requiredCycle? h).exists_required hmem) hname _

end Registry

/-- No instance that a session is given, and none inside one, is of a type that one of its
registries reports to be on a cycle. -/
theorem Session.tag_ne_of_mem_requiredCycle? {s : Session} (h : s.Reachable) {r : Registry}
    (hr : r ∈ s.registries) {cycle : List String} (hcycle : r.requiredCycle? = some cycle)
    {name : String} (hname : name ∈ cycle) {p : Production} (hp : p ∈ s.produced) {i : Instance}
    (hi : (Value.ofInstance i).Inside (.ofInstance p.result)) : i.tag ≠ r.tag name := by
  intro htag
  have hsound := (h.isSound.sound p hp).inside hi
  obtain ⟨tag, variant, fields⟩ := i
  obtain rfl : tag = r.tag name := htag
  exact Registry.not_isInstance_of_requiredCycle? hcycle hname _
    (Registry.isInstance_of_sound (h.isSound.eq_of_number_eq r hr) hsound)

/-! ## Hens and eggs

A hen has the egg that it came from, and every egg, whether fresh or old, the hen that laid it. A
farm has any number of hens.
-/

namespace Farms

/-- The fields of a farm. -/
def farmFields : Fields :=
  [("name", .ofRule .string), ("hens", { FieldType.ofRule (.tagged "Hen") with depth := 1 })]

/-- The fields of a hen. -/
def henFields : Fields :=
  [("egg", .ofRule (.tagged "Egg"))]

/-- The variants of an egg. -/
def eggVariants : Entries Fields :=
  [("Fresh", [("hen", .ofRule (.tagged "Hen"))]),
   ("Old", [("age", .ofRule .number), ("hen", .ofRule (.tagged "Hen"))])]

/-- Farms, hens and eggs. -/
def declarations : Declarations :=
  { Declarations.empty .standard with
    definitions := [
      ⟨"Farm", .record farmFields, none⟩,
      ⟨"Hen", .record henFields, none⟩,
      ⟨"Egg", .union eggVariants, none⟩] }

/-- The registry of farms, hens and eggs. -/
def registry : Registry where
  number := 0
  types := [
    ("Farm", ⟨⟨"Farm", .record farmFields, none⟩, .standard⟩),
    ("Hen", ⟨⟨"Hen", .record henFields, none⟩, .standard⟩),
    ("Egg", ⟨⟨"Egg", .union eggVariants, none⟩, .standard⟩)]
  patterns := []
  config := .standard

theorem isStandard_declarations : declarations.IsStandard where
  declared := by
    intro d hd
    simp only [declarations, List.mem_cons, List.not_mem_nil, or_false] at hd
    rcases hd with rfl | rfl | rfl
    · exact @TypeDefinition.IsDeclared.record "Farm" farmFields _ (by decide) rfl
    · exact @TypeDefinition.IsDeclared.record "Hen" henFields _ (by decide) rfl
    · exact @TypeDefinition.IsDeclared.union "Egg" eggVariants _ (by decide) (by decide) rfl
  codecs := by simp [declarations, Declarations.empty]

theorem build_declarations : declarations.build 0 = .ok registry := rfl

theorem isBuiltWithCodecs_registry : registry.IsBuiltWithCodecs :=
  ⟨declarations, isStandard_declarations.declared, build_declarations⟩

/-- Hens and eggs require each other; a farm can do without hens. -/
theorem requiredCycle?_registry : registry.requiredCycle? = some ["Hen", "Egg", "Hen"] := by
  decide

/-- A farm without hens. -/
def farm : Instance :=
  ⟨registry.tag "Farm", none, [("name", .string "Hill"), ("hens", .array [])]⟩

/-- Constructing the farm. -/
def constructFarm : Call :=
  .constructRecord ⟨registry, "Farm", _, farmFields, rfl, rfl⟩
    [some (.string "Hill"), some (.array [])]

/-- The session in which the farm was constructed. -/
def session : Session :=
  ⟨[registry], [⟨constructFarm, farm⟩]⟩

theorem reachable_session : session.Reachable := by
  have hbuild : Session.Step .empty ⟨[registry], []⟩ :=
    .build isStandard_declarations build_declarations
  have hconstruct : Session.Step ⟨[registry], []⟩ session :=
    .call List.mem_cons_self
      (by simpa [constructFarm, Call.values] using ⟨.string "Hill", .array (by simp)⟩)
      (by simp [constructFarm, Call.shapes]) rfl
  exact (Relation.ReflTransGen.single hbuild).tail hconstruct

end Farms

/-- The farm that was constructed is no egg. -/
theorem Farms.tag_farm_ne_egg : Farms.session.Reachable ∧
    Farms.registry ∈ Farms.session.registries ∧
    Farms.registry.requiredCycle? = some ["Hen", "Egg", "Hen"] ∧
    ⟨Farms.constructFarm, Farms.farm⟩ ∈ Farms.session.produced ∧
    Farms.farm.tag ≠ Farms.registry.tag "Egg" := by
  have hregistry : registry ∈ session.registries := List.mem_cons_self
  have hproduced : ⟨constructFarm, farm⟩ ∈ session.produced := List.mem_cons_self
  refine ⟨reachable_session, hregistry, requiredCycle?_registry, hproduced, ?_⟩
  exact Session.tag_ne_of_mem_requiredCycle? reachable_session hregistry requiredCycle?_registry
    (by decide) hproduced .refl

end RecordSchema
