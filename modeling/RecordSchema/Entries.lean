/-!
# Named entries in order

Fields, object members, variants and patterns are all lists of named entries in which order counts
and a name stands once. `put` keeps the place of a name that is there already.
-/

namespace RecordSchema

/-- Named entries, in order. -/
abbrev Entries (α : Type) := List (String × α)

namespace Entries

variable {α β : Type}

/-- The names, in order. -/
def names (entries : Entries α) : List String :=
  entries.map (·.1)

/-- The values, in order. -/
def values (entries : Entries α) : List α :=
  entries.map (·.2)

/-- The entry of this name. -/
def get? (name : String) : Entries α → Option α
  | [] => none
  | (key, value) :: rest => if key = name then some value else get? name rest

/-- There is an entry of this name. -/
def has (name : String) (entries : Entries α) : Bool :=
  (entries.get? name).isSome

/-- Sets the entry of this name, in place if there is one and at the end otherwise. -/
def put (name : String) (value : α) : Entries α → Entries α
  | [] => [(name, value)]
  | (key, old) :: rest =>
      if key = name then (key, value) :: rest else (key, old) :: put name value rest

/-- Takes the entry of this name out. -/
def erase (name : String) : Entries α → Entries α
  | [] => []
  | (key, value) :: rest => if key = name then rest else (key, value) :: erase name rest

/-- Puts one addition after the other into the entries. -/
def putAll (entries additions : Entries α) : Entries α :=
  additions.foldl (fun result entry ↦ result.put entry.1 entry.2) entries

/-- The entries put one after the other, so that each name stands once. -/
def ofList (entries : Entries α) : Entries α :=
  putAll [] entries

/-- The same names with other values. -/
def mapValues (f : α → β) (entries : Entries α) : Entries β :=
  entries.map fun entry ↦ (entry.1, f entry.2)

@[simp] theorem get?_nil (name : String) : get? name ([] : Entries α) = none := rfl

theorem get?_cons (name key : String) (value : α) (rest : Entries α) :
    get? name ((key, value) :: rest) = if key = name then some value else get? name rest := rfl

@[simp] theorem get?_mapValues (f : α → β) (name : String) (entries : Entries α) :
    (entries.mapValues f).get? name = (entries.get? name).map f := by
  induction entries with
  | nil => rfl
  | cons entry rest ih =>
      simp only [mapValues, List.map_cons, get?] at ih ⊢
      split <;> simp_all

@[simp] theorem get?_put_self (name : String) (value : α) (entries : Entries α) :
    (entries.put name value).get? name = some value := by
  induction entries with
  | nil => simp [put, get?]
  | cons entry rest ih =>
      by_cases h : entry.1 = name <;> simp [put, get?, h, ih]

theorem get?_put_of_ne {name other : String} (h : name ≠ other) (value : α)
    (entries : Entries α) : (entries.put name value).get? other = entries.get? other := by
  induction entries with
  | nil => simp [put, get?, h]
  | cons entry rest ih =>
      by_cases hk : entry.1 = name
      · simp [put, get?, hk, h]
      · by_cases ho : entry.1 = other <;> simp_all [put, get?]

theorem get?_erase_of_ne {name other : String} (h : name ≠ other) (entries : Entries α) :
    (entries.erase name).get? other = entries.get? other := by
  induction entries with
  | nil => rfl
  | cons entry rest ih =>
      by_cases hk : entry.1 = name
      · simp [erase, get?, hk, h]
      · by_cases ho : entry.1 = other <;> simp_all [erase, get?]

/-- An entry found under a name is one of the entries. -/
theorem mem_of_get? {name : String} {value : α} {entries : Entries α}
    (h : entries.get? name = some value) : (name, value) ∈ entries := by
  induction entries with
  | nil => simp at h
  | cons entry rest ih =>
      by_cases hk : entry.1 = name
      · simp only [get?, hk, if_true, Option.some.injEq] at h
        simp [← hk, ← h]
      · simp only [get?, hk, if_false] at h
        exact List.mem_cons_of_mem _ (ih h)

end Entries

end RecordSchema
