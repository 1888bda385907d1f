import RecordSchema.Registry.Basic

/-!
# Order and cycles of references

`Registry.dependencyOrder` puts every type behind the types that it refers to, as far as there are
no cycles. `Registry.requiredCycle?` finds types that each need an instance of the next, so that
none of them can have an instance. Both walk along the references; a walk never enters a type twice,
which bounds its depth by the number of types.
-/

namespace RecordSchema.Registry

/-- The types that the type of this name refers to. -/
def references (r : Registry) (name : String) : List String :=
  ((r.definition? name).map (·.references)).getD []

/-- The types entered so far and the types finished so far, in order. -/
structure Walk where
  entered : List String
  finished : List String

/-- Enters a type unless that has happened, then the types it refers to, and finishes it. -/
def visit (r : Registry) : Nat → Walk → String → Walk
  | 0, walk, _ => walk
  | depth + 1, walk, name =>
      if walk.entered.contains name then walk
      else
        let inner := (r.references name).foldl (visit r depth)
          { walk with entered := name :: walk.entered }
        { inner with finished := inner.finished ++ [name] }

/-- The names of all types, each behind those that it refers to. -/
def dependencyOrder (r : Registry) : List String :=
  (r.types.names.foldl (visit r (r.types.length + 1)) ⟨[], []⟩).finished

/-- The types of which every instance with these fields holds an instance. -/
def requiredIn (fields : Fields) : List String :=
  fields.filterMap fun (_, type) ↦
    match type.rule with
    | .tagged typeName => if !type.isOptional && type.depth == 0 then some typeName else none
    | _ => none

/-- The types of which every instance of the type holds an instance. For a union these are the types
that all variants require. -/
def required (r : Registry) (name : String) : List String :=
  match (r.definition? name).map (·.shape.alternatives) with
  | some (first :: others) =>
      (requiredIn first).filter fun name ↦ others.all fun fields ↦ (requiredIn fields).contains name
  | _ => []

/-- Looks for a cycle below a type. `path` are the types that lead to it and `done` those that are
on no cycle; the result has the cycle, or `none`, and the types done. -/
def findCycle (r : Registry) (path : List String) :
    Nat → List String → String → Option (List String) × List String
  | 0, done, _ => (none, done)
  | depth + 1, done, name =>
      -- The path back to where the type was entered is the cycle.
      if path.contains name then (some (path.dropWhile (· != name) ++ [name]), done)
      else if done.contains name then (none, done)
      else
        let step := fun (state : Option (List String) × List String) (next : String) ↦
          match state with
          | (some cycle, done) => (some cycle, done)
          | (none, done) => findCycle r (path ++ [name]) depth done next
        let (found, done) := (r.required name).foldl step (none, done)
        (found, name :: done)

/-- A cycle of types each of which requires the next, with its first type again at its end. -/
def requiredCycle? (r : Registry) : Option (List String) :=
  let step := fun (state : Option (List String) × List String) (name : String) ↦
    match state with
    | (some cycle, done) => (some cycle, done)
    | (none, done) => findCycle r [] (r.types.length + 1) done name
  (r.types.names.foldl step (none, [])).1

end RecordSchema.Registry
