import RecordSchema.Json.Basic

/-!
# Building tables

The tables of a document are built piece by piece. Each table remembers how it came about, because
this decides how it may be added to: a table is headed once, dotted keys only add to tables that
dotted keys have made, and inline tables and arrays are closed.
-/

namespace RecordSchema.Toml

/-- How a table came about: by a header of its own, on the way to the table of another header, or by
dotted keys. -/
inductive TableOrigin where
  | header
  | path
  | dotted
deriving DecidableEq

/-- What a key stands for while a document is read. -/
inductive Node where
  | closed (value : Json)
  | table (origin : TableOrigin) (entries : List (String × Node))
  | tables (items : List (List (String × Node)))

/-- The entries of a table, in order. -/
abbrev Table := Entries Node

mutual

/-- The finished value of a node. -/
def Node.value : Node → Json
  | .closed value => value
  | .table _ entries => .object (tableMembers entries)
  | .tables items => .array (tableItems items)

/-- The finished members of a table. -/
def tableMembers : List (String × Node) → List (String × Json)
  | [] => []
  | (key, node) :: entries => (key, node.value) :: tableMembers entries

/-- The finished tables of an array of tables. -/
def tableItems : List (List (String × Node)) → List Json
  | [] => []
  | entries :: items => .object (tableMembers entries) :: tableItems items

end

namespace Table

/-- Applies `edit` to the table at a path, making the tables that are missing. The path of a dotted
key cannot lead through a table with a header of its own, and no path leads through a closed value.
-/
def editAt {α : Type} (isDotted : Bool)
    (edit : TableOrigin → Table → Option (Table × α)) :
    TableOrigin → List String → Table → Option (Table × α)
  | origin, [], table => edit origin table
  | _, key :: path, table =>
      match table.get? key with
      | none => do
          let origin := if isDotted then .dotted else .path
          let (inner, result) ← editAt isDotted edit origin path []
          return (table.put key (.table origin inner), result)
      | some (.table origin entries) =>
          if isDotted && origin = .header then none
          else do
            let (inner, result) ← editAt isDotted edit origin path entries
            return (table.put key (.table origin inner), result)
      | some (.tables items) => do
          let last ← items.getLast?
          let (inner, result) ← editAt isDotted edit .header path last
          return (table.put key (.tables (items.dropLast ++ [inner])), result)
      | some (.closed _) => none

/-- Adds a value under a key that may be dotted. The key must be new, and in a table that dotted
keys have made just if it is dotted itself. -/
def addValue (path : List String) (key : String) (value : Json) (table : Table) : Option Table := do
  let add := fun (origin : TableOrigin) (inner : Table) ↦
    if (origin = .dotted ↔ path ≠ []) ∧ !inner.has key then
      some (inner ++ [(key, Node.closed value)], ())
    else none
  let (table, _) ← editAt true add .header path table
  return table

/-- Takes out what stands under the key of a header. It has to be a table that was made only on the
way to other tables, or nothing. -/
def openTable (path : List String) (key : String) (root : Table) : Option (Table × Table) :=
  let take := fun (_ : TableOrigin) (parent : Table) ↦
    match parent.get? key with
    | none => some (parent, [])
    | some (.table .path entries) => some (parent.erase key, entries)
    | some _ => none
  editAt false take .header path root

/-- Puts the table of a header in its place. -/
def closeTable (path : List String) (key : String) (table root : Table) : Option Table := do
  let put := fun (_ : TableOrigin) (parent : Table) ↦
    some (parent.put key (.table .header table), ())
  let (root, _) ← editAt false put .header path root
  return root

/-- Adds the table of a header to its array of tables. -/
def closeItem (path : List String) (key : String) (table root : Table) : Option Table := do
  let put := fun (_ : TableOrigin) (parent : Table) ↦
    match parent.get? key with
    | none => some (parent ++ [(key, Node.tables [table])], ())
    | some (.tables items) => some (parent.put key (.tables (items ++ [table])), ())
    | some _ => none
  let (root, _) ← editAt false put .header path root
  return root

end Table

end RecordSchema.Toml
