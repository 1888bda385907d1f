import RecordSchema.Text.Quoted

/-!
# Paths into values

A path leads from a value under construction to a value inside it. The empty path is written
`<root>`.
-/

namespace RecordSchema

/-- One step from a value into a value it holds. -/
inductive PathSegment where
  | field (name : String)
  | index (position : Nat)
  | key (key : String)
deriving DecidableEq

/-- The steps from the outermost value inwards. -/
abbrev Path := List PathSegment

namespace Path

/-- The path to a field below this path. -/
def field (path : Path) (name : String) : Path :=
  path ++ [.field name]

/-- The path to an element below this path. -/
def index (path : Path) (position : Nat) : Path :=
  path ++ [.index position]

/-- The path to a keyed member below this path. -/
def key (path : Path) (key : String) : Path :=
  path ++ [.key key]

/-- The text of the steps that follow a first one. -/
def textBehind : Path → String
  | [] => ""
  | .field name :: rest => "." ++ name ++ textBehind rest
  | .index position :: rest => "[" ++ toString position ++ "]" ++ textBehind rest
  | .key key :: rest => "[" ++ Text.quote key ++ "]" ++ textBehind rest

/-- The text of a path. A field at its start has no dot. -/
def text : Path → String
  | [] => "<root>"
  | .field name :: rest => name ++ textBehind rest
  | path => textBehind path

/-- The field that the path starts with. -/
def firstField? : Path → Option String
  | .field name :: _ => some name
  | _ => none

example : text [.field "items", .index 2, .key "a b"] = "items[2][\"a b\"]" := by decide +kernel

end Path

end RecordSchema
