import RecordSchema.Entries
import RecordSchema.Number.Text
import RecordSchema.Text.Quoted

/-!
# JSON values

The members of an object keep the order in which they are written. A number is an integer of 64
bits, with or without sign, or a finite double; which of the two it is shows in its text.
-/

namespace RecordSchema

/-- A JSON number. -/
inductive JsonNumber where
  | integer (n : Int)
  | real (x : Binary64)
deriving DecidableEq

namespace JsonNumber

/-- The double nearest to the number. -/
def toBinary64 : JsonNumber → Binary64
  | .integer n => .ofInt n
  | .real x => x

/-- The text of the number: integers in plain digits, doubles in the layout of JSON numbers. -/
def text : JsonNumber → String
  | .integer n =>
      if n < 0 then String.ofList ('-' :: Nat.toDigits 10 n.natAbs)
      else String.ofList (Nat.toDigits 10 n.natAbs)
  | .real x => x.text .json

end JsonNumber

/-- A JSON value. -/
inductive Json where
  | null
  | bool (b : Bool)
  | number (n : JsonNumber)
  | string (s : String)
  | array (items : List Json)
  | object (members : List (String × Json))

namespace Json

instance : Inhabited Json := ⟨.null⟩

/-- The members of an object. -/
def members? : Json → Option (Entries Json)
  | .object members => some members
  | _ => none

/-- The text of a string value. -/
def string? : Json → Option String
  | .string s => some s
  | _ => none

/-- The member of this name, if the value is an object that has it. -/
def member? (name : String) : Json → Option Json
  | .object members => Entries.get? name members
  | _ => none

mutual

/-- The compact text of a value, without blanks. -/
def compact : Json → String
  | .null => "null"
  | .bool true => "true"
  | .bool false => "false"
  | .number n => n.text
  | .string s => Text.quote s
  | .array items => "[" ++ compactItems items ++ "]"
  | .object members =>
      String.singleton '{' ++ compactMembers members ++ String.singleton '}'

/-- The texts of the items, separated by commas. -/
def compactItems : List Json → String
  | [] => ""
  | [item] => compact item
  | item :: next :: rest => compact item ++ "," ++ compactItems (next :: rest)

/-- The texts of the members, separated by commas. -/
def compactMembers : List (String × Json) → String
  | [] => ""
  | [(key, value)] => Text.quote key ++ ":" ++ compact value
  | (key, value) :: next :: rest =>
      Text.quote key ++ ":" ++ compact value ++ "," ++ compactMembers (next :: rest)

end

example :
    (Json.object [("a", .array [.number (.integer 1), .null]), ("b", .string "x")]).compact
      = r#"{"a":[1,null],"b":"x"}"# := by
  decide +kernel

end Json

end RecordSchema
