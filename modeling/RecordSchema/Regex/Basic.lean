/-!
# Regular expressions by what they match

A `Regex` is a regular expression whose flags have been applied: its classes are sets of characters
and its assertions are conditions on the characters before and behind a position. `Regex.Spans` says
which parts of a text an expression matches.
-/

namespace RecordSchema

/-- A set of characters. -/
abbrev Regex.CharSet := Char → Bool

/-- A condition on a position of a text: the character before it and the one behind it, if there
are such. -/
abbrev Regex.Look := Option Char → Option Char → Bool

/-- A regular expression whose flags have been applied. -/
inductive Regex where
  | empty
  | char (set : Regex.CharSet)
  | look (holds : Regex.Look)
  | seq (first second : Regex)
  | alt (left right : Regex)
  | repeated (body : Regex) (min : Nat) (max : Option Nat)

namespace Regex

/-- The character before a position of the text. -/
def before (input : Array Char) (position : Nat) : Option Char :=
  if position = 0 then none else input[position - 1]?

/-- The expression that matches nothing, not even the empty text. -/
def never : Regex := .char fun _ ↦ false

/-- The expressions one after the other. -/
def concat (parts : List Regex) : Regex :=
  parts.foldr .seq .empty

/-- One of the expressions. -/
def oneOf : List Regex → Regex
  | [] => never
  | [branch] => branch
  | branch :: branches => .alt branch (oneOf branches)

/-- The expression that matches exactly this text. -/
def literal (text : List Char) : Regex :=
  concat (text.map fun c ↦ .char (· == c))

/-- The expression, any number of times. -/
def anyNumber (r : Regex) : Regex :=
  .repeated r 0 none

/-- `Spans input r i j` says that `r` matches the part of the text between the positions `i` and
`j`. -/
inductive Spans (input : Array Char) : Regex → Nat → Nat → Prop where
  | empty (i : Nat) : Spans input .empty i i
  | char {set : CharSet} {i : Nat} {c : Char} :
      input[i]? = some c → set c = true → Spans input (.char set) i (i + 1)
  | look {holds : Look} {i : Nat} :
      i ≤ input.size → holds (before input i) input[i]? = true → Spans input (.look holds) i i
  | seq {r s : Regex} {i j k : Nat} :
      Spans input r i j → Spans input s j k → Spans input (.seq r s) i k
  | left {r s : Regex} {i j : Nat} : Spans input r i j → Spans input (.alt r s) i j
  | right {r s : Regex} {i j : Nat} : Spans input s i j → Spans input (.alt r s) i j
  | done {r : Regex} {max : Option Nat} (i : Nat) : Spans input (.repeated r 0 max) i i
  | more {r : Regex} {min : Nat} {max : Option Nat} {i j k : Nat} :
      max ≠ some 0 → Spans input r i j →
      Spans input (.repeated r (min - 1) (max.map (· - 1))) j k →
      Spans input (.repeated r min max) i k

end Regex

end RecordSchema
