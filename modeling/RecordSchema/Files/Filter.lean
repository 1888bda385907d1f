import RecordSchema.Regex.Matcher

/-!
# Path filters

A path filter is a pattern with wildcards for whole paths. `?` stands for any character and `*` for
any characters, a slash among them; brackets enclose a class of characters. `**` is a step of a path
by itself and stands for any number of steps.
-/

namespace RecordSchema

/-- What is wrong with a path filter. -/
inductive FilterFault where
  | stars
  | recursion
  | range
deriving DecidableEq

/-- The text of the fault. -/
def FilterFault.message : FilterFault → String
  | .stars => "wildcards are either regular `*` or recursive `**`"
  | .recursion => "recursive wildcards must form a single path component"
  | .range => "invalid range pattern"

/-- A fault of a path filter and the position where it is found. -/
structure FilterError where
  position : Nat
  fault : FilterFault
deriving DecidableEq

/-- The text of the error. -/
def FilterError.message (error : FilterError) : String :=
  "Pattern syntax error near position " ++ toString error.position ++ ": " ++ error.fault.message

/-- A piece of a path filter. -/
inductive FilterToken where
  | literal (c : Char)
  | anyChar
  | anyChars
  | anySteps
  | oneOf (negated : Bool) (ranges : List (Char × Char))
deriving DecidableEq

namespace FilterToken

/-- The ranges of a class. A hyphen between two characters makes a range of them. -/
def classRanges : List Char → List (Char × Char)
  | low :: '-' :: high :: rest => (low, high) :: classRanges rest
  | c :: rest => (c, c) :: classRanges rest
  | [] => []

/-- Splits the text behind an opening bracket, or behind its sign, at the closing one. The first
character is always one of the class. -/
def classParts? : List Char → Option (List Char × List Char)
  | [] => none
  | first :: rest =>
      match rest.dropWhile (· != ']') with
      | [] => none
      | _ :: behind => some (first :: rest.takeWhile (· != ']'), behind)

/-- Reads a class behind its opening bracket. -/
def readClass? : List Char → Option (FilterToken × List Char)
  | '!' :: rest => (classParts? rest).map fun (inside, behind) ↦
      (.oneOf true (classRanges inside), behind)
  | text => (classParts? text).map fun (inside, behind) ↦
      (.oneOf false (classRanges inside), behind)

/-- Reads what stands at a position behind two stars that begin a step, if `startsStep`. -/
def readSteps (startsStep : Bool) (position : Nat) (behind : List Char) :
    Except FilterError (FilterToken × List Char) :=
  if startsStep then
    match behind with
    | [] => .ok (.anySteps, [])
    | '/' :: rest => .ok (.anySteps, rest)
    | _ => .error ⟨position + 2, .recursion⟩
  else .error ⟨position - 1, .recursion⟩

/-- Reads the piece at a position. -/
def read (startsStep : Bool) (position : Nat) (c : Char) (text : List Char) :
    Except FilterError (FilterToken × List Char) :=
  match c, text with
  | '?', text => .ok (.anyChar, text)
  | '*', '*' :: '*' :: _ => .error ⟨position + 2, .stars⟩
  | '*', '*' :: behind => readSteps startsStep position behind
  | '*', text => .ok (.anyChars, text)
  | '[', text =>
      match readClass? text with
      | some result => .ok result
      | none => .error ⟨position, .range⟩
  | c, text => .ok (.literal c, text)

/-- Reads pieces to the end. `last` is the character before the position, if there is one. -/
def readAll : Nat → Option Char → Nat → List Char → Except FilterError (List FilterToken)
  | 0, _, _, _ => .ok []
  | _ + 1, _, _, [] => .ok []
  | fuel + 1, last, position, c :: text => do
      let (token, rest) ← read (last.all (· == '/')) position c text
      let consumed := (c :: text).take (text.length + 1 - rest.length)
      let tokens ← readAll fuel consumed.getLast? (position + consumed.length) rest
      return token :: tokens

/-- The character is in one of the ranges. -/
def inRanges (ranges : List (Char × Char)) (c : Char) : Bool :=
  ranges.any fun range ↦ range.1 ≤ c && c ≤ range.2

/-- Any character. -/
def anyCharacter : Regex :=
  .char fun _ ↦ true

/-- A step of a path can begin here, or the path ends. -/
def atStep : Regex :=
  .look fun before behind ↦ before.all (· == '/') || behind.isNone

/-- The expression that a piece stands for. -/
def meaning : FilterToken → Regex
  | .literal c => .char (· == c)
  | .anyChar => anyCharacter
  | .anyChars => anyCharacter.anyNumber
  | .anySteps => .seq anyCharacter.anyNumber atStep
  | .oneOf negated ranges => .char fun c ↦ inRanges ranges c != negated

end FilterToken

/-- A pattern with wildcards for whole paths. -/
structure PathFilter where
  tokens : List FilterToken

namespace PathFilter

/-- Reads a path filter. -/
def parse (text : String) : Except FilterError PathFilter :=
  (FilterToken.readAll (text.length + 1) none 0 text.toList).map fun tokens ↦ ⟨tokens⟩

/-- The paths that the filter lets through. -/
def accepts (filter : PathFilter) (path : String) : Bool :=
  (Regex.concat (filter.tokens.map (·.meaning))).isWhole path.toList

example : (parse "**/[!a-c]?").map (·.accepts "x/dy") matches .ok true := by decide +kernel

end PathFilter

end RecordSchema
