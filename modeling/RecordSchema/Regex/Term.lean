/-!
# Regular expressions as written

A `Term` is the tree of a regular expression before its flags are applied: inline flags are parts of
the tree, and a bracketed class is still a set expression. `Term.nesting` counts how deep the tree
is.
-/

namespace RecordSchema.Regex

/-- A switch that an inline group of flags can turn on or off. -/
inductive Flag where
  | ignoreCase
  | multiLine
  | dotAll
  | lazy
  | unicode
  | crlf
  | extended
deriving DecidableEq

/-- One item of an inline group of flags; those after the negation are turned off. -/
inductive FlagItem where
  | negation
  | flag (f : Flag)
deriving DecidableEq

/-- A literal character. `isByte` marks the spelling `\xNN`, which without Unicode is a byte. -/
structure Literal where
  char : Char
  isByte : Bool
deriving DecidableEq

/-- The classes with a letter of their own. -/
inductive Shorthand where
  | digit
  | space
  | word
deriving DecidableEq

/-- A question for a character property: its name alone, or a name with a value. -/
inductive PropertyQuery where
  | named (name : String)
  | valued (property value : String)
deriving DecidableEq

/-- The operators between the sets of a bracketed class. -/
inductive SetOp where
  | intersection
  | difference
  | symmetricDifference
deriving DecidableEq

/-- The inside of a bracketed class. -/
inductive SetTerm where
  | literal (l : Literal)
  | range (low high : Literal)
  | ascii (negated : Bool) (ranges : List (Nat × Nat))
  | property (negated : Bool) (query : PropertyQuery)
  | shorthand (negated : Bool) (kind : Shorthand)
  | bracketed (negated : Bool) (set : SetTerm)
  | union (items : List SetTerm)
  | op (kind : SetOp) (left right : SetTerm)

/-- The assertions, which match between characters. -/
inductive Assertion where
  | lineStart
  | lineEnd
  | textStart
  | textEnd
  | wordBoundary
  | notWordBoundary
  | wordStart
  | wordEnd
  | wordStartHalf
  | wordEndHalf
deriving DecidableEq

/-- A regular expression as written. Whether a group captures what it matches is of no account for
what the expression matches, but captures take room in its program. -/
inductive Term where
  | empty
  | flags (items : List FlagItem)
  | literal (l : Literal)
  | dot
  | assertion (a : Assertion)
  | property (negated : Bool) (query : PropertyQuery)
  | shorthand (negated : Bool) (kind : Shorthand)
  | bracketed (negated : Bool) (set : SetTerm)
  | repetition (body : Term) (min : Nat) (max : Option Nat)
  | group (captures : Bool) (flags : List FlagItem) (body : Term)
  | alternation (branches : List Term)
  | concat (parts : List Term)

/-- The set of these items; a single item needs no union. -/
def SetTerm.ofItems : List SetTerm → SetTerm
  | [item] => item
  | items => .union items

/-- The parts one after the other; a single part stands for itself. -/
def Term.ofParts : List Term → Term
  | [] => .empty
  | [part] => part
  | parts => .concat parts

/-- One of the branches; a single branch stands for itself. -/
def Term.ofBranches : List Term → Term
  | [branch] => branch
  | branches => .alternation branches

mutual

/-- How many sets of a class are nested in each other. -/
def SetTerm.nesting : SetTerm → Nat
  | .bracketed _ set => set.nesting + 1
  | .union [] => 0
  | .union (item :: items) => max item.nesting (nestingItems items) + 1
  | .op _ left right => max left.nesting right.nesting + 1
  | _ => 0

/-- The deepest nesting among the items. -/
def nestingItems : List SetTerm → Nat
  | [] => 0
  | item :: items => max item.nesting (nestingItems items)

end

mutual

/-- How many repetitions, groups, classes, alternations and concatenations are nested in each
other. -/
def Term.nesting : Term → Nat
  | .bracketed _ set => set.nesting + 1
  | .repetition body _ _ => body.nesting + 1
  | .group _ _ body => body.nesting + 1
  | .alternation branches => nestingTerms branches + 1
  | .concat parts => nestingTerms parts + 1
  | _ => 0

/-- The deepest nesting among the terms. -/
def nestingTerms : List Term → Nat
  | [] => 0
  | term :: terms => max term.nesting (nestingTerms terms)

end

end RecordSchema.Regex
