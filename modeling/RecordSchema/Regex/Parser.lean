import RecordSchema.Regex.Term
import RecordSchema.Text.Blank
import RecordSchema.Text.Hex
import RecordSchema.Unicode.Property

/-!
# Reading regular expressions

`Term.parse?` reads a regular expression as it is written between two slashes. Every reader takes
the rest of the text and gives back what it leaves; `extended` says whether blanks and comments are
skipped. The readers that call themselves take an amount of fuel, and `Term.parse?` gives them one
unit for every character.
-/

namespace RecordSchema.Regex

open Text (charOfCode? hexValue? isBlank)
open Unicode (isAlphabetic isAlphanumeric)

/-- Groups, classes and repetitions may be nested this deep. -/
def maxNesting : Nat := 250

/-- Skips blanks, and comments up to the end of their line. -/
def skipBlanks : Bool → List Char → List Char
  | _, [] => []
  | true, c :: rest => skipBlanks (c != '\n') rest
  | false, c :: rest =>
      if isBlank c then skipBlanks false rest
      else if c == '#' then skipBlanks true rest
      else c :: rest

/-- Skips blanks and comments where the expression says that they do not count. -/
def skip (extended : Bool) (text : List Char) : List Char :=
  if extended then skipBlanks false text else text

/-- The text behind `start`, if it begins with it. -/
def after? : List Char → List Char → Option (List Char)
  | [], text => some text
  | c :: start, d :: text => if c == d then after? start text else none
  | _, [] => none

/-- The text up to a character, and the text behind it and what has to follow it. -/
def upTo? (c : Char) (mark : List Char) (text : List Char) : Option (List Char × List Char) :=
  let name := text.takeWhile (· != c)
  (after? (c :: mark) (text.drop name.length)).map fun rest ↦ (name, rest)

/-- Takes characters as long as the test accepts them, and skips what does not count behind each. -/
def takeRun (extended : Bool) (test : Char → Bool) : Nat → List Char → List Char × List Char
  | fuel + 1, c :: rest =>
      if test c then
        let (found, rest) := takeRun extended test fuel (skip extended rest)
        (c :: found, rest)
      else ([], c :: rest)
  | _, text => ([], text)

/-! ## Escapes -/

/-- The characters with a meaning of their own somewhere in an expression. -/
def isMeta (c : Char) : Bool :=
  ['\\', '.', '+', '*', '?', '(', ')', '|', '[', ']', '{', '}', '^', '$', '#', '&', '-',
    '~'].contains c

/-- The characters that may stand behind a backslash for themselves. -/
def isEscapable (c : Char) : Bool :=
  isMeta c || (c.toNat < 128 && !c.isAlphanum && c != '<' && c != '>')

/-- Reads a fixed number of hexadecimal digits. -/
def hexDigits? (extended : Bool) : Nat → Nat → List Char → Option (Nat × List Char)
  | 0, value, text => some (value, text)
  | _ + 1, _, [] => none
  | count + 1, value, c :: rest => do
      let digit ← hexValue? c
      hexDigits? extended count (16 * value + digit) (skip extended rest)

/-- Reads hexadecimal digits up to a closing brace; there has to be one at least. -/
def bracedHex? (extended : Bool) : Nat → Option Nat → List Char → Option (Nat × List Char)
  | 0, _, _ => none
  | _ + 1, _, [] => none
  | fuel + 1, value, c :: rest =>
      if c == '}' then value.map fun code ↦ (code, skip extended rest)
      else do
        let digit ← hexValue? c
        bracedHex? extended fuel (some (16 * value.getD 0 + digit)) (skip extended rest)

/-- Reads a character written as `digits` hexadecimal digits or as digits between braces. -/
def hexLiteral? (extended : Bool) (digits : Nat) (text : List Char) :
    Option (Term × List Char) := do
  match skip extended text with
  | '{' :: rest =>
      let (code, rest) ← bracedHex? extended (rest.length + 1) none (skip extended rest)
      return (.literal ⟨← charOfCode? code, false⟩, rest)
  | text =>
      let (code, rest) ← hexDigits? extended digits 0 text
      return (.literal ⟨← charOfCode? code, digits == 2⟩, rest)

/-- Collects characters up to a closing brace. -/
def braced? (extended : Bool) : Nat → List Char → List Char → Option (List Char × List Char)
  | 0, _, _ => none
  | _ + 1, _, [] => none
  | fuel + 1, name, c :: rest =>
      if c == '}' then some (name.reverse, rest)
      else braced? extended fuel (c :: name) (skip extended rest)

/-- The texts before and behind the first occurrence of `mark`. -/
def splitAtMark? (mark : List Char) : List Char → Option (List Char × List Char)
  | [] => none
  | c :: rest =>
      match after? mark (c :: rest) with
      | some value => some ([], value)
      | none => (splitAtMark? mark rest).map fun (name, value) ↦ (c :: name, value)

/-- The question for a property that stands between braces. -/
def PropertyQuery.ofChars (chars : List Char) : PropertyQuery :=
  match splitAtMark? ['!', '='] chars <|> splitAtMark? [':'] chars <|> splitAtMark? ['='] chars with
  | some (name, value) => .valued (String.ofList name) (String.ofList value)
  | none => .named (String.ofList chars)

/-- Reads the question of a property class, behind its letter. -/
def property? (extended negated : Bool) (text : List Char) : Option (Term × List Char) :=
  match skip extended text with
  | [] | '\\' :: _ => none
  | '{' :: rest => do
      let (chars, rest) ← braced? extended (rest.length + 1) [] (skip extended rest)
      return (.property negated (.ofChars chars), rest)
  | c :: rest => some (.property negated (.named (String.singleton c)), skip extended rest)

/-- The assertion that a name between the braces of `\b` stands for. -/
def wordAssertion? : List Char → Option Assertion
  | ['s', 't', 'a', 'r', 't'] => some .wordStart
  | ['e', 'n', 'd'] => some .wordEnd
  | ['s', 't', 'a', 'r', 't', '-', 'h', 'a', 'l', 'f'] => some .wordStartHalf
  | ['e', 'n', 'd', '-', 'h', 'a', 'l', 'f'] => some .wordEndHalf
  | _ => none

/-- A character that a name between the braces of `\b` can have. -/
def isWordAssertionChar (c : Char) : Bool :=
  c.isAlpha || c == '-'

/-- Reads the name between the braces of `\b`. -/
def wordAssertionName? (extended : Bool) :
    Nat → List Char → List Char → Option (Assertion × List Char)
  | 0, _, _ => none
  | _ + 1, _, [] => none
  | fuel + 1, name, c :: rest =>
      if c == '}' then (wordAssertion? name.reverse).map fun assertion ↦ (assertion, rest)
      else if isWordAssertionChar c then
        wordAssertionName? extended fuel (c :: name) (skip extended rest)
      else none

/-- Reads what may follow `\b`: a name between braces, or nothing. Braces with something else in
them are left for a repetition. -/
def wordBoundary? (extended : Bool) : List Char → Option (Assertion × List Char)
  | '{' :: rest =>
      match skip extended rest with
      | [] => none
      | c :: inner =>
          if isWordAssertionChar c then
            wordAssertionName? extended (inner.length + 2) [] (c :: inner)
          else some (.wordBoundary, '{' :: rest)
  | text => some (.wordBoundary, text)

/-- The character that a letter stands for behind a backslash. -/
def controlEscape? : Char → Option Char
  | 'a' => some '\x07'
  | 'f' => some '\x0c'
  | 't' => some '\t'
  | 'n' => some '\n'
  | 'r' => some '\r'
  | 'v' => some '\x0b'
  | _ => none

/-- Reads an escape, behind its backslash. -/
def escape? (extended : Bool) : List Char → Option (Term × List Char)
  | [] => none
  | c :: rest =>
      match c with
      | 'x' => hexLiteral? extended 2 rest
      | 'u' => hexLiteral? extended 4 rest
      | 'U' => hexLiteral? extended 8 rest
      | 'p' => property? extended false rest
      | 'P' => property? extended true rest
      | 'd' => some (.shorthand false .digit, rest)
      | 'D' => some (.shorthand true .digit, rest)
      | 's' => some (.shorthand false .space, rest)
      | 'S' => some (.shorthand true .space, rest)
      | 'w' => some (.shorthand false .word, rest)
      | 'W' => some (.shorthand true .word, rest)
      | 'A' => some (.assertion .textStart, rest)
      | 'z' => some (.assertion .textEnd, rest)
      | 'b' => (wordBoundary? extended rest).map fun (found, rest) ↦ (.assertion found, rest)
      | 'B' => some (.assertion .notWordBoundary, rest)
      | '<' => some (.assertion .wordStart, rest)
      | '>' => some (.assertion .wordEnd, rest)
      | _ =>
          if isEscapable c then some (.literal ⟨c, false⟩, rest)
          else (controlEscape? c).map fun control ↦ (.literal ⟨control, false⟩, rest)

/-! ## Bracketed classes -/

/-- The ranges of the classes that are named between colons. -/
def asciiClass? : List Char → Option (List (Nat × Nat))
  | ['a', 'l', 'n', 'u', 'm'] => some [(0x30, 0x39), (0x41, 0x5a), (0x61, 0x7a)]
  | ['a', 'l', 'p', 'h', 'a'] => some [(0x41, 0x5a), (0x61, 0x7a)]
  | ['a', 's', 'c', 'i', 'i'] => some [(0x00, 0x7f)]
  | ['b', 'l', 'a', 'n', 'k'] => some [(0x09, 0x09), (0x20, 0x20)]
  | ['c', 'n', 't', 'r', 'l'] => some [(0x00, 0x1f), (0x7f, 0x7f)]
  | ['d', 'i', 'g', 'i', 't'] => some [(0x30, 0x39)]
  | ['g', 'r', 'a', 'p', 'h'] => some [(0x21, 0x7e)]
  | ['l', 'o', 'w', 'e', 'r'] => some [(0x61, 0x7a)]
  | ['p', 'r', 'i', 'n', 't'] => some [(0x20, 0x7e)]
  | ['p', 'u', 'n', 'c', 't'] => some [(0x21, 0x2f), (0x3a, 0x40), (0x5b, 0x60), (0x7b, 0x7e)]
  | ['s', 'p', 'a', 'c', 'e'] => some [(0x09, 0x0d), (0x20, 0x20)]
  | ['u', 'p', 'p', 'e', 'r'] => some [(0x41, 0x5a)]
  | ['w', 'o', 'r', 'd'] => some [(0x30, 0x39), (0x41, 0x5a), (0x5f, 0x5f), (0x61, 0x7a)]
  | ['x', 'd', 'i', 'g', 'i', 't'] => some [(0x30, 0x39), (0x41, 0x46), (0x61, 0x66)]
  | _ => none

/-- Reads the mark that negates a class, if there is one. -/
def negation (extended : Bool) : List Char → Bool × List Char
  | '^' :: rest => (true, skip extended rest)
  | text => (false, text)

/-- Reads a class named between colons, behind its bracket. No blanks are skipped there. -/
def namedClass? (text : List Char) : Option (SetTerm × List Char) := do
  let text ← after? [':'] text
  let (negated, text) := negation false text
  let (name, rest) ← upTo? ':' [']'] text
  return (.ascii negated (← asciiClass? name), rest)

/-- Reads one element of a class: an escape or a character for itself. -/
def setElement? (extended : Bool) : List Char → Option (Term × List Char)
  | [] => none
  | '\\' :: rest => escape? extended rest
  | c :: rest => some (.literal ⟨c, false⟩, rest)

/-- The part of a class that an element stands for; assertions have none. -/
def Term.setItem? : Term → Option SetTerm
  | .literal l => some (.literal l)
  | .property negated query => some (.property negated query)
  | .shorthand negated kind => some (.shorthand negated kind)
  | _ => none

/-- A dash here stands between the ends of a range: what follows it is neither the end of the class
nor a second dash. -/
def dashJoins (extended : Bool) (rest : List Char) : Bool :=
  let next := if extended then
      match rest.dropWhile isBlank with
      -- What stands in a comment decides like anything else that follows.
      | '#' :: rest => rest.dropWhile isBlank
      | rest => rest
    else rest
  next.head? != some ']' && next.head? != some '-'

/-- Reads an element or a range of a class. -/
def setRange? (extended : Bool) (text : List Char) : Option (SetTerm × List Char) := do
  let (low, text) ← setElement? extended text
  match skip extended text with
  | [] => none
  | c :: rest =>
      if c == '-' && dashJoins extended rest then
        let (high, text) ← setElement? extended (skip extended rest)
        match low, high with
        | .literal low, .literal high =>
            if low.char ≤ high.char then some (.range low high, text) else none
        | _, _ => none
      else return (← low.setItem?, c :: rest)

/-- Reads the items that stand for themselves only at the start of a class: dashes, or a closing
bracket, which cannot close right there, since there is no empty class. -/
def leadingItems (extended : Bool) (text : List Char) : List SetTerm × List Char :=
  match takeRun extended (· == '-') text.length text with
  | ([], ']' :: rest) => ([.literal ⟨']', false⟩], skip extended rest)
  | (dashes, text) => (dashes.map fun c ↦ .literal ⟨c, false⟩, text)

/-- Reads the start of a class behind its bracket: whether it is negated, the items that stand for
themselves only there, and the rest. -/
def openClass (extended : Bool) (text : List Char) : Bool × List SetTerm × List Char :=
  let (negated, text) := negation extended (skip extended text)
  let (items, text) := leadingItems extended text
  (negated, items, text)

/-- The operator between sets that is written as this character twice. -/
def SetOp.ofChar? : Char → Option SetOp
  | '&' => some .intersection
  | '-' => some .difference
  | '~' => some .symmetricDifference
  | _ => none

/-- The operator between sets that the text starts with. -/
def setOp? : List Char → Option (SetOp × List Char)
  | c :: d :: rest => if c == d then (SetOp.ofChar? c).map fun kind ↦ (kind, rest) else none
  | _ => none

/-- The set so far: the items read last, behind the operator and the left side before them. -/
def closeOperand (left : Option (SetOp × SetTerm)) (items : List SetTerm) : SetTerm :=
  let right := SetTerm.ofItems items.reverse
  match left with
  | some (kind, left) => .op kind left right
  | none => right

/-- Reads the inside of a class up to its closing bracket. `items` are the items since the last
operator, the latest first. -/
def setItems? (extended : Bool) :
    Nat → Option (SetOp × SetTerm) → List SetTerm → List Char → Option (SetTerm × List Char)
  | 0, _, _, _ => none
  | fuel + 1, left, items, text =>
      match skip extended text with
      | [] => none
      | c :: rest =>
          match c with
          | ']' => some (closeOperand left items, rest)
          | '[' =>
              match namedClass? rest with
              | some (item, rest) => setItems? extended fuel left (item :: items) rest
              | none => do
                  let (negated, inner, rest) := openClass extended rest
                  let (set, rest) ← setItems? extended fuel none inner rest
                  setItems? extended fuel left (.bracketed negated set :: items) rest
          | c =>
              match setOp? (c :: rest) with
              | some (kind, rest) =>
                  setItems? extended fuel (some (kind, closeOperand left items)) [] rest
              | none => do
                  let (item, rest) ← setRange? extended (c :: rest)
                  setItems? extended fuel left (item :: items) rest

/-- Reads a bracketed class, behind its bracket. -/
def bracketed? (extended : Bool) (text : List Char) : Option (Term × List Char) := do
  let (negated, items, rest) := openClass extended text
  let (set, rest) ← setItems? extended (text.length + 1) none items rest
  return (.bracketed negated set, rest)

/-! ## Repetitions -/

/-- Reads a number of repetitions, which has 32 bits at most, and skips the blanks behind it. -/
def count? (extended : Bool) (text : List Char) : Option (Nat × List Char) :=
  let (found, rest) := takeRun extended Char.isDigit text.length (text.dropWhile isBlank)
  let count := found.foldl (fun value c ↦ 10 * value + (c.toNat - '0'.toNat)) 0
  if found.isEmpty || 0x100000000 ≤ count then none
  else some (count, (takeRun extended isBlank rest.length rest).2)

/-- Reads the upper bound of a repetition, behind its lower one. Without a comma the bounds are the
same, and without a number behind the comma there is no upper one. -/
def upperBound? (extended : Bool) (low : Nat) : List Char → Option (Option Nat × List Char)
  | [] => none
  | c :: rest =>
      if c == ',' then
        match skip extended rest with
        | [] => none
        | c :: rest =>
            if c == '}' then some (none, c :: rest)
            else do
              let (high, rest) ← count? extended (c :: rest)
              if low ≤ high then some (some high, rest) else none
      else some (some low, c :: rest)

/-- Reads the bounds of a counted repetition, behind its opening brace. -/
def bounds? (extended : Bool) (text : List Char) : Option ((Nat × Option Nat) × List Char) := do
  let (low, rest) ← count? extended (skip extended text)
  let (high, rest) ← upperBound? extended low rest
  let rest ← after? ['}'] rest
  return ((low, high), skip extended rest)

/-- Drops the mark that makes a repetition lazy. -/
def dropLazyMark : List Char → List Char
  | '?' :: rest => rest
  | text => text

/-- Repeats the last part; there has to be one, and flags cannot be repeated. -/
def repeatLast? (parts : List Term) (min : Nat) (max : Option Nat) : Option (List Term) :=
  match parts with
  | [] | .flags _ :: _ => none
  | part :: parts => some (.repetition part min max :: parts)

/-! ## Groups -/

/-- The flag that a letter stands for. -/
def Flag.ofChar? : Char → Option Flag
  | 'i' => some .ignoreCase
  | 'm' => some .multiLine
  | 's' => some .dotAll
  | 'U' => some .lazy
  | 'u' => some .unicode
  | 'R' => some .crlf
  | 'x' => some .extended
  | _ => none

/-- Reads flags up to the end of a group of flags or of the start of a group; `items` are those read
so far, the latest first. No flag stands twice, and the negation stands at most once and never
last. -/
def flagItems? (items : List FlagItem) : List Char → Option (List FlagItem × List Char)
  | [] => none
  | c :: rest =>
      if c == ':' || c == ')' then
        if items.head? = some .negation then none else some (items.reverse, c :: rest)
      else
        let item := if c == '-' then some FlagItem.negation else (Flag.ofChar? c).map .flag
        match item with
        | none => none
        | some item => if item ∈ items then none else flagItems? (item :: items) rest

/-- What the items say about a flag, if anything. -/
def flagState? (flag : Flag) : Bool → List FlagItem → Option Bool
  | _, [] => none
  | _, .negation :: items => flagState? flag false items
  | on, .flag f :: items => if f = flag then some on else flagState? flag on items

/-- A character that a group's name can have. -/
def isNameChar (c : Char) : Bool :=
  c == '_' || c == '.' || c == '[' || c == ']' || isAlphanumeric c.toNat

/-- A character that a group's name can start with. -/
def isNameStart (c : Char) : Bool :=
  c == '_' || isAlphabetic c.toNat

/-- Reads a group's name up to its closing angle. -/
def groupName? (text : List Char) : Option (String × List Char) := do
  let (name, rest) ← upTo? '>' [] text
  match name with
  | [] => none
  | c :: cs => if isNameStart c && cs.all isNameChar then some (String.ofList name, rest) else none

/-- The ways a group can start. -/
inductive GroupHead where
  | flags (items : List FlagItem)
  | unnamed (captures : Bool) (items : List FlagItem)
  | named (name : String)

/-- The text looks ahead or behind, which is no part of these expressions. -/
def looksAround (text : List Char) : Bool :=
  [['='], ['!'], ['<', '='], ['<', '!']].any fun start ↦ (after? start text).isSome

/-- Reads the start of a group, behind its parenthesis. -/
def groupHead? : List Char → Option (GroupHead × List Char)
  | [] => some (.unnamed true [], [])
  | c :: rest =>
      if c == '?' then
        if looksAround rest then none
        else
          match after? ['P', '<'] rest <|> after? ['<'] rest with
          | some rest => (groupName? rest).map fun (name, rest) ↦ (.named name, rest)
          | none => do
              match ← flagItems? [] rest with
              | (_, []) => none
              | (items, c :: rest) =>
                  if c == ')' then if items.isEmpty then none else some (.flags items, rest)
                  else some (.unnamed false items, rest)
      else some (.unnamed true [], c :: rest)

/-! ## Expressions -/

/-- Reads a part that is neither a group, a class nor a repetition. -/
def primitive? (extended : Bool) : List Char → Option (Term × List Char)
  | [] => none
  | c :: rest =>
      match c with
      | '\\' => escape? extended rest
      | '.' => some (.dot, rest)
      | '^' => some (.assertion .lineStart, rest)
      | '$' => some (.assertion .lineEnd, rest)
      | c => some (.literal ⟨c, false⟩, rest)

/-- What has been read of a group: its finished branches and the parts of the open one, each the
latest first, and whether blanks are skipped in it. -/
structure OpenGroup where
  branches : List Term
  parts : List Term
  extended : Bool

/-- A group of which nothing has been read. -/
def OpenGroup.start (extended : Bool) : OpenGroup :=
  ⟨[], [], extended⟩

/-- Adds a part to the open branch. -/
def OpenGroup.push (g : OpenGroup) (part : Term) : OpenGroup :=
  { g with parts := part :: g.parts }

/-- Ends the open branch. -/
def OpenGroup.branch (g : OpenGroup) : OpenGroup :=
  { g with branches := Term.ofParts g.parts.reverse :: g.branches, parts := [] }

/-- The expression that has been read. -/
def OpenGroup.close (g : OpenGroup) : Term :=
  Term.ofBranches (g.branch.branches.reverse)

/-- Reads an expression up to the end of its group or of the text. `names` are the names of the
groups so far; no two groups have the same. -/
def expression? :
    Nat → List String → OpenGroup → List Char → Option ((Term × List String) × List Char)
  | 0, _, _, _ => none
  | fuel + 1, names, g, text =>
      match skip g.extended text with
      | [] => some ((g.close, names), [])
      | c :: rest =>
          match c with
          | ')' => some ((g.close, names), ')' :: rest)
          | '|' => expression? fuel names g.branch rest
          | '[' => do
              let (term, rest) ← bracketed? g.extended rest
              expression? fuel names (g.push term) rest
          | '?' => do
              let parts ← repeatLast? g.parts 0 (some 1)
              expression? fuel names { g with parts } (dropLazyMark rest)
          | '*' => do
              let parts ← repeatLast? g.parts 0 none
              expression? fuel names { g with parts } (dropLazyMark rest)
          | '+' => do
              let parts ← repeatLast? g.parts 1 none
              expression? fuel names { g with parts } (dropLazyMark rest)
          | '{' => do
              let ((low, high), rest) ← bounds? g.extended rest
              let parts ← repeatLast? g.parts low high
              expression? fuel names { g with parts } (dropLazyMark rest)
          | '(' => do
              match ← groupHead? (skip g.extended rest) with
              | (.flags items, rest) =>
                  let extended := (flagState? .extended true items).getD g.extended
                  expression? fuel names { g.push (.flags items) with extended } rest
              | (.unnamed captures items, rest) =>
                  let extended := (flagState? .extended true items).getD g.extended
                  let ((body, names), rest) ← expression? fuel names (.start extended) rest
                  let rest ← after? [')'] rest
                  expression? fuel names (g.push (.group captures items body)) rest
              | (.named name, rest) =>
                  if name ∈ names then none
                  else
                    let ((body, names), rest) ←
                      expression? fuel (name :: names) (.start g.extended) rest
                    let rest ← after? [')'] rest
                    expression? fuel names (g.push (.group true [] body)) rest
          | c => do
              let (term, rest) ← primitive? g.extended (c :: rest)
              expression? fuel names (g.push term) rest

/-- Reads a regular expression; the whole text has to be one. -/
def Term.parse? (source : String) : Option Term :=
  let text := source.toList
  match expression? (text.length + 1) [] (.start false) text with
  | some ((term, _), []) => if term.nesting ≤ maxNesting then some term else none
  | _ => none

example : (Term.parse? "a|[b-d]{2}").isSome ∧ (Term.parse? "a)(b").isNone := by decide +kernel

end RecordSchema.Regex
