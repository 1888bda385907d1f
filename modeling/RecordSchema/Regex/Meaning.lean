import RecordSchema.Regex.Basic
import RecordSchema.Regex.Flags
import RecordSchema.Unicode.Age
import RecordSchema.Unicode.CaseFolding
import RecordSchema.Unicode.Segmentation

/-!
# What an expression as written means

`Term.meaning?` applies the flags to a term and gives the `Regex` that it stands for. There is none
where a property is unknown, or where without Unicode something other than ASCII could be matched by
a class.
-/

namespace RecordSchema.Regex

open Unicode

/-! ## Sets of code points under flags -/

/-- The characters with a code point in the set. -/
def charsOf (set : CodeRanges) : CharSet :=
  fun c ↦ set.contains c.toNat

/-- The set with case folded if the flags say so, and then its complement if it is negated. -/
def foldAndNegate (flags : Flags) (negated : Bool) (set : CodeRanges) : CodeRanges :=
  let folded := if flags.ignoreCase then set.foldCase flags.unicode else set
  if negated then folded.complement else folded

/-- No code point from U+0080 to U+00FF is in the set. Without Unicode a class is a set of bytes,
and it must not match a part of a character. -/
def isAscii (set : CodeRanges) : Bool :=
  (List.range 128).all fun i ↦ !set.contains (128 + i)

/-- The set, if it is admitted under the flags. -/
def admitted? (flags : Flags) (set : CodeRanges) : Option CodeRanges :=
  if flags.unicode || isAscii set then some set else none

/-- The two sets combined by an operator. -/
def SetOp.combine (kind : SetOp) (left right : CodeRanges) : CodeRanges :=
  match kind with
  | .intersection => left.inter right
  | .difference => left.diff right
  | .symmetricDifference => (left.diff right).union (right.diff left)

/-! ## Character properties -/

/-- The name of a property or value without its leading "is", blanks, dashes and low lines, in lower
case. -/
def foldedName (name : String) : String :=
  let chars := name.toList
  let (prefixed, chars) := match chars with
    | i :: s :: rest =>
        if (i == 'i' || i == 'I') && (s == 's' || s == 'S') then (true, rest) else (false, chars)
    | _ => (false, chars)
  let kept := chars.filter fun c ↦ c.toNat < 128 && c != ' ' && c != '_' && c != '-'
  let folded := String.ofList (kept.map Char.toLower)
  if prefixed && folded == "c" then "isc" else folded

/-- The code points with a property that is named alone. Three short names of properties are also
names of categories and mean these. -/
def namedProperty? (name : String) : Option CodeRanges :=
  let asProperty :=
    if name == "cf" || name == "sc" || name == "lc" then none else Unicode.property? name
  asProperty <|> category? name <|> script? name

/-- The code points with a value of a property. -/
def valuedProperty? (property value : String) : Option CodeRanges :=
  match property with
  | "gc" | "generalcategory" => category? value
  | "sc" | "script" => script? value
  | "scx" | "scriptextensions" => scriptExtension? value
  | "age" => age? value
  | "gcb" | "graphemeclusterbreak" => graphemeBreaks.find? value
  | "wb" | "wordbreak" => wordBreaks.find? value
  | "sb" | "sentencebreak" => sentenceBreaks.find? value
  | _ => none

/-- The code points that a property query asks for. -/
def PropertyQuery.ranges? : PropertyQuery → Option CodeRanges
  | .named name => namedProperty? (foldedName name)
  | .valued property value => valuedProperty? (foldedName property) (foldedName value)

/-- The code points of a property class; there are property classes only with Unicode. -/
def propertyRanges? (flags : Flags) (negated : Bool) (query : PropertyQuery) :
    Option CodeRanges := do
  guard flags.unicode
  return foldAndNegate flags negated (← query.ranges?)

/-! ## Classes -/

/-- The code points of a class that has a letter of its own. -/
def Shorthand.ranges (unicode : Bool) : Shorthand → CodeRanges
  | .digit => if unicode then decimalNumberRanges else .parse "30-39"
  | .space => if unicode then whiteSpaceRanges else .parse "9-d 20"
  | .word => if unicode then wordRanges else .parse "30-39 41-5a 5f 61-7a"

/-- The code points of such a class or of its complement, which is admitted only with Unicode. -/
def shorthandRanges? (flags : Flags) (negated : Bool) (kind : Shorthand) : Option CodeRanges :=
  let set := kind.ranges flags.unicode
  admitted? flags (if negated then set.complement else set)

/-- The character that a literal stands for. Without Unicode a byte beyond ASCII is none. -/
def Literal.char? (flags : Flags) (l : Literal) : Option Char :=
  if !flags.unicode && l.isByte && 0x7f < l.char.toNat then none else some l.char

/-- The code point that a literal in a class stands for, which without Unicode is in ASCII. -/
def Literal.classCode? (flags : Flags) (l : Literal) : Option Nat :=
  if !flags.unicode && 0x7f < l.char.toNat then none else some l.char.toNat

/-- The characters that a literal matches, which are several where case is folded. -/
def Literal.ranges? (flags : Flags) (l : Literal) : Option CodeRanges :=
  (l.char? flags).map fun c ↦ foldAndNegate flags false (.interval c.toNat c.toNat)

mutual

/-- The code points that the inside of a class stands for. -/
def SetTerm.ranges? (flags : Flags) : SetTerm → Option CodeRanges
  | .literal l => (l.classCode? flags).map fun code ↦ .interval code code
  | .range low high => do
      let low ← low.classCode? flags
      let high ← high.classCode? flags
      return .interval low high
  | .ascii negated ranges =>
      admitted? flags (foldAndNegate flags negated (CodeRanges.empty.insertAll ranges))
  | .property negated query => propertyRanges? flags negated query
  | .shorthand negated kind => shorthandRanges? flags negated kind
  | .bracketed negated set => do
      admitted? flags (foldAndNegate flags negated (← set.ranges? flags))
  | .union items => rangesOfItems? flags items
  | .op kind left right => do
      let left ← left.ranges? flags
      let right ← right.ranges? flags
      return kind.combine (foldAndNegate flags false left) (foldAndNegate flags false right)

/-- The code points of any of the items. -/
def rangesOfItems? (flags : Flags) : List SetTerm → Option CodeRanges
  | [] => some .empty
  | item :: items => do
      let set ← item.ranges? flags
      let sets ← rangesOfItems? flags items
      return set.union sets

end

/-- The code points that a dot stands for; there is a dot only with Unicode. -/
def dotRanges? (flags : Flags) : Option CodeRanges :=
  if !flags.unicode then none
  else if flags.dotAll then some (.interval 0 maxCode)
  else if flags.crlf then some (CodeRanges.complement (.parse "a d"))
  else some (CodeRanges.complement (.parse "a"))

/-! ## Positions -/

/-- A character of a word, as the flags define it. -/
def isWordChar (unicode : Bool) : CharSet :=
  charsOf (Shorthand.word.ranges unicode)

/-- What an assertion says about the characters before and behind a position. -/
def Assertion.holds (flags : Flags) (assertion : Assertion) (before behind : Option Char) : Bool :=
  let inWord (c : Option Char) := c.any (isWordChar flags.unicode)
  match assertion with
  | .textStart => before.isNone
  | .textEnd => behind.isNone
  | .lineStart =>
      if !flags.multiLine then before.isNone
      else if flags.crlf then
        before.isNone || before == some '\n' || (before == some '\r' && behind != some '\n')
      else before.isNone || before == some '\n'
  | .lineEnd =>
      if !flags.multiLine then behind.isNone
      else if flags.crlf then
        behind.isNone || behind == some '\r' || (behind == some '\n' && before != some '\r')
      else behind.isNone || behind == some '\n'
  | .wordBoundary => inWord before != inWord behind
  | .notWordBoundary => inWord before == inWord behind
  | .wordStart => !inWord before && inWord behind
  | .wordEnd => inWord before && !inWord behind
  | .wordStartHalf => !inWord before
  | .wordEndHalf => !inWord behind

/-! ## Expressions -/

mutual

/-- The meaning of a term under the flags in force before it, and the flags in force behind it. -/
def Term.meaningUnder? (flags : Flags) : Term → Option (Regex × Flags)
  | .empty => some (.empty, flags)
  | .flags items => some (.empty, flags.update true items)
  | .literal l => do return (.char (charsOf (← l.ranges? flags)), flags)
  | .dot => do return (.char (charsOf (← dotRanges? flags)), flags)
  | .assertion assertion => some (.look (assertion.holds flags), flags)
  | .property negated query => do
      return (.char (charsOf (← propertyRanges? flags negated query)), flags)
  | .shorthand negated kind => do
      return (.char (charsOf (← shorthandRanges? flags negated kind)), flags)
  | .bracketed negated set => do
      return (.char (charsOf (← (SetTerm.bracketed negated set).ranges? flags)), flags)
  | .repetition body min max => do
      let (body, flags) ← body.meaningUnder? flags
      return (.repeated body min max, flags)
  | .group _ items body => do
      let (body, _) ← body.meaningUnder? (flags.update true items)
      return (body, flags)
  | .alternation branches => do
      let (branches, flags) ← meaningsUnder? flags branches
      return (.oneOf branches, flags)
  | .concat parts => do
      let (parts, flags) ← meaningsUnder? flags parts
      return (.concat parts, flags)

/-- The meanings of the terms; each is under the flags in force behind the one before. -/
def meaningsUnder? (flags : Flags) : List Term → Option (List Regex × Flags)
  | [] => some ([], flags)
  | term :: terms => do
      let (first, flags) ← term.meaningUnder? flags
      let (others, flags) ← meaningsUnder? flags terms
      return (first :: others, flags)

end

/-- The meaning of a whole expression under the flags given. -/
def Term.meaning? (flags : Flags) (term : Term) : Option Regex :=
  (term.meaningUnder? flags).map (·.1)

end RecordSchema.Regex
