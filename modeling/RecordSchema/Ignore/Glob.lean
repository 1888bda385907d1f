import RecordSchema.Regex.Matcher

/-!
# Globs of ignore files

A glob stands for a set of paths. `?` and `*` stay inside one name of the path, `**` between slashes
crosses any number of names, brackets enclose a class of characters and braces enclose alternatives.
A backslash takes the next character as it is. A bracket that is never closed stands for itself, and
so do all brackets behind it.

Paths are compared byte by byte: the characters of a `Regex` are here the bytes of a path.
-/

namespace RecordSchema.Ignore

/-- A piece of a glob. -/
inductive GlobToken where
  /-- A character that stands for itself. -/
  | literal (c : Char)
  /-- One byte of a name. -/
  | any
  /-- Any bytes of a name. -/
  | star
  /-- Any names before the rest, or none. -/
  | anyBefore
  /-- Anything below. -/
  | anyBelow
  /-- A slash, or slashes with names between them. -/
  | anyBetween
  /-- A class of characters, given by ranges. -/
  | oneOf (negated : Bool) (ranges : List (Char × Char))
  /-- Alternatives. -/
  | branches (alternatives : List (List GlobToken))

/-! ## Reading -/

/-- The alternatives of a group that are complete, and the tokens before the group; both the last
one first. -/
structure OpenGroup where
  alternatives : List (List GlobToken)
  before : List GlobToken

/-- What has been read of a glob: the last character, whether a bracket has been left open, the
tokens, the last one first, and the groups around them, the innermost first. -/
structure GlobProgress where
  last : Option Char
  unclosed : Bool
  tokens : List GlobToken
  groups : List OpenGroup

namespace GlobProgress

/-- Nothing read yet. -/
def start : GlobProgress :=
  ⟨none, false, [], []⟩

/-- Goes on behind the character `last` with one more token. -/
def push (p : GlobProgress) (last : Char) (token : GlobToken) : GlobProgress :=
  { p with last := some last, tokens := token :: p.tokens }

end GlobProgress

/-- Reads a class behind its opening bracket and its sign, up to its closing bracket; `found` are
the ranges so far, the last one first, and `toRange` says that a hyphen follows the last one. The
result is `none` where a range runs backwards, and has no ranges where the class is not closed. -/
def classRanges? (isFirst toRange : Bool) (found : List (Char × Char)) :
    List Char → Option (Option (List (Char × Char) × List Char))
  | [] => some none
  | c :: rest =>
      if c = ']' ∧ ¬ isFirst then
        some (some ((if toRange then ('-', '-') :: found else found).reverse, rest))
      else if c = '-' ∧ ¬ isFirst ∧ ¬ toRange then classRanges? false true found rest
      else
        match toRange, found with
        | true, (low, _) :: found =>
            if c.toNat < low.toNat then none
            else classRanges? false false ((low, c) :: found) rest
        | _, found => classRanges? false false ((c, c) :: found) rest

/-- The sign of a class and the text behind it. -/
def classSign : List Char → Bool × List Char
  | '!' :: rest => (true, rest)
  | '^' :: rest => (true, rest)
  | text => (false, text)

/-- Reads a class behind its opening bracket. -/
def readClass (p : GlobProgress) (text : List Char) : Option (GlobProgress × List Char) :=
  let (negated, inside) := classSign text
  match classRanges? true false [] inside with
  | none => none
  | some none => some ({ p.push '[' (.literal '[') with unclosed := true }, text)
  | some (some (ranges, rest)) => some (p.push ']' (.oneOf negated ranges), rest)

/-- Two stars that are no `**` between slashes. -/
def twoStars (p : GlobProgress) : GlobProgress :=
  (p.push '*' .star).push '*' .star

/-- Takes `**` behind a slash: it goes on with `token`, unless something of the kind is there
already. -/
def afterSlash (p : GlobProgress) (last : Char) (token : GlobToken) : GlobProgress :=
  match p.tokens with
  | .anyBefore :: _ | .anyBelow :: _ => { p with last := some last }
  -- The slash before the stars is part of what `token` stands for.
  | _ :: before => { p with last := some last, tokens := token :: before }
  | [] => p

/-- Reads what follows two stars. -/
def readTwoStars (p : GlobProgress) (text : List Char) : GlobProgress × List Char :=
  if p.tokens.isEmpty then
    match text with
    | [] => (p.push '*' .anyBefore, [])
    | '/' :: rest => (p.push '/' .anyBefore, rest)
    | _ => (twoStars p, text)
  else if p.last = some '/' ∨ (¬ p.groups.isEmpty ∧ (p.last = some ',' ∨ p.last = some '{')) then
    match text with
    | [] => (afterSlash p '*' .anyBelow, [])
    | '/' :: rest => (afterSlash p '/' .anyBetween, rest)
    | c :: _ =>
        if ¬ p.groups.isEmpty ∧ (c = ',' ∨ c = '}') then (afterSlash p '*' .anyBelow, text)
        else (twoStars p, text)
  else (twoStars p, text)

/-- Reads one piece of a glob; `none` where it is no glob. -/
def readPiece (p : GlobProgress) (c : Char) (text : List Char) :
    Option (GlobProgress × List Char) :=
  match c, text with
  | '?', text => some (p.push '?' .any, text)
  | '*', '*' :: rest => some (readTwoStars p rest)
  | '*', text => some (p.push '*' .star, text)
  | '[', text => if p.unclosed then some (p.push '[' (.literal '['), text) else readClass p text
  | '{', text => some (⟨some '{', p.unclosed, [], ⟨[], p.tokens⟩ :: p.groups⟩, text)
  | ',', text =>
      match p.groups with
      | [] => some (p.push ',' (.literal ','), text)
      | group :: groups =>
          let group := { group with alternatives := p.tokens.reverse :: group.alternatives }
          some (⟨some ',', p.unclosed, [], group :: groups⟩, text)
  | '}', text =>
      match p.groups with
      | [] => none
      | group :: groups =>
          let token := .branches (p.tokens.reverse :: group.alternatives).reverse
          some (⟨some '}', p.unclosed, token :: group.before, groups⟩, text)
  | '\\', [] => none
  | '\\', c :: rest => some (p.push c (.literal c), rest)
  | c, text => some (p.push c (.literal c), text)

/-- Reads pieces to the end of the glob, where no group may be open. -/
def readPieces : Nat → GlobProgress → List Char → Option (List GlobToken)
  | 0, _, _ => none
  | _ + 1, p, [] => if p.groups.isEmpty then some p.tokens.reverse else none
  | fuel + 1, p, c :: rest => do
      let (p, rest) ← readPiece p c rest
      readPieces fuel p rest

/-- Reads a glob. -/
def globTokens? (text : List Char) : Option (List GlobToken) :=
  readPieces (text.length + 1) .start text

/-! ## Meaning -/

/-- The bytes of a text, as characters. -/
def bytesOf (text : String) : List Char :=
  text.toUTF8.toList.map fun byte ↦ Char.ofNat byte.toNat

/-- The bytes of a character, as characters. -/
def bytesOfChar (c : Char) : List Char :=
  bytesOf c.toString

/-- Any byte. -/
def anyByte : Regex :=
  .char fun _ ↦ true

/-- Any byte but a slash. -/
def nameByte : Regex :=
  .char (· != '/')

/-- A slash. -/
def slash : Regex :=
  .char (· == '/')

/-- The ranges of bytes that a range of characters stands for: only the last byte of its low end and
the first byte of its high end make a range. -/
def byteRanges (range : Char × Char) : List (Char × Char) :=
  let low := bytesOfChar range.1
  if range.1 = range.2 then low.map fun b ↦ (b, b)
  else
    let high := bytesOfChar range.2
    (low.dropLast.map fun b ↦ (b, b)) ++ [(low.getLastD range.1, high.headD range.2)]
      ++ (high.drop 1).map fun b ↦ (b, b)

/-- The byte is in one of the ranges. -/
def inRanges (ranges : List (Char × Char)) (b : Char) : Bool :=
  ranges.any fun range ↦ (byteRanges range).any fun r ↦ r.1 ≤ b && b ≤ r.2

mutual

/-- The expressions that a token stands for, one after the other. -/
def tokenParts : GlobToken → List Regex
  | .literal c => [.literal (bytesOfChar c)]
  | .any => [nameByte]
  | .star => [nameByte.anyNumber]
  | .anyBefore => [.alt .empty (.alt slash (.seq anyByte.anyNumber slash))]
  | .anyBelow => [slash, anyByte.anyNumber]
  | .anyBetween => [.alt slash (.seq slash (.seq anyByte.anyNumber slash))]
  | .oneOf negated ranges => [.char fun b ↦ inRanges ranges b != negated]
  | .branches alternatives =>
      match alternativeParts alternatives with
      | [] => []
      | found => [.oneOf found]

/-- The expressions that tokens stand for, one after the other. -/
def tokensParts : List GlobToken → List Regex
  | [] => []
  | token :: rest => tokenParts token ++ tokensParts rest

/-- The expressions that alternatives stand for; empty ones do not count. -/
def alternativeParts : List (List GlobToken) → List Regex
  | [] => []
  | alternative :: rest =>
      match tokensParts alternative with
      | [] => alternativeParts rest
      | parts => .concat parts :: alternativeParts rest

end

/-- The expression that a glob stands for. A glob that is nothing but `**` stands for every path. -/
def globMeaning : List GlobToken → Regex
  | [.anyBefore] => anyByte.anyNumber
  | tokens => .concat (tokensParts tokens)

/-- Reads a glob as the expression that it stands for. -/
def glob? (text : List Char) : Option Regex :=
  (globTokens? text).map globMeaning

example : (glob? "**/*.{json,toml}".toList).any (·.isWhole (bytesOf "a/b.json")) := by
  decide +kernel

end RecordSchema.Ignore
