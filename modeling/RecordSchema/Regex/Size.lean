import RecordSchema.Regex.Meaning

/-!
# The size of an expression

An expression is refused where the program that matches it would take too much room. Such a program
is an automaton over the bytes of UTF-8, and there are two of it: one reads forward and one backward.
`Term.size` is the room of the larger one for a whole text, in bytes. A repetition takes its body as
often as it may match it, and a class takes room for the byte sequences of its characters.

Alternatives are counted one by one here. The program can be smaller than that: it joins alternatives
that are single characters to a class, and what several of them begin with it keeps once.
-/

namespace RecordSchema.Regex

open Unicode

/-- The room that a program may take. -/
def maxProgramSize : Nat := 10 * 1024 * 1024

/-- The room of a state without its transitions. -/
def stateSize : Nat := 32

/-- The room of a transition under a range of bytes. -/
def transitionSize : Nat := 8

/-- The room of one of the states between which a state chooses. -/
def choiceSize : Nat := 4

/-- The room of all items together. -/
def total {α : Type} (size : α → Nat) (items : List α) : Nat :=
  items.foldr (fun item sum ↦ size item + sum) 0

/-! ## Byte sequences -/

/-- A range of bytes for each byte of the encodings that it stands for. -/
abbrev ByteSequence := List (Nat × Nat)

/-- The sequences for the numbers from `low` to `high`, which are written as a byte from `lead` on
and so many bytes of six bits behind it. -/
def byteSequences (lead : Nat) : Nat → Nat → Nat → List ByteSequence
  | 0, low, high => [[(lead + low, lead + high)]]
  | count + 1, low, high =>
      let block := 64 ^ (count + 1)
      let under (head low high : Nat) : List ByteSequence :=
        (byteSequences 0x80 count low high).map ((lead + head, lead + head) :: ·)
      if low / block = high / block then under (low / block) (low % block) (high % block)
      else
        -- the numbers up to the first full block, the full blocks and the numbers behind them
        let first := (low + block - 1) / block
        let behind := (high + 1) / block
        let starts := if low % block = 0 then [] else under (low / block) (low % block) (block - 1)
        let ends := if (high + 1) % block = 0 then [] else under behind 0 (high % block)
        let full := (lead + first, lead + behind - 1) :: List.replicate (count + 1) (0x80, 0xbf)
        starts ++ (if first < behind then [full] else []) ++ ends

/-- The code points that are encoded alike: the first and the last of them, the byte to which the
first six bits or less are added, and how many bytes stand behind it. -/
structure Encoding where
  first : Nat
  last : Nat
  lead : Nat
  count : Nat

/-- The ways to encode the characters, between which the surrogates are left out. -/
def encodings : List Encoding :=
  [⟨0, 0x7f, 0, 0⟩, ⟨0x80, 0x7ff, 0xc0, 1⟩, ⟨0x800, 0xd7ff, 0xe0, 2⟩, ⟨0xe000, 0xffff, 0xe0, 2⟩,
   ⟨0x10000, maxCode, 0xf0, 3⟩]

/-- The sequences for the code points from `low` to `high`. -/
def sequencesBetween (low high : Nat) : List ByteSequence :=
  encodings.flatMap fun e ↦
    if max low e.first ≤ min high e.last then
      byteSequences e.lead e.count (max low e.first) (min high e.last)
    else []

/-- The sequences for the code points of a set, in ascending order. -/
def sequencesOf (set : CodeRanges) : List ByteSequence :=
  set.ranges.flatMap fun range ↦ sequencesBetween range.1 range.2

example : sequencesOf (.interval 0 maxCode) =
    [[(0, 0x7f)], [(0xc2, 0xdf), (0x80, 0xbf)], [(0xe0, 0xe0), (0xa0, 0xbf), (0x80, 0xbf)],
     [(0xe1, 0xec), (0x80, 0xbf), (0x80, 0xbf)], [(0xed, 0xed), (0x80, 0x9f), (0x80, 0xbf)],
     [(0xee, 0xef), (0x80, 0xbf), (0x80, 0xbf)],
     [(0xf0, 0xf0), (0x90, 0xbf), (0x80, 0xbf), (0x80, 0xbf)],
     [(0xf1, 0xf3), (0x80, 0xbf), (0x80, 0xbf), (0x80, 0xbf)],
     [(0xf4, 0xf4), (0x80, 0x8f), (0x80, 0xbf), (0x80, 0xbf)]] := by
  decide +kernel

/-! ## Classes -/

/-- Puts the rests of neighbouring sequences with the same first range together. -/
def branchesOf : List ByteSequence → List ((Nat × Nat) × List ByteSequence)
  | [] => []
  | [] :: sequences => branchesOf sequences
  | (range :: rest) :: sequences =>
      match branchesOf sequences with
      | [] => [(range, [rest])]
      | (range', rests) :: branches =>
          if range = range' then (range, rest :: rests) :: branches
          else (range, [rest]) :: (range', rests) :: branches

/-- The nodes of the tree of these sequences, as what is left of the sequences at the node. The
sequences have at most so many ranges. -/
def nodesOf : Nat → List ByteSequence → List (List ByteSequence)
  | 0, _ => []
  | depth + 1, sequences =>
      let branches := branchesOf sequences
      if branches.isEmpty then []
      else sequences :: branches.flatMap fun branch ↦ nodesOf depth branch.2

/-- What is known of the programs for a part of an expression. -/
structure Room where
  /-- The room of the program that reads forward; zero if there is nothing to match. -/
  forward : Nat
  /-- The room of the program that reads backward. -/
  backward : Nat
  /-- No text that the part matches is empty. -/
  neverEmpty : Bool
  /-- Every text that the part matches is empty. -/
  alwaysEmpty : Bool

namespace Room

/-- A part that there is no program for. -/
def nothing : Room :=
  ⟨0, 0, false, true⟩

/-- A condition on a position. -/
def look : Room :=
  ⟨stateSize, stateSize, false, true⟩

/-- A part that matches one character and takes the same room in both directions. -/
def ofSize (size : Nat) : Room :=
  ⟨size, size, true, false⟩

/-- A class of other characters than those of ASCII. Forward it is a tree of bytes in which equal
nodes are one; backward it is a choice between chains, of which equal beginnings are one. -/
def ofSequences (sequences : List ByteSequence) : Room :=
  let nodes := nodesOf 4 sequences
  let transitions (node : List ByteSequence) : Nat := (branchesOf node).length
  let forward := total (fun node ↦ stateSize + transitions node * transitionSize) nodes.eraseDups
  let backward := total (fun node ↦ transitions node * stateSize) nodes
  ⟨stateSize + forward, 2 * stateSize + sequences.length * choiceSize + backward, true, false⟩

/-- The set has a single code point. -/
def isSingle (set : CodeRanges) : Bool :=
  match set.ranges with
  | [(first, last)] => first == last
  | _ => false

/-- A class. A single character takes a state for each of its bytes, and several characters of ASCII
take one state for all their ranges. -/
def ofRanges (set : CodeRanges) : Room :=
  if isSingle set then ofSize ((sequencesOf set).flatten.length * stateSize)
  else if set.ranges.all (·.2 < 0x80) then
    ofSize (2 * stateSize + set.ranges.length * transitionSize)
  else ofSequences (sequencesOf set)

/-- The room of a part where nothing to match takes a state too. -/
def filled (room : Room) : Room :=
  if room.forward = 0 then { room with forward := stateSize, backward := stateSize } else room

/-- One part after the other. -/
def append (first second : Room) : Room :=
  ⟨first.forward + second.forward, first.backward + second.backward,
    first.neverEmpty || second.neverEmpty, first.alwaysEmpty && second.alwaysEmpty⟩

/-- A group that captures what it matches, which only the program that reads forward does. -/
def captured (body : Room) : Room :=
  { body.filled with forward := 2 * stateSize + body.filled.forward }

/-- One of several parts. -/
def oneOf (branches : List Room) : Room :=
  let choices := 2 * stateSize + branches.length * choiceSize
  ⟨choices + total (fun branch ↦ branch.filled.forward) branches,
    choices + total (fun branch ↦ branch.filled.backward) branches,
    branches.all (·.neverEmpty), branches.all (·.alwaysEmpty)⟩

/-- The room of a choice between two states. -/
def forkSize : Nat := stateSize + 2 * choiceSize

/-- How often a repetition takes its body, and what it takes to join the copies. -/
def copies (neverEmpty : Bool) : Nat → Option Nat → Nat × Nat
  | 0, none => (1, if neverEmpty then forkSize else 2 * forkSize + stateSize)
  | min + 1, none => (min + 1, forkSize)
  | 0, some 1 => (1, forkSize + stateSize)
  | min, some max =>
      if min = max then (max, 0)
      else (max, (max - min) * forkSize + (if min = 0 then 2 * stateSize else stateSize))

/-- A part so many times. Where it matches the empty text only, once is as good as many times. -/
def repeated (body : Room) (min : Nat) (max : Option Nat) : Room :=
  let (min, max) :=
    if body.alwaysEmpty then (Nat.min min 1, some (Nat.min (max.getD 1) 1)) else (min, max)
  if max = some 0 then nothing
  else if min = 1 ∧ max = some 1 then body
  else
    let (count, joints) := copies body.neverEmpty min max
    ⟨count * body.filled.forward + joints, count * body.filled.backward + joints,
      decide (0 < min) && body.neverEmpty, body.alwaysEmpty⟩

/-- The room of the larger program for a whole text. Each has a state to start from, one for either
end of the text and one to end in, and the whole text is captured too. -/
def whole (body : Room) : Nat :=
  max (captured body).forward body.filled.backward + 4 * stateSize

end Room

/-! ## Expressions -/

mutual

/-- The room of a term under the flags in force before it, and the flags in force behind it. -/
def Term.roomUnder (flags : Flags) : Term → Room × Flags
  | .empty => (.nothing, flags)
  | .flags items => (.nothing, flags.update true items)
  | .literal l => (.ofRanges ((l.ranges? flags).getD .empty), flags)
  | .dot => (.ofRanges ((dotRanges? flags).getD .empty), flags)
  | .assertion _ => (.look, flags)
  | .property negated query =>
      (.ofRanges ((propertyRanges? flags negated query).getD .empty), flags)
  | .shorthand negated kind =>
      (.ofRanges ((shorthandRanges? flags negated kind).getD .empty), flags)
  | .bracketed negated set =>
      (.ofRanges (((SetTerm.bracketed negated set).ranges? flags).getD .empty), flags)
  | .repetition body min max =>
      let (room, flags) := body.roomUnder flags
      (room.repeated min max, flags)
  | .group captures items body =>
      let (room, _) := body.roomUnder (flags.update true items)
      (if captures then room.captured else room, flags)
  | .alternation branches =>
      let (rooms, flags) := roomsUnder flags branches
      (.oneOf rooms, flags)
  | .concat parts =>
      let (rooms, flags) := roomsUnder flags parts
      (rooms.foldr .append .nothing, flags)

/-- The rooms of the terms; each is under the flags in force behind the one before. -/
def roomsUnder (flags : Flags) : List Term → List Room × Flags
  | [] => ([], flags)
  | term :: terms =>
      let (first, flags) := term.roomUnder flags
      let (others, flags) := roomsUnder flags terms
      (first :: others, flags)

end

/-- The room of a whole expression under the flags given. -/
def Term.size (flags : Flags) (term : Term) : Nat :=
  (term.roomUnder flags).1.whole

end RecordSchema.Regex
