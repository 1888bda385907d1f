import RecordSchema.Regex.Basic

/-!
# Matching

`Regex.ends` computes, for a set of positions where an expression may start, the set of positions
where it may end. An unbounded repetition is closed in as many rounds as the text has positions:
a round that adds no position ends it, and the rounds that matter move forward.
-/

namespace RecordSchema.Regex

/-- A set of positions of a text. -/
abbrev Positions := List Nat

namespace Positions

/-- The positions of either set. -/
def union (left right : Positions) : Positions :=
  left ++ right.filter (!left.contains ·)

/-- The positions reached by `step` in at most `rounds` rounds from those in `frontier`, which are
among the positions `found` so far. -/
def close (step : Positions → Positions) : Nat → Positions → Positions → Positions
  | 0, found, _ => found
  | rounds + 1, found, frontier =>
      match (step frontier).filter (!found.contains ·) with
      | [] => found
      | fresh => close step rounds (found ++ fresh) fresh

/-- The positions reached by `step` in exactly `rounds` rounds. -/
def iterate (step : Positions → Positions) : Nat → Positions → Positions
  | 0, starts => starts
  | _ + 1, [] => []
  | rounds + 1, starts => iterate step rounds (step starts)

end Positions

/-- The positions where a match can end that starts at one of `starts`. -/
def ends (input : Array Char) : Regex → Positions → Positions
  | .empty, starts => starts
  | .char set, starts => (starts.filter fun i ↦ (input[i]?).any set).map (· + 1)
  | .look holds, starts =>
      starts.filter fun i ↦ i ≤ input.size && holds (before input i) input[i]?
  | .seq r s, starts => ends input s (ends input r starts)
  | .alt r s, starts => Positions.union (ends input r starts) (ends input s starts)
  | .repeated r min none, starts =>
      let first := Positions.iterate (ends input r) min starts
      Positions.close (ends input r) (input.size + 1) first first
  | .repeated r min (some max), starts =>
      if max < min then []
      else
        let first := Positions.iterate (ends input r) min starts
        Positions.close (ends input r) (max - min) first first

/-- The expression matches some part of the text. -/
def isFound (r : Regex) (text : String) : Bool :=
  let input := text.toList.toArray
  !(ends input r (List.range (input.size + 1))).isEmpty

/-- The expression matches the whole text. -/
def isWhole (r : Regex) (text : List Char) : Bool :=
  (ends text.toArray r [0]).contains text.length

example : isWhole (.repeated (.char (· == 'a')) 1 (some 2)) ['a', 'a'] := by decide +kernel

end RecordSchema.Regex
