/-!
# Sets of code points as ranges

A set of code points is kept as ranges in ascending order. The property tables are written the way
the character database writes them: hexadecimal code points and ranges `first-last`, separated by
blanks. `CodeRanges.parse` reads that notation. Sets that are derived from others are put together
by `union`, `inter` and `diff`.

The tables are those of version 15.0 of the database. Characters that came with later versions are
unassigned here. What these versions added is unknown: their ages, the scripts that came with them,
such as `Garay`, and the properties `IDS_Unary_Operator`, `ID_Compat_Math_Start`,
`ID_Compat_Math_Continue`, `InCB` and `Modifier_Combining_Mark`. Surrogates are no characters and
stand in no table.
-/

namespace RecordSchema.Unicode

/-! ## Lists of ranges -/

/-- The code point is in one of the ranges. -/
def covers (ranges : List (Nat × Nat)) (code : Nat) : Bool :=
  ranges.any fun range ↦ range.1 ≤ code && code ≤ range.2

/-- The ranges are in ascending order from `low` on, none is empty, and no two touch. -/
def IsAscending : Nat → List (Nat × Nat) → Prop
  | _, [] => True
  | low, (first, last) :: rest => low ≤ first ∧ first ≤ last ∧ IsAscending (last + 2) rest

/-- Adds a range to a list, and joins it with those that it touches. -/
def insertRange (low high : Nat) : List (Nat × Nat) → List (Nat × Nat)
  | [] => [(low, high)]
  | (first, last) :: rest =>
      if high + 1 < first then (low, high) :: (first, last) :: rest
      else if last + 1 < low then (first, last) :: insertRange low high rest
      else insertRange (min low first) (max high last) rest

/-- The largest code point. -/
def maxCode : Nat := 0x10ffff

/-- The ranges between those of a list, from `low` on. -/
def gapsFrom (low : Nat) : List (Nat × Nat) → List (Nat × Nat)
  | [] => if low ≤ maxCode then [(low, maxCode)] else []
  | (first, last) :: rest =>
      if low < first then (low, first - 1) :: gapsFrom (last + 1) rest
      else gapsFrom (last + 1) rest

variable {ranges : List (Nat × Nat)} {start low high code : Nat}

@[simp]
theorem covers_nil : covers [] code = false := rfl

@[simp]
theorem covers_cons {range : Nat × Nat} :
    covers (range :: ranges) code =
      ((decide (range.1 ≤ code) && decide (code ≤ range.2)) || covers ranges code) := rfl

theorem IsAscending.mono (h : IsAscending high ranges) (hle : low ≤ high) :
    IsAscending low ranges := by
  cases ranges with
  | nil => trivial
  | cons range rest => exact ⟨Nat.le_trans hle h.1, h.2⟩

theorem IsAscending.insertRange (h : IsAscending start ranges) (hstart : start ≤ low)
    (hle : low ≤ high) : IsAscending start (insertRange low high ranges) := by
  induction ranges generalizing start low high with
  | nil => exact ⟨hstart, hle, trivial⟩
  | cons range rest ih =>
      obtain ⟨hfirst, hrange, hrest⟩ := h
      unfold Unicode.insertRange
      split
      · exact ⟨hstart, hle, by omega, hrange, hrest⟩
      · split
        · exact ⟨hfirst, hrange, ih hrest (by omega) hle⟩
        · exact ih (hrest.mono (by omega)) (by omega) (by omega)

theorem covers_insertRange (h : IsAscending start ranges) (hle : low ≤ high) :
    covers (insertRange low high ranges) code =
      ((decide (low ≤ code) && decide (code ≤ high)) || covers ranges code) := by
  induction ranges generalizing start low high with
  | nil => rfl
  | cons range rest ih =>
      obtain ⟨-, hrange, hrest⟩ := h
      unfold insertRange
      split
      · rfl
      · split
        · rw [covers_cons, covers_cons, ih hrest hle, Bool.or_left_comm]
        · -- the two ranges touch, so the one from the lesser start to the greater end has both
          rw [covers_cons, ih hrest (by omega), ← Bool.or_assoc]
          congr 1
          grind

theorem IsAscending.gapsFrom (h : IsAscending low ranges) :
    IsAscending low (gapsFrom low ranges) := by
  induction ranges generalizing low with
  | nil =>
      unfold Unicode.gapsFrom
      split
      next hlow => exact ⟨Nat.le_refl low, hlow, trivial⟩
      next => trivial
  | cons range rest ih =>
      obtain ⟨hfirst, hrange, hrest⟩ := h
      have hgaps := ih (hrest.mono (Nat.le_succ _))
      unfold Unicode.gapsFrom
      split
      · exact ⟨Nat.le_refl low, by omega, hgaps.mono (by omega)⟩
      · exact hgaps.mono (by omega)

theorem IsAscending.covers_eq_false (h : IsAscending low ranges) (hcode : code < low) :
    covers ranges code = false := by
  induction ranges generalizing low with
  | nil => rfl
  | cons range rest ih =>
      obtain ⟨hfirst, hrange, hrest⟩ := h
      rw [covers_cons, ih hrest (by omega)]
      grind

theorem covers_gapsFrom (h : IsAscending low ranges) (hcode : code ≤ maxCode) :
    covers (gapsFrom low ranges) code = (decide (low ≤ code) && !covers ranges code) := by
  induction ranges generalizing low with
  | nil =>
      unfold gapsFrom
      split <;> simp <;> omega
  | cons range rest ih =>
      obtain ⟨hfirst, hrange, hrest⟩ := h
      have hgaps := ih (hrest.mono (Nat.le_succ _))
      have hbefore : code < range.2 + 2 → covers rest code = false := hrest.covers_eq_false
      unfold gapsFrom
      split
      · rw [covers_cons, hgaps, covers_cons]
        grind
      · rw [hgaps, covers_cons]
        grind

/-! ## Sets -/

/-- A set of code points, as inclusive ranges. -/
structure CodeRanges where
  ranges : List (Nat × Nat)
  isAscending : IsAscending 0 ranges
deriving DecidableEq

namespace CodeRanges

/-- The code point is in the set. -/
def contains (set : CodeRanges) (code : Nat) : Bool :=
  covers set.ranges code

/-- The set without code points. -/
def empty : CodeRanges :=
  ⟨[], trivial⟩

/-- The set with the code points from `low` to `high` added; if `high` is less there are none. -/
def insert (low high : Nat) (set : CodeRanges) : CodeRanges :=
  if h : low ≤ high then
    ⟨insertRange low high set.ranges, set.isAscending.insertRange (Nat.zero_le low) h⟩
  else set

/-- The code points from `low` to `high`. -/
def interval (low high : Nat) : CodeRanges :=
  empty.insert low high

/-- The set with the code points in any of the ranges added. -/
def insertAll (set : CodeRanges) (ranges : List (Nat × Nat)) : CodeRanges :=
  ranges.foldr (fun range set ↦ set.insert range.1 range.2) set

/-- The code points in one of two sets. -/
def union (left right : CodeRanges) : CodeRanges :=
  right.insertAll left.ranges

/-- The code points in any of the sets. -/
def unions (sets : List CodeRanges) : CodeRanges :=
  sets.foldr union empty

/-- The code points that are not in the set. -/
def complement (set : CodeRanges) : CodeRanges :=
  ⟨gapsFrom 0 set.ranges, set.isAscending.gapsFrom⟩

/-- The code points in both sets. -/
def inter (left right : CodeRanges) : CodeRanges :=
  complement (union (complement left) (complement right))

/-- The code points in the left set that are not in the right one. -/
def diff (left right : CodeRanges) : CodeRanges :=
  complement (union (complement left) right)

variable {set left right : CodeRanges}

@[simp]
theorem contains_insert :
    (set.insert low high).contains code =
      ((decide (low ≤ code) && decide (code ≤ high)) || set.contains code) := by
  unfold insert
  split
  next hle => exact covers_insertRange set.isAscending hle
  next hgt =>
      have hnone : (decide (low ≤ code) && decide (code ≤ high)) = false := by grind
      rw [hnone, Bool.false_or]

@[simp]
theorem contains_insertAll :
    (set.insertAll ranges).contains code = (covers ranges code || set.contains code) := by
  rw [insertAll]
  induction ranges with
  | nil => rfl
  | cons range rest ih => rw [List.foldr_cons, contains_insert, covers_cons, ih, Bool.or_assoc]

@[simp]
theorem contains_union :
    (union left right).contains code = (left.contains code || right.contains code) :=
  contains_insertAll

theorem contains_complement (hcode : code ≤ maxCode) :
    set.complement.contains code = !set.contains code := by
  rw [contains, complement, covers_gapsFrom set.isAscending hcode]
  rfl

theorem contains_inter (hcode : code ≤ maxCode) :
    (inter left right).contains code = (left.contains code && right.contains code) := by
  simp [inter, contains_complement hcode]

theorem contains_diff (hcode : code ≤ maxCode) :
    (diff left right).contains code = (left.contains code && !right.contains code) := by
  simp [diff, contains_complement hcode]

/-! ## Tables -/

/-- The value of a lower-case hexadecimal digit, and zero for any other character. -/
def digitValue (c : Char) : Nat :=
  if c.isDigit then c.toNat - '0'.toNat
  else if 'a' ≤ c && c ≤ 'f' then c.toNat - 'a'.toNat + 10
  else 0

/-- Reads the rest of a table: `low` is the first end of a range whose second end is being read, and
`code` is the number read so far. -/
def parseFrom : List Char → Option Nat → Nat → List (Nat × Nat)
  | [], low, code => [(low.getD code, code)]
  | c :: rest, low, code =>
      if c == ' ' then (low.getD code, code) :: parseFrom rest none 0
      else if c == '-' then parseFrom rest (some code) 0
      else parseFrom rest low (16 * code + digitValue c)

/-- Reads a table of ranges. -/
def parse (text : String) : CodeRanges :=
  empty.insertAll (parseFrom text.toList none 0)

example : diff (union (parse "30-39 41-5a") (parse "3a 61")) (parse "35-4f") =
    parse "30-34 50-5a 61" := by
  decide +kernel

end CodeRanges

/-- Sets of code points, each with its names in the folded spelling of property names. -/
abbrev NamedRanges := List (List String × CodeRanges)

/-- The set of this name. -/
def NamedRanges.find? (sets : NamedRanges) (name : String) : Option CodeRanges :=
  (List.find? (·.1.contains name) sets).map (·.2)

end RecordSchema.Unicode
