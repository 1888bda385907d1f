import Mathlib.Tactic.Common
import RecordSchema.Regex.Matcher

/-!
# Matches

The matcher walks over sets of positions. It finds the ends of exactly those parts of a text that
the expression matches (`Regex.mem_ends_iff`). A repetition is a number of rounds (`Rounds`), of
which those that stay in place can be left out, so that there need not be more of them than the text
has characters.
-/

namespace RecordSchema.Regex

/-- The number of rounds lead from one position to the other. -/
inductive Rounds (round : Nat → Nat → Prop) : Nat → Nat → Nat → Prop where
  | none (i : Nat) : Rounds round 0 i i
  | more {n i j k : Nat} : round i j → Rounds round n j k → Rounds round (n + 1) i k

section Rounds

variable {round : Nat → Nat → Prop} {i j k n : Nat}

/-- Rounds are made one part after the other. -/
theorem rounds_add {m : Nat} :
    Rounds round (m + n) i k ↔ ∃ j, Rounds round m i j ∧ Rounds round n j k := by
  induction m generalizing i with
  | zero =>
      rw [Nat.zero_add]
      constructor
      · exact fun h => ⟨i, .none i, h⟩
      · rintro ⟨_, ⟨⟩, h⟩
        exact h
  | succ m ih =>
      rw [Nat.add_right_comm]
      constructor
      · intro h
        cases h with
        | more hround h =>
            obtain ⟨j, hfirst, hlast⟩ := ih.mp h
            exact ⟨j, .more hround hfirst, hlast⟩
      · rintro ⟨j, hfirst, hlast⟩
        cases hfirst with
        | more hround hfirst => exact .more hround (ih.mpr ⟨j, hfirst, hlast⟩)

/-- Where every round moves forward or stays in place, those that stay in place can be left out. -/
theorem Rounds.exists_short (hforward : ∀ i j, round i j → i ≤ j) (h : Rounds round n i j) :
    i ≤ j ∧ ∃ m ≤ j - i, Rounds round m i j := by
  induction h with
  | none i => exact ⟨i.le_refl, 0, Nat.zero_le _, .none i⟩
  | @more n i j k hround h ih =>
      obtain ⟨hle, m, hm, hshort⟩ := ih
      have hij := hforward i j hround
      refine ⟨Nat.le_trans hij hle, ?_⟩
      obtain rfl | hlt := Nat.eq_or_lt_of_le hij
      · exact ⟨m, hm, hshort⟩
      · exact ⟨m + 1, by omega, .more hround hshort⟩

end Rounds

/-! ## What repetitions match -/

section Spans

variable {input : Array Char} {r : Regex} {i j : Nat}

/-- A match goes forward, and it stays inside the text unless it stays in place. -/
theorem Spans.bounds (h : Spans input r i j) : i ≤ j ∧ (j ≤ input.size ∨ j = i) := by
  induction h with
  | @char set i c hc =>
      obtain ⟨hlt, -⟩ := Array.getElem?_eq_some_iff.mp hc
      omega
  | empty | look | done => simp
  | seq | more => omega
  | left _ ih | right _ ih => exact ih

/-- A repetition matches what a number of rounds in its bounds matches. -/
theorem spans_repeated_iff {min : Nat} {max : Option Nat} :
    Spans input (.repeated r min max) i j ↔
      ∃ n, min ≤ n ∧ (∀ m, max = some m → n ≤ m) ∧ Rounds (Spans input r) n i j := by
  constructor
  · intro h
    generalize hrepeated : Regex.repeated r min max = s at h
    induction h generalizing min max with
    | done i =>
        cases hrepeated
        exact ⟨0, Nat.le_refl 0, fun m _ => m.zero_le, .none i⟩
    | more hmax hround _ _ ih =>
        cases hrepeated
        obtain ⟨n, hmin, hbound, hrounds⟩ := ih rfl
        refine ⟨n + 1, by omega, ?_, .more hround hrounds⟩
        rintro (_ | m) rfl
        · exact absurd rfl hmax
        · exact Nat.succ_le_succ (hbound m rfl)
    | _ => cases hrepeated
  · rintro ⟨n, hmin, hbound, hrounds⟩
    induction hrounds generalizing min max with
    | none i =>
        obtain rfl := Nat.le_zero.mp hmin
        exact .done i
    | @more n i j k hround _ ih =>
        have hmax : max ≠ some 0 := by
          rintro rfl
          exact absurd (hbound 0 rfl) (Nat.not_succ_le_zero n)
        refine .more hmax hround (ih (by omega) fun m hm => ?_)
        obtain ⟨bound, hsome, rfl⟩ := Option.map_eq_some_iff.mp hm
        have := hbound bound hsome
        omega

end Spans

/-! ## Sets of positions -/

/-- The step leads from a set of positions to those that a round leads to from one of them. -/
def IsStepOf (step : Positions → Positions) (round : Nat → Nat → Prop) : Prop :=
  ∀ starts j, j ∈ step starts ↔ ∃ i ∈ starts, round i j

namespace Positions

variable {step : Positions → Positions} {round : Nat → Nat → Prop} {j rounds : Nat}

/-- The positions of either set are in one of the two. -/
theorem mem_union {left right : Positions} : j ∈ left.union right ↔ j ∈ left ∨ j ∈ right := by
  simp only [union, List.mem_append, List.mem_filter, Bool.not_eq_true', List.contains_eq_mem,
    decide_eq_false_iff_not]
  tauto

/-- A round of closing that finds nothing new is the last one. -/
theorem close_succ (found frontier : Positions) : close step (rounds + 1) found frontier =
    if (step frontier).filter (!found.contains ·) = [] then found
    else close step rounds (found ++ (step frontier).filter (!found.contains ·))
      ((step frontier).filter (!found.contains ·)) := by
  rw [close]
  split
  next hnone => rw [if_pos hnone]
  next hsome => exact (if_neg hsome).symm

/-- A number of steps leads where as many rounds do. -/
theorem mem_iterate (hstep : IsStepOf step round) {starts : Positions} :
    j ∈ iterate step rounds starts ↔ ∃ i ∈ starts, Rounds round rounds i j := by
  induction rounds generalizing starts with
  | zero =>
      constructor
      · exact fun h => ⟨j, h, .none j⟩
      · rintro ⟨_, hmem, ⟨⟩⟩
        exact hmem
  | succ rounds ih =>
      cases starts with
      | nil => simp [iterate]
      | cons start starts =>
          have hiterate : iterate step (rounds + 1) (start :: starts) =
              iterate step rounds (step (start :: starts)) := rfl
          rw [hiterate, ih]
          constructor
          · rintro ⟨k, hk, hrounds⟩
            obtain ⟨i, hi, hround⟩ := (hstep _ k).mp hk
            exact ⟨i, hi, .more hround hrounds⟩
          · rintro ⟨i, hi, hrounds⟩
            cases hrounds with
            | more hround hrounds => exact ⟨_, (hstep _ _).mpr ⟨i, hi, hround⟩, hrounds⟩

/-- The positions found in some rounds are those found before and those that so many rounds lead to
from the frontier. -/
theorem exists_of_mem_close (hstep : IsStepOf step round) {found frontier : Positions}
    (h : j ∈ close step rounds found frontier) :
    j ∈ found ∨ ∃ i ∈ frontier, ∃ n ≤ rounds, Rounds round n i j := by
  induction rounds generalizing found frontier with
  | zero => exact .inl h
  | succ rounds ih =>
      rw [close_succ] at h
      split at h
      · exact .inl h
      · have hfresh : ∀ k ∈ (step frontier).filter (!found.contains ·), ∃ i ∈ frontier, round i k :=
          fun k hk => (hstep frontier k).mp (List.mem_filter.mp hk).1
        rcases ih h with hfound | ⟨k, hk, n, hn, hrounds⟩
        · rcases List.mem_append.mp hfound with hfound | hnew
          · exact .inl hfound
          · obtain ⟨i, hi, hround⟩ := hfresh j hnew
            exact .inr ⟨i, hi, 1, by omega, .more hround (.none j)⟩
        · obtain ⟨i, hi, hround⟩ := hfresh k hk
          exact .inr ⟨i, hi, n + 1, by omega, .more hround hrounds⟩

/-- What a round leads to from what was found is found or new, if this was so already apart from the
frontier. -/
theorem mem_append_of_round (hstep : IsStepOf step round) {found frontier : Positions} {i : Nat}
    (hclosed : ∀ i ∈ found, i ∉ frontier → ∀ j, round i j → j ∈ found) (hi : i ∈ found)
    (h : round i j) : j ∈ found ++ (step frontier).filter (!found.contains ·) := by
  by_cases hfound : j ∈ found
  · exact List.mem_append_left _ hfound
  · refine List.mem_append_right _ (List.mem_filter.mpr ⟨?_, by simpa using hfound⟩)
    refine (hstep frontier j).mpr ⟨i, ?_, h⟩
    exact by_contra fun hnew => hfound (hclosed i hi hnew j h)

/-- All positions that so many rounds lead to are found, if a round from what was found before the
frontier leads to nothing new. -/
theorem mem_close_of_rounds (hstep : IsStepOf step round) {found frontier : Positions} {i n : Nat}
    (hclosed : ∀ i ∈ found, i ∉ frontier → ∀ j, round i j → j ∈ found) (hi : i ∈ found)
    (hn : n ≤ rounds) (h : Rounds round n i j) : j ∈ close step rounds found frontier := by
  induction rounds generalizing found frontier i n with
  | zero =>
      obtain rfl := Nat.le_zero.mp hn
      cases h
      exact hi
  | succ rounds ih =>
      have hround : ∀ i ∈ found, ∀ j, round i j →
          j ∈ found ++ (step frontier).filter (!found.contains ·) :=
        fun i hi j h => mem_append_of_round hstep hclosed hi h
      rw [close_succ]
      split
      next hnone =>
          -- Nothing new is reached from what was found.
          rw [hnone, List.append_nil] at hround
          clear hn ih
          induction h with
          | none => exact hi
          | more hfirst _ ih => exact ih (hround _ hi _ hfirst)
      · have hclosed' : ∀ k ∈ found ++ (step frontier).filter (!found.contains ·),
            k ∉ (step frontier).filter (!found.contains ·) → ∀ j, round k j →
            j ∈ found ++ (step frontier).filter (!found.contains ·) :=
          fun k hk hnew => hround k ((List.mem_append.mp hk).resolve_right hnew)
        cases h with
        | none => exact ih hclosed' (List.mem_append_left _ hi) (Nat.zero_le _) (.none _)
        | more hfirst hrest =>
            exact ih hclosed' (hround _ hi _ hfirst) (Nat.le_of_succ_le_succ hn) hrest

/-- From a set of positions, those are found that at most so many rounds lead to. -/
theorem mem_close (hstep : IsStepOf step round) {starts : Positions} :
    j ∈ close step rounds starts starts ↔ ∃ i ∈ starts, ∃ n ≤ rounds, Rounds round n i j := by
  constructor
  · intro h
    rcases exists_of_mem_close hstep h with hfound | hreached
    · exact ⟨j, hfound, 0, Nat.zero_le _, .none j⟩
    · exact hreached
  · rintro ⟨i, hi, n, hn, hrounds⟩
    exact mem_close_of_rounds hstep (fun i hi hnew => absurd hi hnew) hi hn hrounds

end Positions

/-! ## The matcher -/

variable {input : Array Char} {r : Regex}

/-- Where a match starts and may be repeated without bound, no more rounds are needed than the text
has characters. -/
theorem exists_rounds_le_size {i j n : Nat} (h : Rounds (Spans input r) n i j) :
    ∃ m ≤ input.size, Rounds (Spans input r) m i j := by
  have hinside : j ≤ input.size ∨ j = i := by
    induction h with
    | none => exact .inr rfl
    | more hround _ ih =>
        have := hround.bounds
        omega
  obtain ⟨-, m, hm, hshort⟩ := h.exists_short fun _ _ h => h.bounds.1
  exact ⟨m, by omega, hshort⟩

/-- The positions that are reached after as many rounds as there have to be, and then by at most so
many more. -/
theorem mem_close_iterate {starts : Positions} {j min rounds : Nat}
    (hstep : IsStepOf (ends input r) (Spans input r)) :
    j ∈ Positions.close (ends input r) rounds (Positions.iterate (ends input r) min starts)
        (Positions.iterate (ends input r) min starts) ↔
      ∃ i ∈ starts, ∃ n ≤ rounds, Rounds (Spans input r) (min + n) i j := by
  simp only [Positions.mem_close hstep, Positions.mem_iterate hstep, rounds_add]
  constructor
  · rintro ⟨k, ⟨i, hi, hfirst⟩, n, hn, hmore⟩
    exact ⟨i, hi, n, hn, k, hfirst, hmore⟩
  · rintro ⟨i, hi, n, hn, k, hfirst, hmore⟩
    exact ⟨k, ⟨i, hi, hfirst⟩, n, hn, hmore⟩

/-- The ends that are found are those of the parts that are matched. -/
theorem mem_ends_iff {starts : Positions} {j : Nat} :
    j ∈ ends input r starts ↔ ∃ i ∈ starts, Spans input r i j := by
  induction r generalizing starts j with
  | empty =>
      constructor
      · exact fun h => ⟨j, h, .empty j⟩
      · rintro ⟨_, hi, ⟨⟩⟩
        exact hi
  | char set =>
      rw [ends, List.mem_map]
      constructor
      · rintro ⟨i, hi, rfl⟩
        obtain ⟨hmem, hset⟩ := List.mem_filter.mp hi
        obtain ⟨c, hc, hset⟩ := (Option.any_eq_true _ _).mp hset
        exact ⟨i, hmem, .char hc hset⟩
      · rintro ⟨i, hmem, h⟩
        cases h with
        | char hc hset =>
            exact ⟨i, List.mem_filter.mpr ⟨hmem, (Option.any_eq_true _ _).mpr ⟨_, hc, hset⟩⟩, rfl⟩
  | look holds =>
      rw [ends, List.mem_filter, Bool.and_eq_true, decide_eq_true_iff]
      constructor
      · rintro ⟨hmem, hle, hholds⟩
        exact ⟨j, hmem, .look hle hholds⟩
      · rintro ⟨i, hmem, h⟩
        cases h with
        | look hle hholds => exact ⟨hmem, hle, hholds⟩
  | seq r s ihr ihs =>
      rw [ends, ihs]
      constructor
      · rintro ⟨k, hk, hs⟩
        obtain ⟨i, hi, hr⟩ := ihr.mp hk
        exact ⟨i, hi, .seq hr hs⟩
      · rintro ⟨i, hi, h⟩
        cases h with
        | seq hr hs => exact ⟨_, ihr.mpr ⟨i, hi, hr⟩, hs⟩
  | alt r s ihr ihs =>
      rw [ends, Positions.mem_union, ihr, ihs]
      constructor
      · rintro (⟨i, hi, h⟩ | ⟨i, hi, h⟩)
        · exact ⟨i, hi, .left h⟩
        · exact ⟨i, hi, .right h⟩
      · rintro ⟨i, hi, h⟩
        cases h with
        | left h => exact .inl ⟨i, hi, h⟩
        | right h => exact .inr ⟨i, hi, h⟩
  | repeated r min max ih =>
      have hstep : IsStepOf (ends input r) (Spans input r) := fun _ _ => ih
      simp only [spans_repeated_iff]
      cases max with
      | none =>
          rw [ends, mem_close_iterate hstep]
          constructor
          · rintro ⟨i, hi, n, -, hrounds⟩
            exact ⟨i, hi, min + n, Nat.le_add_right _ _, nofun, hrounds⟩
          · rintro ⟨i, hi, n, hmin, -, hrounds⟩
            obtain ⟨more, rfl⟩ := Nat.exists_eq_add_of_le hmin
            obtain ⟨k, hfirst, hmore⟩ := rounds_add.mp hrounds
            obtain ⟨m, hm, hshort⟩ := exists_rounds_le_size hmore
            exact ⟨i, hi, m, by omega, rounds_add.mpr ⟨k, hfirst, hshort⟩⟩
      | some max =>
          simp only [Option.some.injEq, forall_eq']
          rw [ends]
          split
          next hlt =>
              simp only [List.not_mem_nil, false_iff, not_exists, not_and]
              intro i _ n hmin hmax
              omega
          next hle =>
              rw [mem_close_iterate hstep]
              constructor
              · rintro ⟨i, hi, n, hn, hrounds⟩
                exact ⟨i, hi, min + n, Nat.le_add_right _ _, by omega, hrounds⟩
              · rintro ⟨i, hi, n, hmin, hmax, hrounds⟩
                obtain ⟨more, rfl⟩ := Nat.exists_eq_add_of_le hmin
                exact ⟨i, hi, more, by omega, hrounds⟩

/-- An expression is found in a text exactly if it matches a part of it. -/
theorem isFound_iff {text : String} :
    r.isFound text ↔ ∃ i j, i ≤ text.toList.length ∧ Spans text.toList.toArray r i j := by
  rw [isFound, Bool.not_eq_true', List.isEmpty_eq_false_iff_exists_mem]
  simp only [mem_ends_iff, List.mem_range, List.size_toArray, Nat.lt_succ_iff]
  constructor
  · rintro ⟨j, i, hi, h⟩
    exact ⟨i, j, hi, h⟩
  · rintro ⟨i, j, hi, h⟩
    exact ⟨j, i, hi, h⟩

end RecordSchema.Regex
