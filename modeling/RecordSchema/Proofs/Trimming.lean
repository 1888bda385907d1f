import Mathlib.Data.List.TakeWhile
import RecordSchema.Text.Blank
import RecordSchema.Text.Identifier

/-!
# Trimmed texts

A text is trimmed if it has no blank at its ends. Trimming cuts any text into blanks, a trimmed text
and blanks (`exists_eq_append_trim`), and there is only one such cut (`trim_append`).
-/

namespace RecordSchema.Text

variable {text before behind : List Char}

/-- The text neither starts nor ends with a blank. -/
def IsTrimmed (text : List Char) : Prop :=
  (∀ c ∈ text.head?, ¬ isBlank c) ∧ ∀ c ∈ text.getLast?, ¬ isBlank c

/-- Blanks at the start are dropped. -/
theorem trimStart_append (hbefore : isBlankText before) (text : List Char) :
    trimStart (before ++ text) = trimStart text :=
  List.dropWhile_append_of_pos (List.all_eq_true.mp hbefore)

/-- Blanks at the end are dropped. -/
theorem trimEnd_append (hbehind : isBlankText behind) (text : List Char) :
    trimEnd (text ++ behind) = trimEnd text := by
  have hreverse : ∀ c ∈ behind.reverse, isBlank c := fun c hc =>
    List.all_eq_true.mp hbehind c (List.mem_reverse.mp hc)
  rw [trimEnd, List.reverse_append, List.dropWhile_append_of_pos hreverse, ← trimEnd]

/-- A text that does not start with a blank keeps its start. -/
theorem trimStart_eq_self (h : ∀ c ∈ text.head?, ¬ isBlank c) : trimStart text = text := by
  cases text with
  | nil => rfl
  | cons c rest => exact List.dropWhile_cons_of_neg (h c rfl)

/-- A text that does not end with a blank keeps its end. -/
theorem trimEnd_eq_self (h : ∀ c ∈ text.getLast?, ¬ isBlank c) : trimEnd text = text := by
  have hreverse : trimStart text.reverse = text.reverse :=
    trimStart_eq_self (List.head?_reverse ▸ h)
  rw [trimEnd, ← trimStart, hreverse, List.reverse_reverse]

/-- What is cut off the start is blank, and what is left does not start with a blank. -/
theorem exists_eq_append_trimStart (text : List Char) :
    ∃ before, isBlankText before ∧ text = before ++ trimStart text ∧
      ∀ c ∈ (trimStart text).head?, ¬ isBlank c := by
  refine ⟨text.takeWhile isBlank, List.all_takeWhile, ?_, fun c hc => ?_⟩
  · exact List.takeWhile_append_dropWhile.symm
  · have hhead := List.head?_dropWhile_not isBlank text
    rw [← trimStart, Option.mem_def.mp hc] at hhead
    simpa using hhead

/-- What is cut off the end is blank, and what is left does not end with a blank. -/
theorem exists_eq_trimEnd_append (text : List Char) :
    ∃ behind, isBlankText behind ∧ text = trimEnd text ++ behind ∧
      ∀ c ∈ (trimEnd text).getLast?, ¬ isBlank c := by
  obtain ⟨blanks, hblanks, htext, hhead⟩ := exists_eq_append_trimStart text.reverse
  refine ⟨blanks.reverse, ?_, ?_, ?_⟩
  · rwa [isBlankText, List.all_reverse]
  · rw [trimEnd, ← List.reverse_append, ← trimStart, ← htext, List.reverse_reverse]
  · rwa [trimEnd, List.getLast?_reverse]

/-- A text is blanks around a trimmed text. -/
theorem exists_eq_append_trim (text : List Char) :
    ∃ before behind, isBlankText before ∧ isBlankText behind ∧
      text = before ++ trim text ++ behind ∧ IsTrimmed (trim text) := by
  obtain ⟨before, hbefore, htext, hhead⟩ := exists_eq_append_trimStart text
  obtain ⟨behind, hbehind, htrimmed, hlast⟩ := exists_eq_trimEnd_append (trimStart text)
  refine ⟨before, behind, hbefore, hbehind, ?_, fun c hc => hhead c ?_, hlast⟩
  · rw [List.append_assoc, trim, ← htrimmed, ← htext]
  · -- What starts the trimmed text started the text before its end was cut off.
    rw [htrimmed, List.head?_append, ← trim, Option.mem_def.mp hc]
    rfl

/-- Blanks around a trimmed text are what trimming takes off. -/
theorem trim_append (hbefore : isBlankText before) (hbehind : isBlankText behind)
    (h : IsTrimmed text) : trim (before ++ text ++ behind) = text := by
  cases text with
  | nil =>
      have hblank : trimStart behind = [] :=
        List.dropWhile_eq_nil_iff.mpr (List.all_eq_true.mp hbehind)
      rw [trim, List.append_nil, trimStart_append hbefore, hblank, trimEnd_nil]
  | cons c rest =>
      have hstart : trimStart (c :: rest ++ behind) = c :: rest ++ behind :=
        trimStart_eq_self fun _ hfirst => h.1 _ hfirst
      rw [trim, List.append_assoc, trimStart_append hbefore, hstart, trimEnd_append hbehind,
        trimEnd_eq_self h.2]

/-- A text with something in it is cut in one way into blanks, a trimmed text and blanks. -/
theorem eq_of_append_eq {before' text' behind' : List Char} (hbefore : isBlankText before)
    (hbehind : isBlankText behind) (htext : IsTrimmed text) (hne : text ≠ [])
    (hbefore' : isBlankText before') (hbehind' : isBlankText behind') (htext' : IsTrimmed text')
    (h : before ++ text ++ behind = before' ++ text' ++ behind') :
    before = before' ∧ text = text' ∧ behind = behind' := by
  obtain rfl : text = text' := by
    rw [← trim_append hbefore hbehind htext, h, trim_append hbefore' hbehind' htext']
  -- The blanks in front are those up to the first character that is not blank.
  have hfront : ∀ {blanks : List Char} (rest : List Char), isBlankText blanks →
      (blanks ++ text ++ rest).takeWhile isBlank = blanks := by
    intro blanks rest hblanks
    obtain ⟨c, tail, rfl⟩ := List.exists_cons_of_ne_nil hne
    rw [List.append_assoc, List.takeWhile_append_of_pos (List.all_eq_true.mp hblanks),
      List.cons_append, List.takeWhile_cons_of_neg (htext.1 c rfl), List.append_nil]
  obtain rfl : before = before' := by rw [← hfront behind hbefore, h, hfront behind' hbefore']
  exact ⟨rfl, rfl, List.append_cancel_left h⟩

/-! ## Identifiers -/

/-- What continues an identifier is no blank. -/
theorem not_isBlank_of_continuesIdentifier {c : Char} (h : continuesIdentifier c) :
    ¬ isBlank c := by
  -- No blank has a code between that of the first digit and that of the last letter.
  have hcode : 48 ≤ c.toNat ∧ c.toNat ≤ 122 := by
    have hbetween : ∀ low high : Char, 48 ≤ low.toNat → high.toNat ≤ 122 →
        low.val ≤ c.val ∧ c.val ≤ high.val → 48 ≤ c.toNat ∧ c.toNat ≤ 122 := by
      intro low high hlow hhigh h
      exact ⟨hlow.trans (UInt32.le_iff_toNat_le.mp h.1),
        (UInt32.le_iff_toNat_le.mp h.2).trans hhigh⟩
    have hletter : c.isAlpha → 48 ≤ c.toNat ∧ c.toNat ≤ 122 := by
      intro h
      rcases Bool.or_eq_true_iff.mp h with hupper | hlower
      · exact hbetween 'A' 'Z' (by decide) (by decide) (of_decide_eq_true hupper)
      · obtain ⟨hlow, hhigh⟩ := Bool.and_eq_true_iff.mp hlower
        exact hbetween 'a' 'z' (by decide) (by decide)
          ⟨of_decide_eq_true hlow, of_decide_eq_true hhigh⟩
    rcases Bool.or_eq_true_iff.mp h with h | h
    · rcases Bool.or_eq_true_iff.mp h with h | hdigit
      · exact hletter h
      · obtain ⟨hlow, hhigh⟩ := Bool.and_eq_true_iff.mp hdigit
        exact hbetween '0' '9' (by decide) (by decide)
          ⟨of_decide_eq_true hlow, of_decide_eq_true hhigh⟩
    · obtain rfl := beq_iff_eq.mp h
      decide
  simp only [isBlank, Bool.or_eq_true, Bool.and_eq_true, decide_eq_true_eq, beq_iff_eq]
  omega

end RecordSchema.Text
