import Mathlib.Tactic.Common
import RecordSchema.Regex.Parser

/-!
# What stands behind an expression

An expression that is read by itself is read in the same way with a closing parenthesis behind it
(`keeps_expression?`). The one thing that can go wrong is a comment at its end, which swallows the
parenthesis, and then it swallows whatever else follows on its line. So an expression is read three
times here: by itself, with the closing behind it, and with some line behind it. `Grows` relates the
texts that are left each time, and every reader keeps this relation (`Keeps`).
-/

namespace RecordSchema.Regex

open Text (isBlank hexValue? charOfCode?)

/-- What stands behind an expression between anchors: the end of its group and of the text. -/
def closing : List Char :=
  [')', '\\', 'z']

/-- What can follow on the line on which an expression ends. -/
abbrev Line := {text : List Char // '\n' ∉ text}

/-- What is left of an expression by itself, with the closing behind it, and with a line behind it.
As long as the readings are `tied`, all of them have read the same. They come apart where the end
of the expression has been looked at: the closing stops every reading, while the line may go on. A
comment at the end of the expression swallows both, and the readings stay tied. -/
inductive Grows (line : Line) : (tied : Bool) → List Char → List Char → List Char → Prop where
  | unread (text : List Char) : Grows line true text (text ++ closing) (text ++ line.val)
  | ended (other : List Char) : Grows line false [] closing other
  | swallowed : Grows line true [] [] []

/-- What is read of the expression by itself is read with the closing behind it too, and with the
line behind it if the readings stay tied. What is left grows. -/
def Keeps (line : Line) (tied : Bool) {α : Type}
    (result result' result'' : Option (α × List Char)) : Prop :=
  ∀ x rest, result = some (x, rest) → ∃ tied' rest' rest'',
    result' = some (x, rest') ∧ (tied' = true → tied = true ∧ result'' = some (x, rest'')) ∧
      Grows line tied' rest rest' rest''

/-! ## Steps of readers -/

section Steps

variable {α β : Type} {line : Line} {tied tied' : Bool} {x : α} {c : Char}
  {rest rest' rest'' text text' text'' : List Char}
  {result result' result'' : Option (α × List Char)}

/-- A character that is left by itself is left in every reading, and they are tied. -/
theorem Grows.cons (h : Grows line tied (c :: rest) text' text'') :
    tied = true ∧ text' = c :: (rest ++ closing) ∧ text'' = c :: (rest ++ line.val) := by
  cases h
  exact ⟨rfl, rfl, rfl⟩

/-- Where nothing is left, the closing is left, or a comment has swallowed what followed. -/
theorem Grows.nil (h : Grows line tied [] text' text'') :
    text' = closing ∨ tied = true ∧ text' = [] ∧ text'' = [] := by
  cases h with
  | unread => exact .inl rfl
  | ended => exact .inl rfl
  | swallowed => exact .inr ⟨rfl, rfl, rfl⟩

theorem Grows.length_le (h : Grows line tied text text' text'') :
    text.length ≤ text'.length ∧ text.length ≤ text''.length := by
  cases h <;> simp

theorem Keeps.none : Keeps line tied none result' result'' :=
  fun _ _ h => nomatch h

theorem Keeps.some (h : Grows line tied rest rest' rest'') :
    Keeps line tied (some (x, rest)) (some (x, rest')) (some (x, rest'')) := by
  rintro _ _ ⟨⟩
  exact ⟨tied, rest', rest'', rfl, fun htied => ⟨htied, rfl⟩, h⟩

/-- At the end of the expression, the reading with the line behind it may go on in any way. -/
theorem Keeps.ended : Keeps line tied (.some (x, [])) (.some (x, closing)) result'' := by
  rintro _ _ ⟨⟩
  exact ⟨false, closing, [], rfl, nofun, .ended []⟩

/-- The reading with the line behind the expression is of account only where it is tied. -/
theorem Keeps.of_tied {other : Option (α × List Char)} (h : Keeps line tied' result result' other)
    (htied : tied' = true → tied = true ∧ result'' = other) :
    Keeps line tied result result' result'' := by
  intro x rest hresult
  obtain ⟨tied'', rest', rest'', hresult', hline, hgrows⟩ := h x rest hresult
  refine ⟨tied'', rest', rest'', hresult', fun h => ?_, hgrows⟩
  obtain ⟨h, hother⟩ := hline h
  exact ⟨(htied h).1, (htied h).2.trans hother⟩

theorem Keeps.weaken (h : Keeps line tied' result result' result'')
    (htied : tied' = true → tied = true) : Keeps line tied result result' result'' :=
  h.of_tied fun h => ⟨htied h, rfl⟩

theorem Keeps.tie (h : Keeps line tied' result result' result'') :
    Keeps line true result result' result'' :=
  h.weaken fun _ => rfl

/-- Two steps keep what each of them keeps. -/
theorem Keeps.bind {next next' next'' : α × List Char → Option (β × List Char)}
    (h : Keeps line tied result result' result'')
    (hnext : ∀ x tied rest rest' rest'', Grows line tied rest rest' rest'' →
      Keeps line tied (next (x, rest)) (next' (x, rest')) (next'' (x, rest''))) :
    Keeps line tied (result >>= next) (result' >>= next') (result'' >>= next'') := by
  intro y left hleft
  obtain ⟨⟨x, rest⟩, hresult, hleft⟩ := Option.bind_eq_some_iff.mp hleft
  obtain ⟨tied', rest', rest'', hresult', hline, hgrows⟩ := h x rest hresult
  obtain ⟨tied'', left', left'', hleft', hline', hgrows⟩ := hnext x _ _ _ _ hgrows y left hleft
  refine ⟨tied'', left', left'', Option.bind_eq_some_iff.mpr ⟨_, hresult', hleft'⟩, fun h => ?_,
    hgrows⟩
  obtain ⟨htied, hleft''⟩ := hline' h
  obtain ⟨htied, hresult''⟩ := hline htied
  exact ⟨htied, Option.bind_eq_some_iff.mpr ⟨_, hresult'', hleft''⟩⟩

/-- A step that does not look at the text makes no difference. -/
theorem Keeps.bind_same {step : Option α} {next next' next'' : α → Option (β × List Char)}
    (hnext : ∀ x, step = .some x → Keeps line tied (next x) (next' x) (next'' x)) :
    Keeps line tied (step >>= next) (step >>= next') (step >>= next'') := by
  cases step with
  | none => exact .none
  | some x => exact hnext x rfl

/-- What is made of the result only makes no difference. -/
theorem Keeps.map {make : α → β} (h : Keeps line tied result result' result'')
    {f : α × List Char → β × List Char} (hf : ∀ x rest, f (x, rest) = (make x, rest)) :
    Keeps line tied (result.map f) (result'.map f) (result''.map f) := by
  simp only [Option.map_eq_bind]
  refine .bind h fun x tied rest rest' rest'' hgrows => ?_
  simp only [Function.comp_apply, hf]
  exact .some hgrows

/-- What a step reads that always succeeds. -/
theorem Keeps.exists_of_some {read read' read'' : α × List Char}
    (h : Keeps line tied (.some read) (.some read') (.some read'')) : ∃ tied' rest' rest'',
      read' = (read.1, rest') ∧ (tied' = true → tied = true ∧ read'' = (read.1, rest'')) ∧
        Grows line tied' read.2 rest' rest'' := by
  obtain ⟨tied', rest', rest'', hread', hline, hgrows⟩ := h _ _ rfl
  refine ⟨tied', rest', rest'', Option.some.inj hread', fun h => ?_, hgrows⟩
  exact ⟨(hline h).1, Option.some.inj (hline h).2⟩

/-- What is there apart from the text is read whatever is left. -/
theorem Keeps.of_option (o : Option β) {make : β → α} (h : Grows line tied rest rest' rest'') :
    Keeps line tied (o.map fun x ↦ (make x, rest)) (o.map fun x ↦ (make x, rest'))
      (o.map fun x ↦ (make x, rest'')) := by
  cases o with
  | none => exact .none
  | some x => exact .some h

/-- A test that does not look at the text makes no difference. -/
theorem Keeps.ite {p : Prop} [Decidable p] {a a' a'' b b' b'' : Option (α × List Char)}
    (ha : p → Keeps line tied a a' a'') (hb : ¬ p → Keeps line tied b b' b'') :
    Keeps line tied (if p then a else b) (if p then a' else b') (if p then a'' else b'') := by
  split
  next hp => exact ha hp
  next hp => exact hb hp

/-! ## Blanks -/

/-- A comment goes on up to the end of its line. -/
theorem skipBlanks_comment (h : '\n' ∉ text) : skipBlanks true text = [] := by
  induction text with
  | nil => rfl
  | cons c rest ih =>
      obtain ⟨hc, hrest⟩ := not_or.mp (mt List.mem_cons.mpr h)
      rw [skipBlanks, bne_iff_ne.mpr (Ne.symm hc), ih hrest]

/-- Skipping blanks leaves what stands behind a text as it is, or comes to its end, or a comment
swallows what stands behind it. -/
theorem grows_skipBlanks (line : Line) (inComment : Bool) (text : List Char) :
    ∃ tied, Grows line tied (skipBlanks inComment text) (skipBlanks inComment (text ++ closing))
      (skipBlanks inComment (text ++ line.val)) := by
  induction text generalizing inComment with
  | nil =>
      cases inComment with
      | true =>
          rw [List.nil_append, List.nil_append, skipBlanks_comment line.property]
          exact ⟨true, .swallowed⟩
      | false => exact ⟨false, .ended _⟩
  | cons c rest ih =>
      cases inComment with
      | true => exact ih (c != '\n')
      | false =>
          simp only [List.cons_append, skipBlanks]
          split
          · exact ih false
          · split
            · exact ih true
            · exact ⟨true, .unread _⟩

/-- Skipping keeps the relation. -/
theorem grows_skip (line : Line) (extended : Bool) (text : List Char) :
    ∃ tied, Grows line tied (skip extended text) (skip extended (text ++ closing))
      (skip extended (text ++ line.val)) := by
  cases extended with
  | false => exact ⟨true, .unread text⟩
  | true => exact grows_skipBlanks line false text

theorem Grows.skip (h : Grows line tied text text' text'') (extended : Bool) :
    ∃ tied', (tied' = true → tied = true) ∧
      Grows line tied' (skip extended text) (skip extended text') (skip extended text'') := by
  cases h with
  | unread =>
      obtain ⟨tied', hskip⟩ := grows_skip line extended text
      exact ⟨tied', fun _ => rfl, hskip⟩
  | ended other => cases extended <;> exact ⟨false, id, .ended _⟩
  | swallowed => cases extended <;> exact ⟨true, id, .swallowed⟩

/-- Skipping makes a text no longer. -/
theorem length_skipBlanks_le (inComment : Bool) (text : List Char) :
    (skipBlanks inComment text).length ≤ text.length := by
  induction text generalizing inComment with
  | nil => exact Nat.le_refl 0
  | cons c rest ih =>
      cases inComment with
      | true => exact Nat.le_succ_of_le (ih _)
      | false =>
          rw [skipBlanks]
          split
          · exact Nat.le_succ_of_le (ih _)
          · split
            · exact Nat.le_succ_of_le (ih _)
            · exact Nat.le_refl _

theorem length_skip_le (extended : Bool) (text : List Char) :
    (skip extended text).length ≤ text.length := by
  cases extended with
  | false => exact Nat.le_refl _
  | true => exact length_skipBlanks_le false text

/-- Without its leading blanks a text grows as it did. -/
theorem Grows.dropWhile (h : Grows line tied text text' text'') {p : Char → Bool}
    (hp : p ')' = false) : ∃ tied', (tied' = true → tied = true) ∧
      Grows line tied' (text.dropWhile p) (text'.dropWhile p) (text''.dropWhile p) := by
  have hclosing : closing.dropWhile p = closing := List.dropWhile_cons_of_neg (by simp [hp])
  cases h with
  | swallowed => exact ⟨true, id, .swallowed⟩
  | ended other =>
      rw [hclosing]
      exact ⟨false, id, .ended _⟩
  | unread =>
      refine Exists.imp (fun tied' h => ⟨fun _ => rfl, h⟩) ?_
      induction text with
      | nil =>
          rw [List.nil_append, hclosing]
          exact ⟨false, .ended _⟩
      | cons c rest ih =>
          simp only [List.cons_append, List.dropWhile_cons]
          split
          · exact ih
          · exact ⟨true, .unread _⟩

/-! ## Fixed texts -/

/-- What stands behind the start of a text. -/
theorem after?_eq_some {start : List Char} (h : after? start text = some rest) :
    text = start ++ rest := by
  induction start generalizing text with
  | nil => exact Option.some.inj h
  | cons c start ih =>
      cases text with
      | nil => cases h
      | cons d text =>
          rw [after?] at h
          split at h
          next hc => rw [ih h, ← eq_of_beq hc, List.cons_append]
          next => cases h

/-- The text behind its start is what was put there. -/
theorem after?_append (start rest : List Char) : after? start (start ++ rest) = some rest := by
  induction start with
  | nil => rfl
  | cons c start ih => rw [List.cons_append, after?, if_pos (beq_self_eq_true c), ih]

/-- A start that is not empty is found again, and it is not behind the end of the expression. -/
theorem Keeps.after {start : List Char} (h : Grows line tied text text' text'')
    (hstart : start ≠ []) {next next' next'' : List Char → Option (α × List Char)}
    (hnext : ∀ rest, Keeps line true (next rest) (next' (rest ++ closing))
      (next'' (rest ++ line.val))) :
    Keeps line tied (after? start text >>= next) (after? start text' >>= next')
      (after? start text'' >>= next'') := by
  intro x left hbind
  obtain ⟨rest, hrest, hleft⟩ := Option.bind_eq_some_iff.mp hbind
  have htext := after?_eq_some hrest
  cases h with
  | unread =>
      rw [htext, List.append_assoc, List.append_assoc, after?_append, after?_append]
      exact hnext rest x left hleft
  | ended | swallowed => exact absurd (List.append_eq_nil_iff.mp htext.symm).1 hstart

/-- A start that the text is long enough for is there or not whatever stands behind the text. -/
theorem after?_append_of_length_le {start : List Char} (h : start.length ≤ text.length)
    (tail : List Char) : after? start (text ++ tail) = (after? start text).map (· ++ tail) := by
  induction start generalizing text with
  | nil => rfl
  | cons c start ih =>
      cases text with
      | nil => cases h
      | cons d text =>
          rw [List.cons_append, after?, after?, ih (Nat.le_of_succ_le_succ h)]
          split <;> rfl

/-- The text up to a character does not have it, and what has to follow it does. -/
theorem upTo?_eq_some_iff {mark name : List Char} :
    upTo? c mark text = some (name, rest) ↔ c ∉ name ∧ text = name ++ c :: (mark ++ rest) := by
  have htake : ∀ {name : List Char} (left), c ∉ name →
      (name ++ c :: left).takeWhile (· != c) = name := by
    intro name left hname
    rw [List.takeWhile_append_of_pos, List.takeWhile_cons_of_neg (by simp), List.append_nil]
    exact fun d hd => bne_iff_ne.mpr fun heq => hname (heq ▸ hd)
  rw [upTo?, Option.map_eq_some_iff]
  constructor
  · rintro ⟨left, hleft, heq⟩
    cases heq
    have hname := List.all_eq_true.mp (List.all_takeWhile (l := text) (p := (· != c)))
    refine ⟨fun hmem => by simpa using hname c hmem, ?_⟩
    rw [← List.cons_append, ← after?_eq_some hleft]
    exact (List.prefix_iff_eq_append.mp (List.takeWhile_prefix _)).symm
  · rintro ⟨hname, rfl⟩
    refine ⟨rest, ?_, by rw [htake _ hname]⟩
    rw [htake _ hname, List.drop_left, ← List.cons_append, after?_append]

/-- A run that has nothing to take does not go on in the closing. -/
theorem takeRun_closing {extended : Bool} {test : Char → Bool} (htest : test ')' = false)
    (fuel : Nat) : takeRun extended test fuel closing = ([], closing) := by
  cases fuel with
  | zero => rfl
  | succ fuel => exact if_neg (by simp [htest])

/-- A run of characters ends where it does, or at the end of the expression. -/
theorem keeps_takeRun {extended : Bool} {test : Char → Bool} (htest : test ')' = false)
    (h : Grows line tied text text' text'') {fuel fuel' fuel'' : Nat}
    (hfuel : text.length ≤ fuel) (hfuel' : text'.length ≤ fuel')
    (hfuel'' : text''.length ≤ fuel'') :
    Keeps line tied (some (takeRun extended test fuel text))
      (some (takeRun extended test fuel' text')) (some (takeRun extended test fuel'' text'')) := by
  have hnil : ∀ fuel, takeRun extended test fuel [] = ([], []) := by rintro (_ | _) <;> rfl
  induction fuel generalizing tied fuel' fuel'' text text' text'' with
  | zero =>
      obtain rfl := List.length_eq_zero_iff.mp (Nat.le_zero.mp hfuel)
      rcases h.nil with rfl | ⟨rfl, rfl, rfl⟩
      · rw [takeRun_closing htest]
        exact .ended
      · simp only [hnil]
        exact .some h
  | succ fuel ih =>
      cases text with
      | nil =>
          rcases h.nil with rfl | ⟨rfl, rfl, rfl⟩
          · rw [takeRun_closing htest]
            exact .ended
          · simp only [hnil]
            exact .some h
      | cons c rest =>
          obtain ⟨rfl, rfl, rfl⟩ := h.cons
          obtain ⟨fuel', rfl⟩ := Nat.exists_eq_add_one_of_ne_zero (Nat.ne_zero_of_lt hfuel')
          obtain ⟨fuel'', rfl⟩ := Nat.exists_eq_add_one_of_ne_zero (Nat.ne_zero_of_lt hfuel'')
          rw [takeRun, takeRun, takeRun]
          split
          · obtain ⟨tied, hskip⟩ := grows_skip line extended rest
            have hlength := fun text => length_skip_le extended text
            have hrun := @ih _ _ _ _ hskip fuel' fuel''
              (Nat.le_trans (hlength _) (Nat.le_of_succ_le_succ hfuel))
              (Nat.le_trans (hlength _) (Nat.le_of_succ_le_succ hfuel'))
              (Nat.le_trans (hlength _) (Nat.le_of_succ_le_succ hfuel''))
            exact (hrun.map (f := fun run ↦ (c :: run.1, run.2)) fun _ _ => rfl).tie
          · exact .some (.unread _)

end Steps

/-! ## Escapes -/

section Escapes

variable {line : Line} {tied extended : Bool} {text text' text'' : List Char}

theorem keeps_hexDigits? (h : Grows line tied text text' text'') (count value : Nat) :
    Keeps line tied (hexDigits? extended count value text) (hexDigits? extended count value text')
      (hexDigits? extended count value text'') := by
  induction count generalizing tied value text text' text'' with
  | zero => exact .some h
  | succ count ih =>
      cases text with
      | nil => exact .none
      | cons c rest =>
          obtain ⟨rfl, rfl, rfl⟩ := h.cons
          obtain ⟨tied, hskip⟩ := grows_skip line extended rest
          exact .bind_same fun digit _ => (ih hskip _).tie

theorem keeps_bracedHex? (h : Grows line tied text text' text'') {fuel fuel' fuel'' : Nat}
    (hfuel' : fuel ≤ fuel') (hfuel'' : fuel ≤ fuel'') (value : Option Nat) :
    Keeps line tied (bracedHex? extended fuel value text) (bracedHex? extended fuel' value text')
      (bracedHex? extended fuel'' value text'') := by
  induction fuel generalizing tied fuel' fuel'' value text text' text'' with
  | zero => exact .none
  | succ fuel ih =>
      obtain ⟨fuel', rfl⟩ := Nat.exists_eq_add_one_of_ne_zero (Nat.ne_zero_of_lt hfuel')
      obtain ⟨fuel'', rfl⟩ := Nat.exists_eq_add_one_of_ne_zero (Nat.ne_zero_of_lt hfuel'')
      cases text with
      | nil => exact .none
      | cons c rest =>
          obtain ⟨rfl, rfl, rfl⟩ := h.cons
          obtain ⟨tied, hskip⟩ := grows_skip line extended rest
          have hread := fun value =>
            ih hskip (Nat.le_of_succ_le_succ hfuel') (Nat.le_of_succ_le_succ hfuel'') value
          exact .ite (fun _ => (Keeps.of_option value hskip).tie) fun _ =>
            .bind_same fun digit _ => (hread _).tie

theorem keeps_hexLiteral? (h : Grows line tied text text' text'') {digits : Nat}
    (hdigits : digits ≠ 0) :
    Keeps line tied (hexLiteral? extended digits text) (hexLiteral? extended digits text')
      (hexLiteral? extended digits text'') := by
  rw [hexLiteral?, hexLiteral?, hexLiteral?]
  obtain ⟨tied', htied, hskip⟩ := h.skip extended
  generalize skip extended text = left, skip extended text' = left',
    skip extended text'' = left'' at hskip
  refine .weaken ?_ htied
  cases left with
  | nil =>
      obtain ⟨digits, rfl⟩ := Nat.exists_eq_succ_of_ne_zero hdigits
      exact .none
  | cons c rest =>
      obtain ⟨rfl, rfl, rfl⟩ := hskip.cons
      by_cases hc : c = '{'
      · subst hc
        obtain ⟨tied, hrest⟩ := grows_skip line extended rest
        refine .bind (keeps_bracedHex? hrest (by simp) (by simp) none).tie ?_
        exact fun code _ _ _ _ hgrows => .bind_same fun _ _ => .some hgrows
      · iterate 3
          split
          next heq => exact absurd (List.cons.inj heq).1 hc
        refine .bind (keeps_hexDigits? (.unread (c :: rest)) digits 0) ?_
        exact fun code _ _ _ _ hgrows => .bind_same fun _ _ => .some hgrows

theorem keeps_braced? (h : Grows line tied text text' text'') {fuel fuel' fuel'' : Nat}
    (hfuel' : fuel ≤ fuel') (hfuel'' : fuel ≤ fuel'') (name : List Char) :
    Keeps line tied (braced? extended fuel name text) (braced? extended fuel' name text')
      (braced? extended fuel'' name text'') := by
  induction fuel generalizing tied fuel' fuel'' name text text' text'' with
  | zero => exact .none
  | succ fuel ih =>
      obtain ⟨fuel', rfl⟩ := Nat.exists_eq_add_one_of_ne_zero (Nat.ne_zero_of_lt hfuel')
      obtain ⟨fuel'', rfl⟩ := Nat.exists_eq_add_one_of_ne_zero (Nat.ne_zero_of_lt hfuel'')
      cases text with
      | nil => exact .none
      | cons c rest =>
          obtain ⟨rfl, rfl, rfl⟩ := h.cons
          obtain ⟨tied, hskip⟩ := grows_skip line extended rest
          have hread := fun name =>
            ih hskip (Nat.le_of_succ_le_succ hfuel') (Nat.le_of_succ_le_succ hfuel'') name
          exact .ite (fun _ => .some (.unread rest)) fun _ => (hread _).tie

theorem keeps_property? (h : Grows line tied text text' text'') (negated : Bool) :
    Keeps line tied (property? extended negated text) (property? extended negated text')
      (property? extended negated text'') := by
  rw [property?, property?, property?]
  obtain ⟨tied', htied, hskip⟩ := h.skip extended
  generalize skip extended text = left, skip extended text' = left',
    skip extended text'' = left'' at hskip
  refine .weaken ?_ htied
  cases left with
  | nil => exact .none
  | cons c rest =>
      obtain ⟨rfl, rfl, rfl⟩ := hskip.cons
      obtain ⟨tied, hrest⟩ := grows_skip line extended rest
      by_cases hback : c = '\\'
      · subst hback
        exact .none
      by_cases hbrace : c = '{'
      · subst hbrace
        have hfuel' : rest.length + 1 ≤ (rest ++ closing).length + 1 := by simp
        have hfuel'' : rest.length + 1 ≤ (rest ++ line.val).length + 1 := by simp
        refine .bind (keeps_braced? hrest hfuel' hfuel'' []).tie ?_
        exact fun chars _ _ _ _ hgrows => .some hgrows
      · split
        next heq => cases heq
        next heq => exact absurd (List.cons.inj heq).1 hback
        next heq => exact absurd (List.cons.inj heq).1 hbrace
        next heq =>
          cases heq
          exact (Keeps.some hrest).tie

theorem keeps_wordAssertionName? (h : Grows line tied text text' text'') {fuel fuel' fuel'' : Nat}
    (hfuel' : fuel ≤ fuel') (hfuel'' : fuel ≤ fuel'') (name : List Char) :
    Keeps line tied (wordAssertionName? extended fuel name text)
      (wordAssertionName? extended fuel' name text')
      (wordAssertionName? extended fuel'' name text'') := by
  induction fuel generalizing tied fuel' fuel'' name text text' text'' with
  | zero => exact .none
  | succ fuel ih =>
      obtain ⟨fuel', rfl⟩ := Nat.exists_eq_add_one_of_ne_zero (Nat.ne_zero_of_lt hfuel')
      obtain ⟨fuel'', rfl⟩ := Nat.exists_eq_add_one_of_ne_zero (Nat.ne_zero_of_lt hfuel'')
      cases text with
      | nil => exact .none
      | cons c rest =>
          obtain ⟨rfl, rfl, rfl⟩ := h.cons
          obtain ⟨tied, hskip⟩ := grows_skip line extended rest
          have hread := fun name =>
            ih hskip (Nat.le_of_succ_le_succ hfuel') (Nat.le_of_succ_le_succ hfuel'') name
          exact .ite (fun _ => .of_option _ (.unread rest)) fun _ =>
            .ite (fun _ => (hread _).tie) fun _ => .none

theorem keeps_wordBoundary? (h : Grows line tied text text' text'') :
    Keeps line tied (wordBoundary? extended text) (wordBoundary? extended text')
      (wordBoundary? extended text'') := by
  cases text with
  | nil =>
      rcases h.nil with rfl | ⟨rfl, rfl, rfl⟩
      · exact .ended
      · exact .some h
  | cons c rest =>
      obtain ⟨rfl, rfl, rfl⟩ := h.cons
      by_cases hbrace : c = '{'
      · subst hbrace
        obtain ⟨tied, hskip⟩ := grows_skip line extended rest
        rw [wordBoundary?, wordBoundary?, wordBoundary?]
        generalize skip extended rest = left, skip extended (rest ++ closing) = left',
          skip extended (rest ++ line.val) = left'' at hskip
        cases left with
        | nil => exact .none
        | cons d inner =>
            obtain ⟨rfl, rfl, rfl⟩ := hskip.cons
            refine .ite (fun _ => ?_) fun _ => .some (.unread ('{' :: rest))
            exact keeps_wordAssertionName? (.unread (d :: inner)) (by simp) (by simp) []
      · have hplain : ∀ rest : List Char, wordBoundary? extended (c :: rest) =
            some (.wordBoundary, c :: rest) := fun rest => by
          rw [wordBoundary?]
          exact fun _ heq => hbrace (List.cons.inj heq).1
        rw [hplain, hplain, hplain]
        exact .some (.unread (c :: rest))

theorem keeps_escape? (h : Grows line tied text text' text'') :
    Keeps line tied (escape? extended text) (escape? extended text') (escape? extended text'') := by
  cases text with
  | nil => exact .none
  | cons c rest =>
      obtain ⟨rfl, rfl, rfl⟩ := h.cons
      have hrest : Grows line true rest (rest ++ closing) (rest ++ line.val) := .unread rest
      simp only [escape?]
      split
      all_goals first
        | exact .some hrest
        | exact keeps_hexLiteral? hrest (by decide)
        | exact keeps_property? hrest _
        | exact .map (keeps_wordBoundary? hrest) fun _ _ => rfl
        | exact .ite (fun _ => .some hrest) fun _ => .of_option _ hrest

end Escapes

/-! ## Bracketed classes -/

section Classes

variable {line : Line} {tied extended : Bool} {text text' text'' rest : List Char}

theorem keeps_setElement? (h : Grows line tied text text' text'') :
    Keeps line tied (setElement? extended text) (setElement? extended text')
      (setElement? extended text'') := by
  cases text with
  | nil => exact .none
  | cons c rest =>
      obtain ⟨rfl, rfl, rfl⟩ := h.cons
      by_cases hback : c = '\\'
      · subst hback
        exact keeps_escape? (.unread rest)
      · rw [setElement?, setElement?, setElement?]
        · exact .some (.unread rest)
        all_goals exact hback

/-- Blanks are skipped, in a comment too. -/
theorem skipBlanks_eq_nil (inComment : Bool) (h : rest.dropWhile isBlank = []) :
    skipBlanks inComment rest = [] := by
  induction rest generalizing inComment with
  | nil => cases inComment <;> rfl
  | cons c rest ih =>
      rw [List.dropWhile_cons] at h
      split at h
      next hc =>
        cases inComment with
        | true => exact ih _ h
        | false =>
            rw [skipBlanks, if_pos hc]
            exact ih _ h
      next => cases h

/-- Skipping starts with the leading blanks. -/
theorem skipBlanks_dropWhile (rest : List Char) :
    skipBlanks false (rest.dropWhile isBlank) = skipBlanks false rest := by
  induction rest with
  | nil => rfl
  | cons c rest ih =>
      rw [List.dropWhile_cons]
      split
      next hc => rw [ih, skipBlanks, if_pos hc]
      next => rfl

/-- A dash joins or not whatever stands behind the text, unless the text ends there. -/
theorem dashJoins_append (extended : Bool) (rest : List Char) :
    (∀ tail, dashJoins extended (rest ++ tail) = dashJoins extended rest) ∨
      dashJoins extended rest = true ∧ skip extended rest = [] := by
  cases extended with
  | false =>
      cases rest with
      | nil => exact .inr ⟨rfl, rfl⟩
      | cons c rest => exact .inl fun tail => rfl
  | true =>
      have hskip := skipBlanks_dropWhile rest
      simp only [dashJoins, if_true, List.dropWhile_append]
      cases hdrop : rest.dropWhile isBlank with
      | nil => exact .inr ⟨rfl, skipBlanks_eq_nil false hdrop⟩
      | cons c left =>
          by_cases hmark : c = '#'
          · subst hmark
            simp only [List.isEmpty_cons, Bool.false_eq_true, if_false, List.cons_append,
              List.dropWhile_append]
            cases hleft : left.dropWhile isBlank with
            | nil =>
                refine .inr ⟨rfl, ?_⟩
                rw [skip, if_pos rfl, ← hskip, hdrop]
                exact skipBlanks_eq_nil true hleft
            | cons d left => exact .inl fun tail => rfl
          · refine .inl fun tail => ?_
            simp [hmark]

theorem keeps_setRange? (h : Grows line tied text text' text'') :
    Keeps line tied (setRange? extended text) (setRange? extended text')
      (setRange? extended text'') := by
  refine .bind (keeps_setElement? h) fun low tied rest rest' rest'' hgrows => ?_
  obtain ⟨tied', htied, hskip⟩ := hgrows.skip extended
  dsimp only
  generalize skip extended rest = left, skip extended rest' = left',
    skip extended rest'' = left'' at hskip
  refine .weaken ?_ htied
  cases left with
  | nil => exact .none
  | cons c rest =>
      obtain ⟨rfl, rfl, rfl⟩ := hskip.cons
      have hplain : Keeps line true (do return (← low.setItem?, c :: rest))
          (do return (← low.setItem?, c :: (rest ++ closing)))
          (do return (← low.setItem?, c :: (rest ++ line.val))) :=
        .bind_same fun item _ => .some (.unread (c :: rest))
      dsimp only
      rcases dashJoins_append extended rest with hjoins | ⟨hjoins, hend⟩
      · rw [hjoins, hjoins]
        refine .ite (fun _ => ?_) fun _ => hplain
        obtain ⟨tied, hrest⟩ := grows_skip line extended rest
        refine .bind (keeps_setElement? hrest).tie fun high _ _ _ _ hgrows => ?_
        dsimp only
        split
        · exact .ite (fun _ => .some hgrows) fun _ => .none
        · exact .none
      · by_cases hdash : c = '-'
        · subst hdash
          rw [hjoins, hend]
          exact .none
        · simp only [beq_false_of_ne hdash, Bool.false_and, Bool.false_eq_true, if_false]
          exact hplain

/-- A class is negated or not whatever stands behind the rest. -/
theorem keeps_negation (h : Grows line tied text text' text'') :
    Keeps line tied (some (negation extended text)) (some (negation extended text'))
      (some (negation extended text'')) := by
  cases text with
  | nil =>
      rcases h.nil with rfl | ⟨rfl, rfl, rfl⟩
      · exact .ended
      · exact .some h
  | cons c rest =>
      obtain ⟨rfl, rfl, rfl⟩ := h.cons
      by_cases hmark : c = '^'
      · subst hmark
        obtain ⟨tied, hrest⟩ := grows_skip line extended rest
        exact (Keeps.some hrest).tie
      · rw [negation, negation, negation]
        · exact .some (.unread (c :: rest))
        all_goals exact fun _ heq => hmark (List.cons.inj heq).1

/-- A class starts with the same items whatever stands behind the rest. -/
theorem keeps_leadingItems (h : Grows line tied text text' text'') :
    Keeps line tied (some (leadingItems extended text)) (some (leadingItems extended text'))
      (some (leadingItems extended text'')) := by
  obtain ⟨tied', left', left'', hrun', hline, hleft⟩ := (@keeps_takeRun _ _ _ _ _ extended
    (· == '-') rfl h _ _ _ (Nat.le_refl _) (Nat.le_refl _) (Nat.le_refl _)).exists_of_some
  rw [leadingItems, leadingItems, leadingItems, hrun']
  refine Keeps.of_tied ?_ fun h => ⟨(hline h).1, by rw [(hline h).2]⟩
  generalize takeRun extended (· == '-') text.length text = run at hleft
  obtain ⟨dashes, left⟩ := run
  dsimp only at hleft
  cases dashes with
  | cons dash dashes => exact .some hleft
  | nil =>
      cases left with
      | nil =>
          rcases hleft.nil with rfl | ⟨rfl, rfl, rfl⟩
          · exact .ended
          · exact .some hleft
      | cons c rest =>
          obtain ⟨rfl, rfl, rfl⟩ := hleft.cons
          by_cases hclose : c = ']'
          · subst hclose
            obtain ⟨tied, hrest⟩ := grows_skip line extended rest
            exact (Keeps.some hrest).tie
          · split
            next heq => exact absurd (List.cons.inj (Prod.mk.inj heq).2).1 hclose
            next heq =>
              cases heq
              split
              next heq => exact absurd (List.cons.inj (Prod.mk.inj heq).2).1 hclose
              next heq =>
                cases heq
                split
                next heq => exact absurd (List.cons.inj (Prod.mk.inj heq).2).1 hclose
                next heq =>
                  cases heq
                  exact .some (.unread (c :: rest))

/-- A class is opened in the same way whatever stands behind the rest. -/
theorem openClass_grows (h : Grows line tied text text' text'') :
    ∃ tied' negated items rest rest' rest'', openClass extended text = (negated, items, rest) ∧
      openClass extended text' = (negated, items, rest') ∧
      (tied' = true → tied = true ∧ openClass extended text'' = (negated, items, rest'')) ∧
      Grows line tied' rest rest' rest'' := by
  obtain ⟨tied₁, htied₁, hskip⟩ := h.skip extended
  obtain ⟨tied₂, left', left'', hmark', hmark'', hleft⟩ :=
    (@keeps_negation _ _ extended _ _ _ hskip).exists_of_some
  obtain ⟨tied', rest', rest'', hitems', hitems'', hrest⟩ :=
    (@keeps_leadingItems _ _ extended _ _ _ hleft).exists_of_some
  refine ⟨tied', (negation extended (skip extended text)).1,
    (leadingItems extended (negation extended (skip extended text)).2).1, _, rest', rest'', rfl, ?_,
    fun h => ?_, hrest⟩
  · simp only [openClass, hmark', hitems']
  · obtain ⟨h, hitems⟩ := hitems'' h
    obtain ⟨h, hmark⟩ := hmark'' h
    exact ⟨htied₁ h, by simp only [openClass, hmark, hitems]⟩

/-- A single character is no item of a class, since the class is not closed behind it. -/
theorem setRange?_singleton (c : Char) : setRange? extended [c] = none := by
  rw [setRange?]
  by_cases hback : c = '\\'
  · subst hback
    rfl
  · rw [setElement?]
    · cases extended <;> rfl
    · exact hback

/-- The character stands for itself between the brackets of a class, on its own and next to another
one like it. -/
def isPlain (c : Char) : Bool :=
  c.isLower || c == ':' || c == '^'

theorem isPlain_ne {c d : Char} (hc : isPlain c) (hd : isPlain d = false) : c ≠ d := by
  rintro rfl
  exact Bool.false_ne_true (hd.symm.trans hc)

/-- The codes of lower-case letters. -/
theorem toNat_of_isLower {c : Char} (h : c.isLower) : 0x61 ≤ c.toNat ∧ c.toNat ≤ 0x7a := by
  obtain ⟨hlow, hhigh⟩ := Bool.and_eq_true_iff.mp h
  exact ⟨UInt32.le_iff_toNat_le.mp (of_decide_eq_true hlow),
    UInt32.le_iff_toNat_le.mp (of_decide_eq_true hhigh)⟩

theorem isBlank_of_isPlain {c : Char} (hc : isPlain c) : isBlank c = false := by
  have hkind : c.isLower ∨ c = ':' ∨ c = '^' := by simpa [isPlain, or_assoc] using hc
  rcases hkind with hlower | rfl | rfl
  · obtain ⟨hlow, hhigh⟩ := toNat_of_isLower hlower
    simp [isBlank]
    omega
  · rfl
  · rfl

/-- Nothing is skipped before a plain character. -/
theorem skip_isPlain (h : text.all isPlain) : skip extended text = text := by
  cases extended with
  | false => rfl
  | true =>
      cases text with
      | nil => rfl
      | cons c rest =>
          obtain ⟨hc, -⟩ := Bool.and_eq_true_iff.mp h
          have hmark : (c == '#') = false := beq_false_of_ne (isPlain_ne hc (by decide))
          simp [skip, skipBlanks, isBlank_of_isPlain hc, hmark]

/-- A plain character is an item of a class. -/
theorem setRange?_isPlain {c d : Char} (hc : isPlain c) (hrest : (d :: rest).all isPlain) :
    setRange? extended (c :: d :: rest) = some (.literal ⟨c, false⟩, d :: rest) := by
  have hback : c ≠ '\\' := isPlain_ne hc (by decide)
  have hdash : d ≠ '-' := isPlain_ne (Bool.and_eq_true_iff.mp hrest).1 (by decide)
  rw [setRange?, setElement?]
  · simp [skip_isPlain hrest, hdash, Term.setItem?]
  · exact hback

/-- Plain characters do not close a class. -/
theorem setItems?_eq_none (h : text.all isPlain) (fuel : Nat) (left : Option (SetOp × SetTerm))
    (items : List SetTerm) : setItems? extended fuel left items text = none := by
  induction text generalizing fuel items with
  | nil =>
      cases fuel with
      | zero => rfl
      | succ fuel => rw [setItems?, skip_isPlain h]
  | cons c rest ih =>
      cases fuel with
      | zero => rfl
      | succ fuel =>
          obtain ⟨hc, hrest⟩ := Bool.and_eq_true_iff.mp h
          have hclose : c ≠ ']' := isPlain_ne hc (by decide)
          have hopen : c ≠ '[' := isPlain_ne hc (by decide)
          rw [setItems?, skip_isPlain h]
          dsimp only
          split
          next => exact absurd rfl hclose
          next => exact absurd rfl hopen
          next =>
            cases rest with
            | nil => rw [setRange?_singleton]; rfl
            | cons d rest =>
                have hop : SetOp.ofChar? c = none := by
                  unfold SetOp.ofChar?
                  split
                  · exact absurd rfl (isPlain_ne (d := '&') hc (by decide))
                  · exact absurd rfl (isPlain_ne (d := '-') hc (by decide))
                  · exact absurd rfl (isPlain_ne (d := '~') hc (by decide))
                  · rfl
                simp only [setOp?, hop, Option.map_none, ite_self, setRange?_isPlain hc hrest]
                exact ih hrest _ _

/-- A class that is opened with plain characters goes on with such. -/
theorem openClass_isPlain {negated : Bool} {items : List SetTerm} (h : text.all isPlain)
    (hclass : openClass extended text = (negated, items, rest)) : rest.all isPlain := by
  have hnegation : ∀ {text}, text.all isPlain → (negation extended text).2.all isPlain := by
    intro text h
    unfold negation
    split
    · have hrest := (Bool.and_eq_true_iff.mp h).2
      rwa [skip_isPlain hrest]
    · exact h
  have hleading : ∀ {text}, text.all isPlain → leadingItems extended text = ([], text) := by
    intro text h
    cases text with
    | nil => rfl
    | cons c rest =>
        have hc := (Bool.and_eq_true_iff.mp h).1
        have hdash : (c == '-') = false := beq_false_of_ne (isPlain_ne hc (by decide))
        rw [leadingItems, List.length_cons, takeRun, if_neg (by simp [hdash])]
        split
        next heq => exact absurd (List.cons.inj (Prod.mk.inj heq).2).1 (isPlain_ne hc (by decide))
        next heq => cases heq; rfl
  rw [openClass, skip_isPlain h] at hclass
  simp only [hleading (hnegation h)] at hclass
  cases hclass
  exact hnegation h

theorem isLower_of_asciiClass? {name : List Char} {ranges : List (Nat × Nat)}
    (h : asciiClass? name = some ranges) : name.all Char.isLower := by
  unfold asciiClass? at h
  split at h
  all_goals first
    | rfl
    | cases h

/-- The mark that negates a named class, and what follows it. -/
theorem eq_append_of_negation {negated : Bool} (h : negation false text = (negated, rest)) :
    text = (if negated then ['^'] else []) ++ rest := by
  unfold negation at h
  split at h <;> cases h <;> rfl

/-- What a named class is written as, behind its bracket. -/
theorem namedClass?_eq_some_iff {item : SetTerm} : namedClass? text = some (item, rest) ↔
    ∃ negated name ranges, asciiClass? name = some ranges ∧ item = .ascii negated ranges ∧
      text = ':' :: ((if negated then ['^'] else []) ++ (name ++ ':' :: ']' :: rest)) := by
  constructor
  · intro h
    obtain ⟨left, hleft, h⟩ := Option.bind_eq_some_iff.mp h
    cases hnegation : negation false left with | mk negated inside
    rw [hnegation] at h
    obtain ⟨⟨name, _⟩, hname, h⟩ := Option.bind_eq_some_iff.mp h
    obtain ⟨ranges, hranges, h⟩ := Option.bind_eq_some_iff.mp h
    cases h
    obtain ⟨-, rfl⟩ := upTo?_eq_some_iff.mp hname
    refine ⟨negated, name, ranges, hranges, rfl, ?_⟩
    rw [after?_eq_some hleft, eq_append_of_negation hnegation]
    rfl
  · rintro ⟨negated, name, ranges, hranges, rfl, rfl⟩
    have hlower := List.all_eq_true.mp (isLower_of_asciiClass? hranges)
    have hname : upTo? ':' [']'] (name ++ ':' :: ']' :: rest) = some (name, rest) :=
      upTo?_eq_some_iff.mpr ⟨fun hmem => absurd (hlower _ hmem) (by decide), rfl⟩
    have hnegation : negation false ((if negated then ['^'] else []) ++
        (name ++ ':' :: ']' :: rest)) = (negated, name ++ ':' :: ']' :: rest) := by
      cases negated with
      | true => rfl
      | false =>
          cases name with
          | nil => cases hranges
          | cons c name =>
              have hc : c ≠ '^' := by
                rintro rfl
                exact absurd (hlower _ List.mem_cons_self) (by decide)
              exact negation.eq_2 _ _ fun _ heq => hc (List.cons.inj heq).1
    simp [namedClass?, after?, hnegation, hname, hranges]

/-- A named class does not depend on what stands behind it. If what stands behind a text makes it a
named class, the text has only plain characters. -/
theorem namedClass?_append (text : List Char) :
    (∀ tail, namedClass? (text ++ tail) =
        (namedClass? text).map fun (item, rest) ↦ (item, rest ++ tail)) ∨
      text.all isPlain ∧ namedClass? text = none := by
  cases hclass : namedClass? text with
  | some found =>
      refine .inl fun tail => ?_
      obtain ⟨negated, name, ranges, hranges, hitem, rfl⟩ := namedClass?_eq_some_iff.mp hclass
      exact namedClass?_eq_some_iff.mpr ⟨negated, name, ranges, hranges, hitem, by simp⟩
  | none =>
      by_cases hplain : text.all isPlain
      · exact .inr ⟨hplain, rfl⟩
      refine .inl fun tail => Option.eq_none_iff_forall_ne_some.mpr fun ⟨item, left⟩ hfound => ?_
      obtain ⟨negated, name, ranges, hranges, -, htext⟩ := namedClass?_eq_some_iff.mp hfound
      have hnone : ∀ rest, text ≠ ':' :: ((if negated then ['^'] else []) ++
          (name ++ ':' :: ']' :: rest)) := fun rest heq => by
        have hsome := namedClass?_eq_some_iff.mpr ⟨negated, name, ranges, hranges, rfl, heq⟩
        cases hclass.symm.trans hsome
      generalize hhead : ':' :: ((if negated then ['^'] else []) ++ (name ++ [':'])) = head
      have hallPlain : head.all isPlain := by
        have hname : name.all isPlain := by
          refine List.all_eq_true.mpr fun c hc => ?_
          simp [isPlain, List.all_eq_true.mp (isLower_of_asciiClass? hranges) c hc]
        rw [← hhead]
        cases negated <;> simpa [isPlain] using hname
      have hsplit : text ++ tail = head ++ ']' :: left := by simp [htext, ← hhead]
      rcases List.append_eq_append_iff.mp hsplit with ⟨_, rfl, -⟩ | ⟨rest, rfl, hrest⟩
      · rw [List.all_append, Bool.and_eq_true_iff] at hallPlain
        exact hplain hallPlain.1
      · cases rest with
        | nil => exact hplain (by rwa [List.append_nil])
        | cons c rest =>
            cases hrest
            exact hnone rest (by simp [← hhead])

/-- An operator between sets does not depend on what stands behind it. -/
theorem setOp?_append (c d : Char) (rest tail : List Char) :
    setOp? (c :: d :: rest ++ tail) =
      (setOp? (c :: d :: rest)).map fun (kind, rest) ↦ (kind, rest ++ tail) := by
  simp only [List.cons_append, setOp?]
  split
  · cases SetOp.ofChar? c <;> rfl
  · rfl

theorem keeps_setItems? (h : Grows line tied text text' text'') {fuel fuel' fuel'' : Nat}
    (hfuel' : fuel ≤ fuel') (hfuel'' : fuel ≤ fuel'') (left : Option (SetOp × SetTerm))
    (items : List SetTerm) :
    Keeps line tied (setItems? extended fuel left items text)
      (setItems? extended fuel' left items text')
      (setItems? extended fuel'' left items text'') := by
  induction fuel generalizing tied fuel' fuel'' left items text text' text'' with
  | zero => exact .none
  | succ fuel ih =>
      obtain ⟨fuel', rfl⟩ := Nat.exists_eq_add_one_of_ne_zero (Nat.ne_zero_of_lt hfuel')
      obtain ⟨fuel'', rfl⟩ := Nat.exists_eq_add_one_of_ne_zero (Nat.ne_zero_of_lt hfuel'')
      have hless' : fuel ≤ fuel' := Nat.le_of_succ_le_succ hfuel'
      have hless'' : fuel ≤ fuel'' := Nat.le_of_succ_le_succ hfuel''
      obtain ⟨tied', htied, hskip⟩ := h.skip extended
      rw [setItems?, setItems?, setItems?]
      generalize skip extended text = inside, skip extended text' = inside',
        skip extended text'' = inside'' at hskip
      refine .weaken ?_ htied
      cases inside with
      | nil => exact .none
      | cons c rest =>
          obtain ⟨rfl, rfl, rfl⟩ := hskip.cons
          dsimp only
          split
          · exact .some (.unread rest)
          · obtain ⟨tied', negated, inner, inside, inside', inside'', hclass, hclass', hclass'',
              hgrows⟩ := @openClass_grows line _ extended _ _ _ (.unread rest)
            rcases namedClass?_append rest with hnamed | ⟨hplain, hnamed⟩
            · rw [hnamed, hnamed]
              cases namedClass? rest with
              | some found => exact ih (.unread found.2) hless' hless'' _ _
              | none =>
                  simp only [Option.map_none, hclass, hclass']
                  refine Keeps.of_tied ?_ fun h => ⟨rfl, by rw [(hclass'' h).2]⟩
                  exact .bind (ih hgrows hless' hless'' none inner) fun set _ _ _ _ hgrows =>
                    ih hgrows hless' hless'' left _
            · -- The text ends within the name, and so before the class is closed.
              rw [hnamed]
              simp only [hclass, setItems?_eq_none (openClass_isPlain hplain hclass)]
              exact .none
          · cases rest with
            | nil =>
                rw [setRange?_singleton]
                exact .none
            | cons d rest =>
                rw [← List.cons_append, ← List.cons_append, setOp?_append, setOp?_append]
                cases setOp? (c :: d :: rest) with
                | some found => exact ih (.unread found.2) hless' hless'' _ _
                | none =>
                    exact .bind (keeps_setRange? (.unread (c :: d :: rest)))
                      fun item _ _ _ _ hgrows => ih hgrows hless' hless'' _ _

theorem keeps_bracketed? (h : Grows line tied text text' text'') :
    Keeps line tied (bracketed? extended text) (bracketed? extended text')
      (bracketed? extended text'') := by
  obtain ⟨tied', negated, items, rest, rest', rest'', hclass, hclass', hclass'', hgrows⟩ :=
    @openClass_grows line _ extended _ _ _ h
  rw [bracketed?, bracketed?, bracketed?, hclass, hclass']
  refine Keeps.of_tied ?_ fun h => ⟨(hclass'' h).1, by rw [(hclass'' h).2]⟩
  obtain ⟨hlength', hlength''⟩ := h.length_le
  refine .bind (keeps_setItems? hgrows (Nat.succ_le_succ hlength') (Nat.succ_le_succ hlength'')
    none items) ?_
  exact fun set _ _ _ _ hgrows => .some hgrows

end Classes

/-! ## Repetitions -/

section Repetitions

variable {line : Line} {tied extended : Bool} {text text' text'' : List Char}

theorem keeps_count? (h : Grows line tied text text' text'') :
    Keeps line tied (count? extended text) (count? extended text') (count? extended text'') := by
  have hlength : ∀ text : List Char, (text.dropWhile isBlank).length ≤ text.length :=
    fun text => (List.dropWhile_sublist _).length_le
  obtain ⟨tied₁, htied, hdrop⟩ := h.dropWhile (p := isBlank) (by decide)
  obtain ⟨tied₂, rest', rest'', hrun', hrun'', hrest⟩ := (@keeps_takeRun _ _ _ _ _ extended
    Char.isDigit (by decide) hdrop _ _ _ (hlength text) (hlength text')
      (hlength text'')).exists_of_some
  rw [count?, count?, count?, hrun']
  refine Keeps.of_tied ?_ fun h => ⟨htied (hrun'' h).1, by rw [(hrun'' h).2]⟩
  generalize takeRun extended Char.isDigit text.length (text.dropWhile isBlank) = run at hrest
  have hblanks := @keeps_takeRun _ _ _ _ _ extended isBlank (by decide) hrest _ _ _ (Nat.le_refl _)
    (Nat.le_refl _) (Nat.le_refl _)
  exact .ite (fun _ => .none) fun _ => hblanks.map (f := fun run ↦ (_, run.2)) fun _ _ => rfl

theorem keeps_upperBound? (h : Grows line tied text text' text'') (low : Nat) :
    Keeps line tied (upperBound? extended low text) (upperBound? extended low text')
      (upperBound? extended low text'') := by
  cases text with
  | nil => exact .none
  | cons c rest =>
      obtain ⟨rfl, rfl, rfl⟩ := h.cons
      refine .ite (fun _ => ?_) fun _ => .some (.unread (c :: rest))
      obtain ⟨tied, hskip⟩ := grows_skip line extended rest
      generalize skip extended rest = left, skip extended (rest ++ closing) = left',
        skip extended (rest ++ line.val) = left'' at hskip
      cases left with
      | nil => exact .none
      | cons c rest =>
          obtain ⟨rfl, rfl, rfl⟩ := hskip.cons
          refine .ite (fun _ => .some (.unread (c :: rest))) fun _ =>
            .bind (keeps_count? (.unread (c :: rest))) fun _ _ _ _ _ hgrows => ?_
          exact .ite (fun _ => .some hgrows) fun _ => .none

theorem keeps_bounds? (h : Grows line tied text text' text'') :
    Keeps line tied (bounds? extended text) (bounds? extended text') (bounds? extended text'') := by
  obtain ⟨tied', htied, hskip⟩ := h.skip extended
  refine .weaken (.bind (keeps_count? hskip) fun low _ _ _ _ hgrows => ?_) htied
  refine .bind (keeps_upperBound? hgrows low) fun high _ _ _ _ hgrows => ?_
  refine .after hgrows (List.cons_ne_nil _ _) fun rest => ?_
  obtain ⟨tied, hrest⟩ := grows_skip line extended rest
  exact (Keeps.some hrest).tie

/-- The mark of a lazy repetition does not depend on what stands behind it. -/
theorem Grows.dropLazyMark (h : Grows line tied text text' text'') : ∃ tied',
    (tied' = true → tied = true) ∧
      Grows line tied' (dropLazyMark text) (dropLazyMark text') (dropLazyMark text'') := by
  cases text with
  | nil =>
      rcases h.nil with rfl | ⟨rfl, rfl, rfl⟩
      · exact ⟨false, nofun, .ended _⟩
      · exact ⟨true, id, .swallowed⟩
  | cons c rest =>
      obtain ⟨rfl, rfl, rfl⟩ := h.cons
      by_cases hmark : c = '?'
      · subst hmark
        exact ⟨true, id, .unread rest⟩
      · rw [Regex.dropLazyMark, Regex.dropLazyMark, Regex.dropLazyMark]
        · exact ⟨true, id, .unread (c :: rest)⟩
        all_goals exact fun _ heq => hmark (List.cons.inj heq).1

end Repetitions

/-! ## Groups -/

section Groups

variable {line : Line} {tied : Bool} {text text' text'' : List Char}

theorem keeps_flagItems? (h : Grows line tied text text' text'') (items : List FlagItem) :
    Keeps line tied (flagItems? items text) (flagItems? items text') (flagItems? items text'') := by
  induction text generalizing tied items text' text'' with
  | nil => exact .none
  | cons c rest ih =>
      obtain ⟨rfl, rfl, rfl⟩ := h.cons
      refine .ite (fun _ => .ite (fun _ => .none) fun _ => .some (.unread (c :: rest))) fun _ => ?_
      dsimp only
      split
      · exact .none
      · exact .ite (fun _ => .none) fun _ => ih (.unread rest) _

theorem keeps_groupName? (text : List Char) : Keeps line true (groupName? text)
    (groupName? (text ++ closing)) (groupName? (text ++ line.val)) := by
  cases hname : upTo? '>' [] text with
  | none =>
      rw [groupName?, hname]
      exact .none
  | some found =>
      obtain ⟨name, rest⟩ := found
      obtain ⟨hmark, rfl⟩ := upTo?_eq_some_iff.mp hname
      have hname : ∀ tail, upTo? '>' [] (name ++ '>' :: ([] ++ rest) ++ tail) =
          some (name, rest ++ tail) := fun tail => upTo?_eq_some_iff.mpr ⟨hmark, by simp⟩
      rw [groupName?, groupName?, groupName?, hname, hname, upTo?_eq_some_iff.mpr ⟨hmark, rfl⟩]
      cases name with
      | nil => exact .none
      | cons c name => exact .ite (fun _ => .some (.unread rest)) fun _ => .none

/-- A text looks around or not whatever stands behind its second character. -/
theorem looksAround_append (c d : Char) (rest tail : List Char) :
    looksAround (c :: d :: rest ++ tail) = looksAround (c :: d :: rest) := by
  simp (disch := simp) only [looksAround, List.any_cons, List.any_nil, after?_append_of_length_le,
    Option.isSome_map]

/-- A group can start with a question mark only if more than a single character follows, unless
that is a colon. -/
theorem groupHead?_pair {c : Char} (h : c ≠ ':') : groupHead? ['?', c] = none := by
  rw [groupHead?, if_pos (beq_self_eq_true '?')]
  split
  · rfl
  by_cases hangle : c = '<'
  · subst hangle
    rfl
  have hname : (after? ['P', '<'] [c] <|> after? ['<'] [c]) = none := by
    simp [after?, Ne.symm hangle]
  have hflags : flagItems? [] [c] = none ∨ c = ')' := by
    by_cases hclose : c = ')'
    · exact .inr hclose
    refine .inl ?_
    simp only [flagItems?, h, hclose, beq_iff_eq, or_self, Bool.or_eq_true, if_false]
    split
    · rfl
    · split <;> rfl
  rw [hname]
  rcases hflags with hflags | rfl
  · simp [hflags]
  · rfl

theorem keeps_groupHead? (h : Grows line tied text text' text'') :
    Keeps line tied (groupHead? text) (groupHead? text') (groupHead? text'') := by
  match text with
  | [] =>
      rcases h.nil with rfl | ⟨rfl, rfl, rfl⟩
      · exact .ended
      · exact .some h
  | [c] =>
      obtain ⟨rfl, rfl, rfl⟩ := h.cons
      by_cases hmark : c = '?'
      · subst hmark
        exact .none
      · have hmark : ¬ (c == '?') = true := by simpa using hmark
        rw [groupHead?, groupHead?, groupHead?, if_neg hmark, if_neg hmark, if_neg hmark]
        exact .some (.unread [c])
  | [c, d] =>
      obtain ⟨rfl, rfl, rfl⟩ := h.cons
      by_cases hmark : c = '?'
      · subst hmark
        by_cases hcolon : d = ':'
        · subst hcolon
          exact .some (.unread [])
        · rw [groupHead?_pair hcolon]
          exact .none
      · have hmark : ¬ (c == '?') = true := by simpa using hmark
        rw [groupHead?, groupHead?, groupHead?, if_neg hmark, if_neg hmark, if_neg hmark]
        exact .some (.unread [c, d])
  | c :: d :: e :: rest =>
      obtain ⟨rfl, rfl, rfl⟩ := h.cons
      refine .ite (fun _ => ?_) fun _ => .some (.unread (c :: d :: e :: rest))
      have hname : ∀ tail, (after? ['P', '<'] (d :: e :: rest ++ tail) <|>
          after? ['<'] (d :: e :: rest ++ tail)) =
            (after? ['P', '<'] (d :: e :: rest) <|> after? ['<'] (d :: e :: rest)).map
              (· ++ tail) := by
        intro tail
        rw [after?_append_of_length_le (by simp), after?_append_of_length_le (by simp)]
        cases after? ['P', '<'] (d :: e :: rest) <;> rfl
      rw [looksAround_append, looksAround_append, hname, hname]
      refine .ite (fun _ => .none) fun _ => ?_
      cases after? ['P', '<'] (d :: e :: rest) <|> after? ['<'] (d :: e :: rest) with
      | some rest => exact .map (keeps_groupName? rest) fun _ _ => rfl
      | none =>
          refine .bind (keeps_flagItems? (.unread (d :: e :: rest)) []) ?_
          intro items tied rest rest' rest'' hgrows
          cases rest with
          | nil => exact .none
          | cons c rest =>
              obtain ⟨rfl, rfl, rfl⟩ := hgrows.cons
              exact .ite (fun _ => .ite (fun _ => .none) fun _ => .some (.unread rest))
                fun _ => .some (.unread rest)

end Groups

/-! ## Expressions -/

theorem keeps_primitive? {line : Line} {tied extended : Bool} {text text' text'' : List Char}
    (h : Grows line tied text text' text'') : Keeps line tied (primitive? extended text)
      (primitive? extended text') (primitive? extended text'') := by
  cases text with
  | nil => exact .none
  | cons c rest =>
      obtain ⟨rfl, rfl, rfl⟩ := h.cons
      simp only [primitive?]
      split
      · exact keeps_escape? (.unread rest)
      all_goals exact .some (.unread rest)

/-- What is read of an expression by itself is read of it with the closing behind it too, and with a
line behind it where a comment swallows the closing. -/
theorem keeps_expression? {line : Line} {tied : Bool} {text text' text'' : List Char}
    (h : Grows line tied text text' text'') {fuel fuel' fuel'' : Nat} (hfuel' : fuel ≤ fuel')
    (hfuel'' : fuel ≤ fuel'') (names : List String) (g : OpenGroup) :
    Keeps line tied (expression? fuel names g text) (expression? fuel' names g text')
      (expression? fuel'' names g text'') := by
  induction fuel generalizing tied fuel' fuel'' names g text text' text'' with
  | zero => exact .none
  | succ fuel ih =>
      obtain ⟨fuel', rfl⟩ := Nat.exists_eq_add_one_of_ne_zero (Nat.ne_zero_of_lt hfuel')
      obtain ⟨fuel'', rfl⟩ := Nat.exists_eq_add_one_of_ne_zero (Nat.ne_zero_of_lt hfuel'')
      have hread : ∀ {tied text text' text''}, Grows line tied text text' text'' → ∀ names g,
          Keeps line tied (expression? fuel names g text) (expression? fuel' names g text')
            (expression? fuel'' names g text'') := fun h =>
        ih h (Nat.le_of_succ_le_succ hfuel') (Nat.le_of_succ_le_succ hfuel'')
      obtain ⟨tied', htied, hskip⟩ := h.skip g.extended
      rw [expression?, expression?, expression?]
      generalize skip g.extended text = left, skip g.extended text' = left',
        skip g.extended text'' = left'' at hskip
      refine .weaken ?_ htied
      cases left with
      | nil =>
          rcases hskip.nil with rfl | ⟨rfl, rfl, rfl⟩
          · exact .ended
          · exact .some hskip
      | cons c rest =>
          obtain ⟨rfl, rfl, rfl⟩ := hskip.cons
          obtain ⟨_, -, hlazy⟩ := (@Grows.unread line rest).dropLazyMark
          dsimp only
          split
          · exact .some (.unread _)
          · exact hread (.unread rest) names _
          · exact .bind (keeps_bracketed? (.unread rest)) fun term _ _ _ _ hgrows =>
              hread hgrows names _
          · exact .bind_same fun parts _ => (hread hlazy names _).tie
          · exact .bind_same fun parts _ => (hread hlazy names _).tie
          · exact .bind_same fun parts _ => (hread hlazy names _).tie
          · refine .bind (keeps_bounds? (.unread rest)) fun bounds _ _ _ _ hgrows => ?_
            obtain ⟨_, htied, hlazy⟩ := hgrows.dropLazyMark
            exact .bind_same fun parts _ => (hread hlazy names _).weaken htied
          · obtain ⟨_, hinside⟩ := grows_skip line g.extended rest
            refine .bind (keeps_groupHead? hinside).tie fun head _ _ _ _ hgrows => ?_
            cases head with
            | flags items => exact hread hgrows names _
            | unnamed captures items =>
                refine .bind (hread hgrows names _) fun body _ _ _ _ hgrows => ?_
                exact .after hgrows (List.cons_ne_nil _ _) fun rest => hread (.unread rest) _ _
            | named name =>
                refine .ite (fun _ => .none) fun _ => ?_
                refine .bind (hread hgrows _ _) fun body _ _ _ _ hgrows => ?_
                exact .after hgrows (List.cons_ne_nil _ _) fun rest => hread (.unread rest) _ _
          · exact .bind (keeps_primitive? (.unread (c :: rest))) fun term _ _ _ _ hgrows =>
              hread hgrows names _

/-- What stands behind an expression between anchors closes it, unless the expression ends in a
comment: then nothing that stands behind it on its line is read. -/
theorem closed_or_swallowed {fuel fuel' : Nat} {names : List String} {g : OpenGroup}
    {text : List Char} {found : Term × List String} (hfuel : fuel ≤ fuel')
    (h : expression? fuel names g text = some (found, [])) :
    expression? fuel' names g (text ++ closing) = some (found, closing) ∨
      ∀ line : Line, ∀ fuel' ≥ fuel,
        expression? fuel' names g (text ++ line.val) = some (found, []) := by
  have hclosing : ∀ line : Line, ∀ fuel'' ≥ fuel,
      expression? fuel' names g (text ++ closing) = some (found, closing) ∨
        expression? fuel'' names g (text ++ line.val) = some (found, []) := by
    intro line fuel'' hfuel''
    obtain ⟨tied, rest', rest'', hread', hline, hgrows⟩ :=
      keeps_expression? (.unread text) hfuel hfuel'' names g found [] h
    rcases hgrows.nil with rfl | ⟨rfl, rfl, rfl⟩
    · exact .inl hread'
    · exact .inr (hline rfl).2
  by_cases hclosed : expression? fuel' names g (text ++ closing) = some (found, closing)
  · exact .inl hclosed
  · exact .inr fun line fuel'' hfuel'' => (hclosing line fuel'' hfuel'').resolve_left hclosed

end RecordSchema.Regex
