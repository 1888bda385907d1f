import Mathlib.Data.List.Nodup
import RecordSchema.Proofs.Enclosed
import RecordSchema.Proofs.Matching
import RecordSchema.Proofs.Parsed

/-!
# Whole texts

A pattern matches a text exactly if its source matches all of it (`Pattern.isFullMatch_iff_spans`).
The program of a pattern comes from its source between anchors. That text is read as the expression
of the source in a group of its own, between the assertions for the two ends of a text
(`Pattern.eq_of_parse?_anchoredText`), and the flags in front of it are in force in the group.
-/

namespace RecordSchema

namespace Regex

/-! ## Between the ends of a text -/

section Ends

variable {input : Array Char} {r s : Regex} {i j k : Nat}

theorem spans_empty_iff : Spans input .empty i j ↔ i = j := by
  constructor
  · rintro ⟨⟩
    rfl
  · rintro rfl
    exact .empty i

theorem spans_seq_iff :
    Spans input (.seq r s) i k ↔ ∃ j, Spans input r i j ∧ Spans input s j k := by
  constructor
  · intro h
    cases h with
    | seq hr hs => exact ⟨_, hr, hs⟩
  · rintro ⟨j, hr, hs⟩
    exact .seq hr hs

theorem spans_look_iff {holds : Look} : Spans input (.look holds) i j ↔
    i = j ∧ i ≤ input.size ∧ holds (before input i) input[i]? = true := by
  constructor
  · intro h
    cases h with
    | look hle hholds => exact ⟨rfl, hle, hholds⟩
  · rintro ⟨rfl, hle, hholds⟩
    exact .look hle hholds

/-- Only before the first character of a text there is none. -/
theorem holds_textStart_iff {flags : Flags} (h : i ≤ input.size) :
    Assertion.textStart.holds flags (before input i) input[i]? = true ↔ i = 0 := by
  rw [Assertion.holds, before]
  split
  next hzero => simp [hzero]
  next hpos => simp [hpos, show i - 1 < input.size by omega]

/-- Only behind the last character of a text there is none. -/
theorem holds_textEnd_iff {flags : Flags} (h : i ≤ input.size) :
    Assertion.textEnd.holds flags (before input i) input[i]? = true ↔ i = input.size := by
  rw [Assertion.holds, Option.isNone_iff_eq_none, Array.getElem?_eq_none_iff]
  omega

/-- Between the assertions for its ends an expression matches a whole text or nothing of it. -/
theorem spans_ends_iff (flags : Flags) :
    Spans input (concat [.look (Assertion.textStart.holds flags), r,
        .look (Assertion.textEnd.holds flags)]) i j ↔
      i = 0 ∧ j = input.size ∧ Spans input r 0 input.size := by
  simp only [concat, List.foldr_cons, List.foldr_nil, spans_seq_iff, spans_look_iff,
    spans_empty_iff]
  constructor
  · rintro ⟨_, ⟨rfl, hi, hstart⟩, k, hr, _, ⟨rfl, hk, hend⟩, rfl⟩
    obtain rfl := (holds_textStart_iff hi).mp hstart
    obtain rfl := (holds_textEnd_iff hk).mp hend
    exact ⟨rfl, rfl, hr⟩
  · rintro ⟨rfl, rfl, hr⟩
    have hstart := (@holds_textStart_iff input 0 flags (Nat.zero_le _)).mpr rfl
    have hend := (@holds_textEnd_iff input input.size flags (Nat.le_refl _)).mpr rfl
    exact ⟨0, ⟨rfl, Nat.zero_le _, hstart⟩, _, hr, _, ⟨rfl, Nat.le_refl _, hend⟩, rfl⟩

end Ends

end Regex

namespace Pattern

open Regex

/-- What a source means by itself under the flags of a pattern. -/
def sourceMeaning? (source : String) (flags : List Char) : Option Regex := do
  let term ← Term.parse? source
  term.meaning? (flagsInForce flags)

/-! ## Flags in front of a source -/

/-- The letters of the flags that are written inline. -/
def inlineLetters : List Char :=
  ['i', 'm', 's']

/-- The switch for a flag that is written inline. -/
def switch : Char → FlagItem
  | 'i' => .flag .ignoreCase
  | 'm' => .flag .multiLine
  | _ => .flag .dotAll

section Switches

variable {c : Char} {flags letters rest : List Char}

theorem mem_inlineLetters : c ∈ inlineLetters ↔ c = 'i' ∨ c = 'm' ∨ c = 's' := by
  simp [inlineLetters]

/-- The flags written inline have letters of their own, each of which stands once. -/
theorem inlineFlags_of_flagError? (h : flagError? [] flags = none) :
    (inlineFlags flags).Nodup ∧ ∀ c ∈ inlineFlags flags, c ∈ inlineLetters := by
  obtain ⟨hnodup, hsupported⟩ := flagError?_eq_none_iff.mp h
  refine ⟨hnodup.filter _, fun c hc => ?_⟩
  obtain ⟨hmem, hunicode⟩ := List.mem_filter.mp hc
  have hletter := (hsupported c hmem).1
  simp only [supportedFlags, List.mem_cons, List.not_mem_nil, or_false] at hletter
  rw [mem_inlineLetters]
  rcases hletter with rfl | rfl | rfl | rfl
  all_goals simp_all

theorem switch_inj {d : Char} (hc : c ∈ inlineLetters) (hd : d ∈ inlineLetters)
    (h : switch c = switch d) : c = d := by
  rw [mem_inlineLetters] at hc hd
  rcases hc with rfl | rfl | rfl <;> rcases hd with rfl | rfl | rfl
  all_goals first
    | rfl
    | cases h

theorem flagItems?_letter (hc : c ∈ inlineLetters) (items : List FlagItem) :
    flagItems? items (c :: rest) =
      if switch c ∈ items then none else flagItems? (switch c :: items) rest := by
  rcases mem_inlineLetters.mp hc with rfl | rfl | rfl <;> rfl

/-- Letters of flags are read as their switches. -/
theorem flagItems?_letters (hletters : ∀ c ∈ letters, c ∈ inlineLetters) {items : List FlagItem}
    (hitems : (items.reverse ++ letters.map switch).Nodup) (hhead : items.head? ≠ some .negation) :
    flagItems? items (letters ++ ')' :: rest) =
      some (items.reverse ++ letters.map switch, ')' :: rest) := by
  induction letters generalizing items with
  | nil =>
      rw [List.nil_append, flagItems?, if_pos (by decide), if_neg hhead, List.map_nil,
        List.append_nil]
  | cons c letters ih =>
      obtain ⟨hc, htail⟩ := List.forall_mem_cons.mp hletters
      have hitems' : ((switch c :: items).reverse ++ letters.map switch).Nodup := by
        simpa using hitems
      have hnew : switch c ∉ items := fun hmem =>
        (List.nodup_append.mp hitems).2.2 _ (List.mem_reverse.mpr hmem) _ List.mem_cons_self rfl
      have hhead' : (switch c :: items).head? ≠ some .negation := by
        rcases mem_inlineLetters.mp hc with rfl | rfl | rfl <;> simp [switch]
      rw [List.cons_append, flagItems?_letter hc, if_neg hnew, ih htail hitems' hhead']
      simp

/-- The switches turn their flags on and leave the others as they are. -/
theorem update_switches (force : Flags) (hletters : ∀ c ∈ letters, c ∈ inlineLetters) :
    force.update true (letters.map switch) =
      { force with
        ignoreCase := force.ignoreCase || letters.contains 'i'
        multiLine := force.multiLine || letters.contains 'm'
        dotAll := force.dotAll || letters.contains 's' } := by
  induction letters generalizing force with
  | nil => simp [Flags.update]
  | cons c letters ih =>
      obtain ⟨hc, htail⟩ := List.forall_mem_cons.mp hletters
      rcases mem_inlineLetters.mp hc with rfl | rfl | rfl
      all_goals simp [switch, Flags.update, Flags.set, ih _ htail]

/-- Behind the switches in front of a source its flags are in force. -/
theorem update_inlineFlags (h : flagError? [] flags = none) :
    Flags.initial.update true ((inlineFlags flags).map switch) = flagsInForce flags := by
  rw [update_switches _ (inlineFlags_of_flagError? h).2]
  simp [flagsInForce, inlineFlags, Flags.initial]

/-- None of the switches says whether blanks count. -/
theorem flagState?_switches (hletters : ∀ c ∈ letters, c ∈ inlineLetters) :
    flagState? .extended true (letters.map switch) = none := by
  induction letters with
  | nil => rfl
  | cons c letters ih =>
      obtain ⟨hc, htail⟩ := List.forall_mem_cons.mp hletters
      rcases mem_inlineLetters.mp hc with rfl | rfl | rfl <;> exact ih htail

/-- A group of letters switches their flags. -/
theorem groupHead?_letters (hnodup : letters.Nodup) (hletters : ∀ c ∈ letters, c ∈ inlineLetters)
    (hne : letters ≠ []) :
    groupHead? ('?' :: (letters ++ ')' :: rest)) = some (.flags (letters.map switch), rest) := by
  have hitems : flagItems? [] (letters ++ ')' :: rest) =
      some (letters.map switch, ')' :: rest) := by
    refine flagItems?_letters hletters (List.Nodup.map_on ?_ hnodup) nofun
    exact fun c hc d hd h => switch_inj (hletters c hc) (hletters d hd) h
  cases letters with
  | nil => exact absurd rfl hne
  | cons c letters =>
      rw [groupHead?, hitems]
      rcases mem_inlineLetters.mp (hletters c List.mem_cons_self) with rfl | rfl | rfl <;> rfl

/-- Behind a group of letters an expression is read on. -/
theorem expression?_letters (hnodup : letters.Nodup) (hletters : ∀ c ∈ letters, c ∈ inlineLetters)
    (hne : letters ≠ []) (fuel : Nat) (names : List String) :
    expression? (fuel + 1) names (.start false) ('(' :: '?' :: (letters ++ ')' :: rest)) =
      expression? fuel names ⟨[], [.flags (letters.map switch)], false⟩ rest := by
  rw [expression?]
  change (groupHead? ('?' :: (letters ++ ')' :: rest)) >>= _) = _
  rw [groupHead?_letters hnodup hletters hne]
  simp only [Option.bind_eq_bind, Option.bind_some, flagState?_switches hletters]
  rfl

end Switches

/-! ## Reading a source between anchors -/

section Reading

variable {source : String} {flags text : List Char} {term : Term}

/-- What stands in front of an expression between anchors, behind the switches for the flags. -/
def opening : List Char :=
  ['\\', 'A', '(', '?', ':']

/-- The part of an anchored expression that switches the flags, if there are any to switch. -/
def switches (flags : List Char) : List Term :=
  if (inlineFlags flags).isEmpty then [] else [.flags ((inlineFlags flags).map switch)]

/-- What is read as a whole is read up to the end of the text, and is not nested too deep. -/
theorem parse?_eq_some_iff : Term.parse? source = some term ↔ term.nesting ≤ maxNesting ∧
    ∃ names, expression? (source.toList.length + 1) [] (.start false) source.toList =
      some ((term, names), []) := by
  rw [Term.parse?]
  constructor
  · intro h
    split at h
    next found names hfound =>
      split at h
      next hnesting =>
        cases h
        exact ⟨hnesting, names, hfound⟩
      next => cases h
    next => cases h
  · rintro ⟨hnesting, names, hread⟩
    simp only [hread, if_pos hnesting]

/-- The source ends in a comment: what is written behind it on its last line is not read. -/
def EndsInComment (source : String) : Prop :=
  ∀ line : String, '\n' ∉ line.toList → Term.parse? (source ++ line) = Term.parse? source

/-- The closing behind a source is left when the source has been read, unless the source ends in a
comment, which swallows the closing. -/
theorem expression?_closing (h : Term.parse? source = some term) : ∃ names rest,
    (∀ fuel > source.toList.length, expression? fuel [] (.start false)
      (source.toList ++ closing) = some ((term, names), rest)) ∧
    (EndsInComment source ∧ rest = [] ∨ ¬ EndsInComment source ∧ rest = closing) := by
  obtain ⟨hnesting, names, hsource⟩ := parse?_eq_some_iff.mp h
  by_cases hswallowed : ∀ line : Line, ∀ fuel ≥ source.toList.length + 1,
      expression? fuel [] (.start false) (source.toList ++ line.val) = some ((term, names), [])
  · refine ⟨names, [], fun fuel hfuel => hswallowed ⟨closing, by decide⟩ fuel hfuel,
      .inl ⟨fun line hline => ?_, rfl⟩⟩
    rw [h]
    exact parse?_eq_some_iff.mpr ⟨hnesting, names, by
      simpa using hswallowed ⟨line.toList, hline⟩ ((source ++ line).toList.length + 1) (by simp)⟩
  · have hclosed : ∀ fuel > source.toList.length, expression? fuel [] (.start false)
        (source.toList ++ closing) = some ((term, names), closing) := fun fuel hfuel =>
      (closed_or_swallowed hfuel hsource).resolve_right hswallowed
    refine ⟨names, closing, hclosed, .inr ⟨fun hcomment => ?_, rfl⟩⟩
    have hparse := (hcomment (String.ofList closing) (by decide)).trans h
    obtain ⟨-, names', hread⟩ := parse?_eq_some_iff.mp hparse
    have hlength : (source.toList ++ closing).length + 1 > source.toList.length := by
      rw [List.length_append]
      omega
    rw [String.toList_append, String.toList_ofList, hclosed _ hlength] at hread
    cases hread

/-- Between anchors an expression is read as a group behind the assertion for the start of a text,
if a parenthesis is left to close the group. -/
theorem expression?_anchored {fuel : Nat} {names : List String} {rest : List Char}
    (h : expression? (fuel + 2) [] (.start false) (text ++ closing) = some ((term, names), rest))
    (parts : List Term) :
    expression? (fuel + 4) [] ⟨[], parts, false⟩ (opening ++ (text ++ closing)) =
      (after? [')'] rest >>= fun rest => expression? (fuel + 2) names
        ⟨[], .group false [] term :: .assertion .textStart :: parts, false⟩ rest) := by
  have hgroup : expression? (fuel + 4) [] ⟨[], parts, false⟩ (opening ++ (text ++ closing)) =
      (expression? (fuel + 2) [] (.start false) (text ++ closing) >>= fun read =>
        after? [')'] read.2 >>= fun rest =>
          expression? (fuel + 2) read.1.2
            ⟨[], .group false [] read.1.1 :: .assertion .textStart :: parts, false⟩ rest) := rfl
  rw [hgroup, h]
  rfl

/-- Behind the switches for the flags, a source is read between its anchors. -/
theorem expression?_anchoredText (source : String) (hflags : flagError? [] flags = none) :
    ∃ fuel, source.toList.length < fuel + 2 ∧
      expression? ((anchoredText source flags).toList.length + 1) [] (.start false)
          (anchoredText source flags).toList =
        expression? (fuel + 4) [] ⟨[], (switches flags).reverse, false⟩
          (opening ++ (source.toList ++ closing)) := by
  obtain ⟨hnodup, hletters⟩ := inlineFlags_of_flagError? hflags
  rw [switches]
  split
  next hnone =>
      have htext : (anchoredText source flags).toList =
          opening ++ (source.toList ++ closing) := by
        simp [anchoredText, hnone, opening, closing]
      have hfuel : (anchoredText source flags).toList.length + 1 =
          source.toList.length + 5 + 4 := by
        simp [htext, opening, closing]
      exact ⟨source.toList.length + 5, by omega, by rw [hfuel, htext]; rfl⟩
  next hsome =>
      have htext : (anchoredText source flags).toList =
          '(' :: '?' :: (inlineFlags flags ++ ')' :: (opening ++ (source.toList ++ closing))) := by
        simp [anchoredText, hsome, opening, closing]
      have hfuel : (anchoredText source flags).toList.length + 1 =
          source.toList.length + (inlineFlags flags).length + 7 + 4 + 1 := by
        simp [htext, opening, closing]
        omega
      refine ⟨source.toList.length + (inlineFlags flags).length + 7, by omega, ?_⟩
      rw [hfuel, htext, expression?_letters hnodup hletters (by simpa using hsome)]
      rfl

/-- The parts of an anchored expression, as they are read. -/
theorem close_anchored (flags : List Char) (term : Term) :
    OpenGroup.close ⟨[], .assertion .textEnd :: .group false [] term :: .assertion .textStart ::
        (switches flags).reverse, false⟩ =
      .concat (switches flags ++
        [.assertion .textStart, .group false [] term, .assertion .textEnd]) := by
  rw [switches]
  split <;> rfl

/-- Between anchors an expression is nested two deeper. -/
theorem nesting_anchored (flags : List Char) (term : Term) :
    (Term.concat (switches flags ++
      [.assertion .textStart, .group false [] term, .assertion .textEnd])).nesting =
        term.nesting + 2 := by
  rw [switches]
  split <;> simp [Term.nesting, nestingTerms]

/-- A source that is read by itself is read between anchors as a group between the assertions for
the ends of a text, behind the switches for the flags. It is not read there if it ends in a comment,
or if it is nested too deep for the group. -/
theorem parse?_anchoredText {anchored : Term} (hflags : flagError? [] flags = none)
    (hterm : Term.parse? source = some term) :
    Term.parse? (anchoredText source flags) = some anchored ↔
      ¬ EndsInComment source ∧ term.nesting + 2 ≤ maxNesting ∧
        anchored = .concat (switches flags ++
          [.assertion .textStart, .group false [] term, .assertion .textEnd]) := by
  obtain ⟨names, rest, hsource, hend⟩ := expression?_closing hterm
  obtain ⟨fuel, hfuel, htext⟩ := expression?_anchoredText source hflags
  rw [parse?_eq_some_iff, htext, expression?_anchored (hsource _ hfuel)]
  rcases hend with ⟨hcomment, rfl⟩ | ⟨hclosed, rfl⟩
  · -- A comment at the end of the source has swallowed the closing, and the group stays open.
    constructor
    · rintro ⟨-, _, hread⟩
      cases hread
    · exact fun h => absurd hcomment h.1
  · have hread : (after? [')'] closing >>= fun rest => expression? (fuel + 2) names
        ⟨[], .group false [] term :: .assertion .textStart :: (switches flags).reverse, false⟩
          rest) =
          some ((.concat (switches flags ++
            [.assertion .textStart, .group false [] term, .assertion .textEnd]), names), []) := by
      rw [← close_anchored]
      rfl
    rw [hread]
    constructor
    · rintro ⟨hnesting, _, heq⟩
      cases heq
      exact ⟨hclosed, nesting_anchored flags term ▸ hnesting, rfl⟩
    · rintro ⟨-, hnesting, rfl⟩
      exact ⟨(nesting_anchored flags term).symm ▸ hnesting, names, rfl⟩

end Reading

/-! ## Matching a text as a whole -/

section Matching

variable {source : String} {flags : List Char}

/-- An expression in a group between the assertions for the ends of a text means what it means by
itself, between the ends of a text. -/
theorem meaningsUnder?_ends (force : Flags) (term : Term) :
    meaningsUnder? force [.assertion .textStart, .group false [] term, .assertion .textEnd] =
      (term.meaning? force).map fun body ↦
        ([.look (Assertion.textStart.holds force), body,
          .look (Assertion.textEnd.holds force)], force) := by
  simp only [meaningsUnder?, Term.meaningUnder?, Term.meaning?, Flags.update, Option.bind_eq_bind,
    Option.bind_some]
  cases term.meaningUnder? force <;> rfl

/-- Between anchors an expression means what it means by itself under its flags, between the ends
of a text. -/
theorem meaning?_anchored (hflags : flagError? [] flags = none) (term : Term) :
    (Term.concat (switches flags ++
        [.assertion .textStart, .group false [] term, .assertion .textEnd])).meaning? .initial =
      (term.meaning? (flagsInForce flags)).map fun body ↦
        Regex.concat ((switches flags).map (fun _ ↦ .empty) ++
          [.look (Assertion.textStart.holds (flagsInForce flags)), body,
            .look (Assertion.textEnd.holds (flagsInForce flags))]) := by
  have hforce := update_inlineFlags hflags
  rw [Term.meaning?, Term.meaningUnder?, switches]
  split
  next hnone =>
      rw [List.isEmpty_iff.mp hnone, List.map_nil, Flags.update] at hforce
      rw [hforce, List.nil_append, meaningsUnder?_ends]
      cases term.meaning? (flagsInForce flags) <;> rfl
  next =>
      rw [List.singleton_append, meaningsUnder?, Term.meaningUnder?, hforce]
      simp only [Option.bind_eq_bind, Option.bind_some, meaningsUnder?_ends]
      cases term.meaning? (flagsInForce flags) <;> rfl

/-- What is between anchors matches a whole text where the source does under its flags, and no other
part of a text. -/
theorem spans_of_meaning?_anchored {term : Term} {program : Regex}
    (hflags : flagError? [] flags = none)
    (h : (Term.concat (switches flags ++
      [.assertion .textStart, .group false [] term, .assertion .textEnd])).meaning? .initial =
        some program) :
    ∃ body, term.meaning? (flagsInForce flags) = some body ∧ ∀ input i j,
      Spans input program i j ↔ i = 0 ∧ j = input.size ∧ Spans input body 0 input.size := by
  rw [meaning?_anchored hflags] at h
  obtain ⟨body, hbody, rfl⟩ := Option.map_eq_some_iff.mp h
  refine ⟨body, hbody, fun input i j => ?_⟩
  rw [← spans_ends_iff (flagsInForce flags), switches]
  split
  · rfl
  · simp [concat, spans_seq_iff, spans_empty_iff]

/-- The program of a source under flags matches a whole text where the source does under its flags,
and no other part of a text. -/
theorem spans_of_program? {program : Regex} (hflags : flagError? [] flags = none)
    (h : program? source flags = some program) :
    ∃ body, sourceMeaning? source flags = some body ∧ ∀ input i j,
      Spans input program i j ↔ i = 0 ∧ j = input.size ∧ Spans input body 0 input.size := by
  obtain ⟨term, hterm, h⟩ := Option.bind_eq_some_iff.mp h
  obtain ⟨-, -, h⟩ := Option.bind_eq_some_iff.mp h
  obtain ⟨anchored, hanchored, h⟩ := Option.bind_eq_some_iff.mp h
  obtain ⟨-, -, hmeaning⟩ := Option.bind_eq_some_iff.mp h
  obtain ⟨-, -, rfl⟩ := (parse?_anchoredText hflags hterm).mp hanchored
  obtain ⟨body, hbody, hspans⟩ := spans_of_meaning?_anchored hflags hmeaning
  exact ⟨body, Option.bind_eq_some_iff.mpr ⟨term, hterm, hbody⟩, hspans⟩

/-- A pattern matches a text exactly if its source, under its flags, has a match that starts before
the first character of the text and ends behind the last one. -/
theorem isFullMatch_iff_spans {source flags : String} {pattern : Pattern}
    (h : compile source flags = .ok pattern) :
    ∃ body, sourceMeaning? source flags.toList = some body ∧ ∀ text : String,
      pattern.isFullMatch text ↔ Spans text.toList.toArray body 0 text.toList.length := by
  obtain ⟨rfl, rfl, hflags⟩ := compile_eq_ok.mp h
  obtain ⟨body, hbody, hspans⟩ := spans_of_program? hflags pattern.program_eq
  refine ⟨body, hbody, fun text => ?_⟩
  rw [isFullMatch, isFound_iff]
  constructor
  · rintro ⟨i, j, -, h⟩
    obtain ⟨-, -, hwhole⟩ := (hspans _ i j).mp h
    simpa using hwhole
  · intro hwhole
    refine ⟨0, _, Nat.zero_le _, (hspans _ 0 _).mpr ⟨rfl, rfl, ?_⟩⟩
    simpa using hwhole

end Matching

end Pattern

/-! ## Lines

In several lines the pattern finds its first branch on a line of its own, but a text with another
line does not match.
-/

namespace Lines

/-- The letter a on a line of its own, or the letter b in either case. -/
def pattern : Pattern :=
  ⟨"^a$|(?i-m:b)", "mu", (Pattern.program? "^a$|(?i-m:b)" ['m', 'u']).get (by decide +kernel),
    (Option.some_get _).symm⟩

theorem compile_pattern : Pattern.compile "^a$|(?i-m:b)" "mu" = .ok pattern :=
  Pattern.compile_eq_ok.mpr ⟨rfl, rfl, rfl⟩

end Lines

/-- A line by itself matches, and so does a capital letter, but not a line among others. -/
theorem Lines.isFullMatch_pattern :
    Pattern.compile "^a$|(?i-m:b)" "mu" = .ok pattern ∧
    (∃ body, Pattern.sourceMeaning? "^a$|(?i-m:b)" "mu".toList = some body ∧ ∀ text : String,
      pattern.isFullMatch text ↔
        Regex.Spans text.toList.toArray body 0 text.toList.length) ∧
    pattern.isFullMatch "a" ∧ pattern.isFullMatch "B" ∧ ¬ pattern.isFullMatch "a\nb" :=
  ⟨compile_pattern, Pattern.isFullMatch_iff_spans compile_pattern, by decide +kernel,
    by decide +kernel, by decide +kernel⟩

end RecordSchema
