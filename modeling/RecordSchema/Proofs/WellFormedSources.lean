import Mathlib.Data.Option.Basic
import RecordSchema.Proofs.WholeMatch

/-!
# Well-formed sources

A source that is a regular expression by itself makes a pattern under any flags, as long as it is
not too large, unless it ends in a comment (`Pattern.exists_compile_iff`). Between its anchors a
source is read as it is by itself, or a comment swallows what closes it. And what it means there is
under other flags; but these do not decide whether it means anything (`Term.rel_meaningUnder?`).
-/

namespace RecordSchema

namespace Regex

open Unicode

/-! ## Meanings under other flags

Only `unicode` decides which classes are admitted. Without it a class must not have characters
beyond ASCII, and there the sets under the two flags agree, since only letters of ASCII are folded.
-/

section Meanings

variable {f g : Flags} {s t : CodeRanges}

/-- Without Unicode the two sets have the same code points beyond ASCII. -/
def SameBeyondAscii (unicode : Bool) (s t : CodeRanges) : Prop :=
  unicode = false → ∀ code, 0x80 ≤ code → code ≤ maxCode → s.contains code = t.contains code

/-- One of the steps that fail together gives related results, or both do not give any. -/
theorem rel_bind {α β γ δ : Type} {r : α → β → Prop} {q : γ → δ → Prop} {a : Option α}
    {b : Option β} {next : α → Option γ} {next' : β → Option δ} (h : Option.Rel r a b)
    (hnext : ∀ x y, r x y → Option.Rel q (next x) (next' y)) :
    Option.Rel q (a >>= next) (b >>= next') := by
  cases h with
  | none => exact .none
  | some hxy => exact hnext _ _ hxy

theorem SameBeyondAscii.foldAndNegate (hflags : f.unicode = g.unicode)
    (h : SameBeyondAscii f.unicode s t) (negated : Bool) :
    SameBeyondAscii f.unicode (Regex.foldAndNegate f negated s)
      (Regex.foldAndNegate g negated t) := by
  intro hoff code hcode hmax
  have hfold : ∀ (flags : Flags) (set : CodeRanges), flags.unicode = false →
      (Regex.foldAndNegate flags negated set).contains code = (negated ^^ set.contains code) := by
    intro flags set hoff
    cases hignore : flags.ignoreCase <;> cases negated <;>
      simp [Regex.foldAndNegate, hignore, hoff, CodeRanges.contains_complement hmax,
        CodeRanges.contains_foldCase_false hcode]
  rw [hfold f s hoff, hfold g t (hflags ▸ hoff), h hoff code hcode hmax]

theorem SameBeyondAscii.isAscii_eq (h : SameBeyondAscii false s t) : isAscii s = isAscii t := by
  rw [Bool.eq_iff_iff, isAscii, isAscii, List.all_eq_true, List.all_eq_true]
  refine forall₂_congr fun i hi => ?_
  rw [List.mem_range] at hi
  rw [h rfl (128 + i) (by omega) (by rw [maxCode]; omega)]

theorem SameBeyondAscii.admitted? (hflags : f.unicode = g.unicode)
    (h : SameBeyondAscii f.unicode s t) : Option.Rel (SameBeyondAscii f.unicode)
      (Regex.admitted? f s) (Regex.admitted? g t) := by
  rw [Regex.admitted?, Regex.admitted?, ← hflags]
  cases hunicode : f.unicode with
  | true => exact .some (by rintro ⟨⟩)
  | false =>
      rw [hunicode] at h
      rw [h.isAscii_eq]
      split
      · exact .some h
      · exact .none

theorem rel_shorthandRanges? (hflags : f.unicode = g.unicode) (negated : Bool)
    (kind : Shorthand) : Option.Rel (SameBeyondAscii f.unicode)
      (shorthandRanges? f negated kind) (shorthandRanges? g negated kind) := by
  rw [shorthandRanges?, shorthandRanges?, ← hflags]
  exact SameBeyondAscii.admitted? hflags fun _ _ _ _ => rfl

theorem rel_propertyRanges? (hflags : f.unicode = g.unicode) (negated : Bool)
    (query : PropertyQuery) : Option.Rel (SameBeyondAscii f.unicode)
      (propertyRanges? f negated query) (propertyRanges? g negated query) := by
  rw [propertyRanges?, propertyRanges?, ← hflags]
  cases hunicode : f.unicode with
  | false => exact .none
  | true =>
      cases query.ranges? with
      | none => exact .none
      | some set => exact .some (by rintro ⟨⟩)

theorem rel_dotRanges? (hflags : f.unicode = g.unicode) :
    Option.Rel (SameBeyondAscii f.unicode) (dotRanges? f) (dotRanges? g) := by
  cases hunicode : f.unicode with
  | false =>
      rw [dotRanges?, dotRanges?, ← hflags, hunicode]
      exact .none
  | true =>
      have hsome : ∀ flags : Flags, flags.unicode = true →
          ∃ set, dotRanges? flags = some set := by
        intro flags hunicode
        rw [dotRanges?, hunicode]
        split
        · contradiction
        · split
          · exact ⟨_, rfl⟩
          · split <;> exact ⟨_, rfl⟩
      obtain ⟨set, hset⟩ := hsome f hunicode
      obtain ⟨set', hset'⟩ := hsome g (hflags ▸ hunicode)
      rw [hset, hset']
      exact .some (by rintro ⟨⟩)

theorem classCode?_eq (hflags : f.unicode = g.unicode) (l : Literal) :
    l.classCode? f = l.classCode? g := by
  rw [Literal.classCode?, Literal.classCode?, hflags]

mutual

/-- A class is admitted or not whatever the flags are apart from `unicode`. -/
theorem SetTerm.rel_ranges? (hflags : f.unicode = g.unicode) (set : SetTerm) :
    Option.Rel (SameBeyondAscii f.unicode) (set.ranges? f) (set.ranges? g) := by
  have hsame : ∀ set : CodeRanges, SameBeyondAscii f.unicode set set := fun _ _ _ _ _ => rfl
  have hrefl : ∀ set? : Option CodeRanges,
      Option.Rel (SameBeyondAscii f.unicode) set? set? := by
    rintro (_ | set)
    · exact .none
    · exact .some (hsame set)
  cases set with
  | literal l =>
      rw [SetTerm.ranges?, SetTerm.ranges?, classCode?_eq hflags]
      exact hrefl _
  | range low high =>
      rw [SetTerm.ranges?, SetTerm.ranges?, classCode?_eq hflags, classCode?_eq hflags]
      exact hrefl _
  | ascii negated ranges =>
      rw [SetTerm.ranges?, SetTerm.ranges?]
      exact ((hsame _).foldAndNegate hflags negated).admitted? hflags
  | property negated query => exact rel_propertyRanges? hflags negated query
  | shorthand negated kind => exact rel_shorthandRanges? hflags negated kind
  | bracketed negated set =>
      rw [SetTerm.ranges?, SetTerm.ranges?]
      refine rel_bind (SetTerm.rel_ranges? hflags set) fun s t h => ?_
      exact (h.foldAndNegate hflags negated).admitted? hflags
  | union items =>
      rw [SetTerm.ranges?, SetTerm.ranges?]
      exact rel_rangesOfItems? hflags items
  | op kind left right =>
      rw [SetTerm.ranges?, SetTerm.ranges?]
      refine rel_bind (SetTerm.rel_ranges? hflags left) fun s t hleft => ?_
      refine rel_bind (SetTerm.rel_ranges? hflags right) fun s' t' hright => ?_
      refine .some fun hoff code hcode hmax => ?_
      have hfoldedLeft := hleft.foldAndNegate hflags false hoff code hcode hmax
      have hfoldedRight := hright.foldAndNegate hflags false hoff code hcode hmax
      cases kind <;> simp only [SetOp.combine, CodeRanges.contains_inter hmax,
        CodeRanges.contains_diff hmax, CodeRanges.contains_union, hfoldedLeft, hfoldedRight]

theorem rel_rangesOfItems? (hflags : f.unicode = g.unicode) (items : List SetTerm) :
    Option.Rel (SameBeyondAscii f.unicode) (rangesOfItems? f items)
      (rangesOfItems? g items) := by
  cases items with
  | nil => exact .some fun _ _ _ _ => rfl
  | cons item items =>
      rw [rangesOfItems?, rangesOfItems?]
      refine rel_bind (SetTerm.rel_ranges? hflags item) fun s t hitem => ?_
      refine rel_bind (rel_rangesOfItems? hflags items) fun s' t' hitems => ?_
      exact .some fun hoff code hcode hmax => by
        rw [CodeRanges.contains_union, CodeRanges.contains_union, hitem hoff code hcode hmax,
          hitems hoff code hcode hmax]

end

/-- Two meanings are of expressions behind which Unicode is on or off alike. -/
def SameUnicode (found found' : Regex × Flags) : Prop :=
  found.2.unicode = found'.2.unicode

theorem unicode_update (hflags : f.unicode = g.unicode) (on : Bool)
    (items : List FlagItem) : (f.update on items).unicode = (g.update on items).unicode := by
  induction items generalizing on f g with
  | nil => exact hflags
  | cons item items ih =>
      cases item with
      | negation => exact ih hflags false
      | flag f =>
          refine ih ?_ on
          cases f <;> first | exact hflags | rfl

mutual

/-- An expression means something or not whatever the flags are apart from `unicode`. -/
theorem Term.rel_meaningUnder? {f g : Flags} (hflags : f.unicode = g.unicode)
    (term : Term) :
    Option.Rel SameUnicode (term.meaningUnder? f) (term.meaningUnder? g) := by
  have hset : ∀ {set? set?' : Option CodeRanges},
      Option.Rel (SameBeyondAscii f.unicode) set? set?' → Option.Rel SameUnicode
        (do return (.char (charsOf (← set?)), f)) (do return (.char (charsOf (← set?')), g)) :=
    fun h => rel_bind h fun _ _ _ => .some hflags
  cases term with
  | empty => exact .some hflags
  | flags items => exact .some (unicode_update hflags true items)
  | literal l =>
      rw [Term.meaningUnder?, Term.meaningUnder?, Literal.ranges?, Literal.ranges?, Literal.char?,
        Literal.char?, hflags]
      split
      · exact .none
      · exact .some hflags
  | dot => exact hset (rel_dotRanges? hflags)
  | assertion a => exact .some hflags
  | property negated query => exact hset (rel_propertyRanges? hflags negated query)
  | shorthand negated kind => exact hset (rel_shorthandRanges? hflags negated kind)
  | bracketed negated set => exact hset ((SetTerm.bracketed negated set).rel_ranges? hflags)
  | repetition body min max =>
      rw [Term.meaningUnder?, Term.meaningUnder?]
      exact rel_bind (Term.rel_meaningUnder? hflags body) fun _ _ h => .some h
  | group captures items body =>
      rw [Term.meaningUnder?, Term.meaningUnder?]
      refine rel_bind (Term.rel_meaningUnder? (unicode_update hflags true items) body) ?_
      exact fun _ _ _ => .some hflags
  | alternation branches =>
      rw [Term.meaningUnder?, Term.meaningUnder?]
      refine rel_bind (rel_meaningsUnder? hflags branches) fun _ _ h => .some h
  | concat parts =>
      rw [Term.meaningUnder?, Term.meaningUnder?]
      refine rel_bind (rel_meaningsUnder? hflags parts) fun _ _ h => .some h

theorem rel_meaningsUnder? {f g : Flags} (hflags : f.unicode = g.unicode)
    (terms : List Term) : Option.Rel (fun found found' ↦ found.2.unicode = found'.2.unicode)
      (meaningsUnder? f terms) (meaningsUnder? g terms) := by
  cases terms with
  | nil => exact .some hflags
  | cons term terms =>
      rw [meaningsUnder?, meaningsUnder?]
      refine rel_bind (Term.rel_meaningUnder? hflags term) fun _ _ h => ?_
      exact rel_bind (rel_meaningsUnder? h terms) fun _ _ h => .some h

end

/-- An expression that means something does so under all flags with the same `unicode`. -/
theorem Term.isSome_meaning?_iff (hflags : f.unicode = g.unicode) (term : Term) :
    (term.meaning? f).isSome ↔ (term.meaning? g).isSome := by
  rw [Term.meaning?, Term.meaning?, Option.isSome_map, Option.isSome_map]
  have hrel := Term.rel_meaningUnder? hflags term
  generalize term.meaningUnder? f = found, term.meaningUnder? g = found' at hrel ⊢
  cases hrel <;> simp

end Meanings

end Regex

namespace Pattern

open Regex

/-! ## Making patterns -/

section Making

variable {source flags : String} {term : Term}

/-- A source that means something by itself has a program under flags, unless it ends in a comment
or takes too much room between anchors. -/
theorem exists_program?_iff {flags : List Char} (hflags : flagError? [] flags = none)
    (hterm : Term.parse? source = some term) (hmeaning : (term.meaning? .initial).isSome) :
    (∃ program, program? source flags = some program) ↔
      ¬ EndsInComment source ∧ term.nesting + 2 ≤ maxNesting ∧
        term.size (flagsInForce flags) ≤ maxProgramSize := by
  have hunicode : (flagsInForce flags).unicode = Flags.initial.unicode := rfl
  have hunder := (Term.isSome_meaning?_iff hunicode term).mpr hmeaning
  obtain ⟨meaning, hmeaning⟩ := Option.isSome_iff_exists.mp hmeaning
  obtain ⟨body, hbody⟩ := Option.isSome_iff_exists.mp hunder
  have hprogram : ∀ program, program? source flags = some program ↔ ∃ anchored,
      Term.parse? (anchoredText source flags) = some anchored ∧
        term.size (flagsInForce flags) ≤ maxProgramSize ∧
          anchored.meaning? .initial = some program := by
    intro program
    simp [program?, hterm, hmeaning, Option.bind_eq_some_iff, Option.guard_eq_some']
  constructor
  · rintro ⟨program, h⟩
    obtain ⟨anchored, hanchored, hsize, -⟩ := (hprogram program).mp h
    obtain ⟨hclosed, hnesting, -⟩ := (parse?_anchoredText hflags hterm).mp hanchored
    exact ⟨hclosed, hnesting, hsize⟩
  · rintro ⟨hclosed, hnesting, hsize⟩
    have hanchored := (parse?_anchoredText hflags hterm).mpr ⟨hclosed, hnesting, rfl⟩
    have hmeans := meaning?_anchored hflags term
    rw [hbody, Option.map_some] at hmeans
    exact ⟨_, (hprogram _).mpr ⟨_, hanchored, hsize, hmeans⟩⟩

/-- A source that is a regular expression by itself makes a pattern under all flags that are
supported and of which none stands twice, exactly if it does not end in a comment and is not too
large between anchors. -/
theorem exists_compile_iff (hnodup : flags.toList.Nodup)
    (hsupported : ∀ c ∈ flags.toList, c ∈ supportedFlags)
    (hterm : Term.parse? source = some term) (hmeaning : (term.meaning? .initial).isSome) :
    (∃ pattern, compile source flags = .ok pattern) ↔
      ¬ EndsInComment source ∧ term.nesting + 2 ≤ maxNesting ∧
        term.size (flagsInForce flags.toList) ≤ maxProgramSize := by
  have hflags : flagError? [] flags.toList = none :=
    flagError?_eq_none_iff.mpr ⟨hnodup, fun c hc => ⟨hsupported c hc, List.not_mem_nil⟩⟩
  rw [← exists_program?_iff hflags hterm hmeaning]
  constructor
  · rintro ⟨pattern, h⟩
    obtain ⟨rfl, rfl, -⟩ := compile_eq_ok.mp h
    exact ⟨pattern.program, pattern.program_eq⟩
  · rintro ⟨program, h⟩
    exact ⟨⟨source, flags, program, h⟩, compile_eq_ok.mpr ⟨rfl, rfl, hflags⟩⟩

end Making

end Pattern

/-! ## Remarks

The letter a with a remark behind it is an expression by itself, whether a line break ends the
remark or not. Only if there is one does it make a pattern.
-/

open Regex

namespace Remarks

/-- The letter a, and a remark up to the end of the source. -/
def openSource : String :=
  "(?x)a # note"

/-- The letter a, and a remark up to the end of its line. -/
def closedSource : String :=
  "(?x)a # note\n"

/-- What is read of the first source. -/
def openTerm : Term :=
  (Term.parse? openSource).get (by decide +kernel)

/-- What is read of the second source. -/
def closedTerm : Term :=
  (Term.parse? closedSource).get (by decide +kernel)

theorem parse?_openSource : Term.parse? openSource = some openTerm :=
  (Option.some_get _).symm

theorem parse?_closedSource : Term.parse? closedSource = some closedTerm :=
  (Option.some_get _).symm

/-- The remark swallows the end of the pattern. -/
theorem compile_openSource (pattern : Pattern) : Pattern.compile openSource "" ≠ .ok pattern := by
  intro h
  obtain ⟨hsource, hflags, -⟩ := Pattern.compile_eq_ok.mp h
  have hsome := pattern.program_eq
  have hnone : (Pattern.program? openSource "".toList).isNone := by decide +kernel
  rw [hsource, hflags] at hsome
  rw [hsome] at hnone
  cases hnone

end Remarks

/-- With the line break the source makes a pattern under a flag, and does not end in a comment;
without it, it does. -/
theorem Remarks.endsInComment_openSource :
    "i".toList.Nodup ∧ (∀ c ∈ "i".toList, c ∈ Pattern.supportedFlags) ∧
    Term.parse? closedSource = some closedTerm ∧ (closedTerm.meaning? .initial).isSome ∧
    Term.parse? openSource = some openTerm ∧ (openTerm.meaning? .initial).isSome ∧
    (∃ pattern, Pattern.compile closedSource "i" = .ok pattern) ∧
    ¬ Pattern.EndsInComment closedSource ∧ Pattern.EndsInComment openSource := by
  have hnodup : "i".toList.Nodup := by decide
  have hsupported : ∀ c ∈ "i".toList, c ∈ Pattern.supportedFlags := by simp [Pattern.supportedFlags]
  have hclosed : (closedTerm.meaning? .initial).isSome := by decide +kernel
  have hopen : (openTerm.meaning? .initial).isSome := by decide +kernel
  have hcompile : ∃ pattern, Pattern.compile closedSource "i" = .ok pattern := by
    have hprogram : (Pattern.program? closedSource ['i']).isSome := by decide +kernel
    obtain ⟨program, hprogram⟩ := Option.isSome_iff_exists.mp hprogram
    exact ⟨⟨closedSource, "i", program, hprogram⟩, Pattern.compile_eq_ok.mpr ⟨rfl, rfl, rfl⟩⟩
  obtain ⟨hends, -, -⟩ :=
    (Pattern.exists_compile_iff hnodup hsupported parse?_closedSource hclosed).mp hcompile
  refine ⟨hnodup, hsupported, parse?_closedSource, hclosed, parse?_openSource, hopen, hcompile,
    hends, ?_⟩
  by_contra hends
  obtain ⟨pattern, hpattern⟩ :=
    (@Pattern.exists_compile_iff openSource "" openTerm List.nodup_nil (by simp) parse?_openSource
      hopen).mpr ⟨hends, by decide +kernel, by decide +kernel⟩
  exact compile_openSource pattern hpattern

/-- A source that is an expression by itself, and not too large, does not always make a pattern. -/
theorem Remarks.not_forall_exists_compile :
    ¬ ∀ (source flags : String) (term : Term), flags.toList.Nodup →
      (∀ c ∈ flags.toList, c ∈ Pattern.supportedFlags) → Term.parse? source = some term →
      (term.meaning? .initial).isSome → term.nesting + 2 ≤ maxNesting →
      term.size (Pattern.flagsInForce flags.toList) ≤ maxProgramSize →
      ∃ pattern, Pattern.compile source flags = .ok pattern := by
  intro h
  obtain ⟨pattern, hpattern⟩ := h openSource "" openTerm List.nodup_nil (by simp) parse?_openSource
    (by decide +kernel) (by decide +kernel) (by decide +kernel)
  exact compile_openSource pattern hpattern

end RecordSchema
