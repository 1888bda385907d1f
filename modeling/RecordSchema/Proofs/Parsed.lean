import RecordSchema.FieldType.Parser
import RecordSchema.Proofs.Grammar
import RecordSchema.Proofs.Outcome

/-!
# What is read as a field type

Each part of the reader accepts the texts that a part of the grammar spells, and gives what the
derivation stands for (`parse_eq_ok_iff_derivation`).
-/

namespace RecordSchema

open Outcome Text

/-! ## Patterns -/

namespace Pattern

/-- Flags have nothing wrong with them if they are supported ones and each stands once. -/
theorem flagError?_eq_none_iff {seen flags : List Char} :
    flagError? seen flags = none ↔
      flags.Nodup ∧ ∀ flag ∈ flags, flag ∈ supportedFlags ∧ flag ∉ seen := by
  induction flags generalizing seen with
  | nil => simp [flagError?]
  | cons flag rest ih =>
      rw [flagError?, List.nodup_cons, List.forall_mem_cons]
      by_cases hsupported : flag ∈ supportedFlags
      · by_cases hseen : flag ∈ seen
        · simp [hsupported, hseen]
        · simp only [List.contains_eq_mem, hsupported, hseen, ih, decide_true, decide_false,
            Bool.not_true, Bool.false_eq_true, if_false, not_false_eq_true, and_self, true_and]
          constructor
          · intro h
            refine ⟨⟨fun hmem => (h.2 flag hmem).2 List.mem_cons_self, h.1⟩, fun other hother => ?_⟩
            exact ⟨(h.2 other hother).1, fun hmem =>
              (h.2 other hother).2 (List.mem_cons_of_mem _ hmem)⟩
          · intro h
            refine ⟨h.1.2, fun other hother => ⟨(h.2 other hother).1, fun hmem => ?_⟩⟩
            rcases List.mem_cons.mp hmem with rfl | hmem
            · exact h.1.1 hother
            · exact (h.2 other hother).2 hmem
      · simp [hsupported]

/-- A pattern is compiled from its source and its flags, if nothing is wrong with the flags. -/
theorem compile_eq_ok {source flags : String} {pattern : Pattern} :
    compile source flags = .ok pattern ↔
      pattern.source = source ∧ pattern.flags = flags ∧ flagError? [] flags.toList = none := by
  rw [compile]
  constructor
  · intro h
    split at h
    · cases h
    next hflags =>
        split at h
        · cases h
          exact ⟨rfl, rfl, hflags⟩
        · cases h
  · intro h
    obtain ⟨rfl, rfl, hflags⟩ := h
    simp only [hflags]
    split
    next program hprogram => exact congrArg _ (eq_of_written rfl rfl)
    next hnone => cases hnone.symm.trans pattern.program_eq

end Pattern

namespace FieldType

open Grammar

variable {text : List Char}

/-! ## Cuts -/

/-- A last character is dropped where it stands. -/
theorem dropLast?_eq_some {last : Char} {init : List Char} :
    dropLast? last text = some init ↔ text = init ++ [last] := by
  rw [dropLast?]
  constructor
  · intro h
    split at h
    next hlast =>
        obtain ⟨front, rfl⟩ := List.getLast?_eq_some_iff.mp hlast
        rw [List.dropLast_concat, Option.some.injEq] at h
        rw [h]
    next => cases h
  · rintro rfl
    rw [List.getLast?_concat, List.dropLast_concat, if_pos rfl]

/-- What stands between two characters is found there. -/
theorem between?_eq_some {first last : Char} {inner : List Char} :
    between? first last text = some inner ↔ text = first :: inner ++ [last] := by
  cases text with
  | nil => simp [between?]
  | cons c rest =>
      rw [between?]
      split
      next hfirst => rw [dropLast?_eq_some, hfirst, List.cons_append, List.cons_inj_right]
      next hfirst => simp [hfirst]

/-! ## Cores -/

/-- A text with something at its end is what stands before that. -/
theorem take_append_sub (front behind : List Char) :
    (front ++ behind).take ((front ++ behind).length - behind.length) = front := by
  rw [List.length_append, Nat.add_sub_cancel, List.take_left]

/-- What is compiled from a source with something in it can stand between slashes. -/
theorem compile_eq_ok_iff_literal {source flags : List Char} {pattern : Pattern} :
    source ≠ [] ∧ Pattern.compile (String.ofList source) (String.ofList flags) = .ok pattern ↔
      ∃ literal : PatternLiteral, literal.1 = pattern ∧ literal.1.source.toList = source ∧
        literal.1.flags.toList = flags := by
  rw [Pattern.compile_eq_ok, Pattern.flagError?_eq_none_iff, String.toList_ofList]
  constructor
  · intro h
    obtain ⟨hne, hsource, hflags, hnodup, hsupported⟩ := h
    obtain rfl : pattern.source.toList = source := by rw [hsource, String.toList_ofList]
    obtain rfl : pattern.flags.toList = flags := by rw [hflags, String.toList_ofList]
    exact ⟨⟨pattern, hne, hnodup, fun flag hflag => (hsupported flag hflag).1⟩, rfl, rfl, rfl⟩
  · intro h
    obtain ⟨⟨pattern, hne, hnodup, hsupported⟩, rfl, rfl, rfl⟩ := h
    exact ⟨hne, String.ofList_toList.symm, String.ofList_toList.symm, hnodup, fun flag hflag =>
      ⟨hsupported flag hflag, List.not_mem_nil⟩⟩

/-- A pattern is read behind its first slash exactly from how it is written there. -/
theorem pattern?_eq_ok {pattern : Pattern} :
    pattern? text = .ok pattern ↔
      ∃ literal : PatternLiteral, literal.1 = pattern ∧ literal.1.chars = '/' :: text := by
  constructor
  · intro h
    obtain ⟨front, htext⟩ : ∃ front, text = front ++ (text.reverse.takeWhile (· != '/')).reverse :=
      ⟨(text.reverse.dropWhile (· != '/')).reverse, by
        rw [← List.reverse_append, List.takeWhile_append_dropWhile, List.reverse_reverse]⟩
    generalize hflags : (text.reverse.takeWhile (· != '/')).reverse = flags at htext
    simp only [pattern?, hflags] at h
    rw [htext, take_append_sub] at h
    split at h
    · cases h
    · cases h
    next source hne hfront =>
        split at h
        next compiled hcompile =>
            obtain ⟨literal, rfl, rfl, rfl⟩ := compile_eq_ok_iff_literal.mp ⟨hne, hcompile⟩
            obtain rfl := dropLast?_eq_some.mp hfront
            exact ⟨literal, Except.ok.inj h, by simp [Pattern.chars, htext]⟩
        · cases h
  · intro h
    obtain ⟨literal, rfl, hchars⟩ := h
    obtain ⟨hne, hcompile⟩ := compile_eq_ok_iff_literal.mpr ⟨literal, rfl, rfl, rfl⟩
    obtain rfl : literal.1.source.toList ++ '/' :: literal.1.flags.toList = text :=
      (List.cons.inj hchars).2
    have hfront : literal.1.source.toList ++ '/' :: literal.1.flags.toList =
        literal.1.source.toList ++ ['/'] ++ literal.1.flags.toList := by simp
    simp only [pattern?, literal.takeWhile_reverse, List.reverse_reverse]
    rw [hfront, take_append_sub, dropLast?_eq_some.mpr rfl]
    split
    next hnone => cases hnone
    next hnil => exact absurd (Option.some.inj hnil) hne
    next source _ hsource => rw [← Option.some.inj hsource, hcompile]

/-- What does not start as a pattern is a keyword, or the name of a type if it can be one. -/
theorem core?_of_head?_ne (h : text.head? ≠ some '/') :
    core? text =
      match keywordRule? text with
      | some rule => .ok rule
      | none =>
          if isIdentifierChars text then .ok (.tagged (String.ofList text))
          else .error (.unrecognized (String.ofList text)) := by
  unfold core?
  split
  · exact absurd rfl h
  · rfl

/-- An identifier is read as the keyword that it is, or as the name of a type. -/
theorem core?_of_isIdentifier (h : isIdentifierChars text) :
    core? text = .ok ((keywordRule? text).getD (.tagged (String.ofList text))) := by
  rw [core?_of_head?_ne ((hasEnds_of_isIdentifier h).head?_ne rfl), if_pos h]
  cases keywordRule? text <;> rfl

/-- A core is read exactly from a text that a core of the grammar spells. -/
theorem core?_eq_ok {rule : Rule} :
    core? text = .ok rule ↔ ∃ core : Core, core.chars = text ∧ core.rule = rule := by
  constructor
  · intro h
    by_cases hidentifier : isIdentifierChars text
    · rw [core?_of_isIdentifier hidentifier, Except.ok.injEq] at h
      exact ⟨.name ⟨text, hidentifier⟩, rfl, h⟩
    · by_cases hslash : text.head? = some '/'
      · obtain ⟨rest, rfl⟩ := List.head?_eq_some_iff.mp hslash
        obtain ⟨pattern, hpattern, rfl⟩ := map_eq_ok.mp h
        obtain ⟨literal, rfl, hchars⟩ := pattern?_eq_ok.mp hpattern
        exact ⟨.pattern literal, hchars, rfl⟩
      · rw [core?_of_head?_ne hslash, if_neg hidentifier] at h
        split at h
        next found hfound =>
            obtain ⟨hprimitive, hchars⟩ := keywordRule?_eq_some.mp hfound
            exact ⟨.keyword ⟨found, hprimitive⟩, hchars, Except.ok.inj h⟩
        · cases h
  · intro h
    obtain ⟨core, rfl, rfl⟩ := h
    cases core with
    | keyword word =>
        have hrule : keywordRule? word.1.chars = some word.1 :=
          keywordRule?_eq_some.mpr ⟨word.2, rfl⟩
        rw [Core.chars, core?_of_isIdentifier word.isIdentifierChars, hrule]
        rfl
    | name identifier => exact core?_of_isIdentifier identifier.2
    | pattern literal => exact map_eq_ok.mpr ⟨_, pattern?_eq_ok.mpr ⟨literal, rfl, rfl⟩, rfl⟩

/-! ## Nested cores -/

/-- The brackets already counted are added to those that are found. -/
theorem stripBrackets_succ (depth : Nat) (text : List Char) :
    stripBrackets (depth + 1) text =
      ((stripBrackets depth text).1 + 1, (stripBrackets depth text).2) := by
  fun_induction stripBrackets depth text with
  | case1 depth text inner h ih =>
      rw [stripBrackets]
      split
      next inner' h' =>
          obtain rfl := Option.some.inj (h.symm.trans h')
          exact ih
      next h' => cases h.symm.trans h'
  | case2 depth text h =>
      rw [stripBrackets]
      split
      next inner' h' => cases h.symm.trans h'
      next => rfl

/-- What is read between brackets is inside one array more. -/
theorem nested?_of_between {inner : List Char} (h : between? '[' ']' text = some inner) :
    nested? text = (nested? (trim inner)).map fun (rule, depth) => (rule, depth + 1) := by
  have hstrip : stripBrackets 0 text = ((stripBrackets 0 (trim inner)).1 + 1,
      (stripBrackets 0 (trim inner)).2) := by
    rw [stripBrackets, ← stripBrackets_succ]
    split
    next inner' h' => rw [Option.some.inj (h'.symm.trans h)]
    next h' => cases h.symm.trans h'
  simp only [nested?, hstrip]
  split
  · rfl
  split
  · rfl
  split
  · rfl
  split
  · rfl
  cases core? (stripBrackets 0 (trim inner)).2 <;> rfl

/-- Without brackets around, what is read is a core. -/
theorem nested?_of_not_between (h : between? '[' ']' text = none) {rule : Rule} {depth : Nat} :
    nested? text = .ok (rule, depth) ↔ core? text = .ok rule ∧ depth = 0 := by
  have hstrip : stripBrackets 0 text = (0, text) := by
    rw [stripBrackets]
    split
    next inner h' => cases h.symm.trans h'
    next => rfl
  simp only [nested?, hstrip]
  constructor
  · intro h
    split at h
    · cases h
    split at h
    · cases h
    split at h
    · cases h
    split at h
    · cases h
    obtain ⟨found, hcore, heq⟩ := map_eq_ok.mp h
    cases heq
    exact ⟨hcore, rfl⟩
  · intro h
    obtain ⟨hcore, rfl⟩ := h
    -- The checks before the core is read turn nothing down that is a core.
    obtain ⟨core, rfl, _⟩ := core?_eq_ok.mp hcore
    have hends := core.hasEnds
    rw [if_neg (by simpa using hends.ne_nil),
      if_neg (by simpa using ⟨hends.head?_ne rfl, hends.getLast?_ne rfl⟩),
      if_neg (by simpa using ⟨hends.head?_ne rfl, hends.getLast?_ne rfl⟩),
      if_neg (hends.getLast?_ne rfl), hcore]
    rfl

/-- A nested core is read exactly from a text that one of the grammar spells. -/
theorem nested?_eq_ok {rule : Rule} {depth : Nat} :
    nested? text = .ok (rule, depth) ↔
      ∃ nested : Nested, nested.chars = text ∧ nested.rule = rule ∧ nested.depth = depth := by
  constructor
  · intro h
    induction hlength : text.length using Nat.strongRecOn generalizing text rule depth with
    | ind length ih =>
        cases hbetween : between? '[' ']' text with
        | none =>
            obtain ⟨hcore, rfl⟩ := (nested?_of_not_between hbetween).mp h
            obtain ⟨core, hchars, hrule⟩ := core?_eq_ok.mp hcore
            exact ⟨.core core, hchars, hrule, rfl⟩
        | some inner =>
            rw [nested?_of_between hbetween] at h
            obtain ⟨⟨rule', depth'⟩, helement, heq⟩ := map_eq_ok.mp h
            cases heq
            have hshorter : (trim inner).length < length :=
              hlength ▸ Nat.lt_of_le_of_lt (length_trim_le inner) (length_lt_of_between? hbetween)
            obtain ⟨element, hchars, hrule, hdepth⟩ := ih _ hshorter helement rfl
            obtain ⟨before, behind, hbefore, hbehind, hinner, _⟩ := exists_eq_append_trim inner
            refine ⟨.array ⟨before, hbefore⟩ element ⟨behind, hbehind⟩, ?_, hrule, ?_⟩
            · rw [Nested.chars, hchars, ← hinner, between?_eq_some.mp hbetween]
            · rw [Nested.depth, hdepth]
  · intro h
    obtain ⟨nested, rfl, rfl, rfl⟩ := h
    induction nested with
    | core inner =>
        have hbetween : between? '[' ']' inner.chars = none :=
          Option.eq_none_iff_forall_ne_some.mpr fun _ h =>
            inner.chars_ne_array _ (between?_eq_some.mp h)
        exact (nested?_of_not_between hbetween).mpr ⟨core?_eq_ok.mpr ⟨inner, rfl, rfl⟩, rfl⟩
    | array before element behind ih =>
        have htrim : trim (before.1 ++ element.chars ++ behind.1) = element.chars :=
          trim_append before.2 behind.2 (Body.nested element).hasEnds.isTrimmed
        rw [Nested.chars, nested?_of_between (between?_eq_some.mpr rfl), htrim, ih]
        rfl

/-! ## Bodies -/

/-- Without a colon between the braces, what stands there is the name of the type. -/
theorem keyed?_of_not_mem (h : ':' ∉ text) {rule : Rule} :
    keyed? text = .ok rule ↔
      isIdentifierChars (trim text) ∧ .keyed (String.ofList (trim text)) none = rule := by
  have hall : ∀ c ∈ text, (c != ':') = true := fun c hc => bne_iff_ne.mpr fun heq => h (heq ▸ hc)
  simp only [keyed?, List.takeWhile_eq_self_iff.mpr hall, List.dropWhile_eq_nil_iff.mpr hall]
  split
  next hname => simp_all
  next hname => simp_all

/-- The first colon between the braces stands between the name of the type and the key. -/
theorem keyed?_append_cons {front behind : List Char} (h : ':' ∉ front) {rule : Rule} :
    keyed? (front ++ ':' :: behind) = .ok rule ↔
      isIdentifierChars (trim front) ∧ isIdentifierChars (trim behind) ∧
        .keyed (String.ofList (trim front)) (some (String.ofList (trim behind))) = rule := by
  have hdrop : (front ++ ':' :: behind).dropWhile (· != ':') = ':' :: behind := by
    have hcut : (front ++ ':' :: behind).takeWhile (· != ':') ++
        (front ++ ':' :: behind).dropWhile (· != ':') = front ++ ':' :: behind :=
      List.takeWhile_append_dropWhile
    rw [takeWhile_append_cons h] at hcut
    exact List.append_cancel_left hcut
  simp only [keyed?, takeWhile_append_cons h, hdrop]
  split
  next hname => simp_all
  next hname =>
      split
      next hkey => simp_all
      next hkey => simp_all

/-- A keyed collection is read between its braces exactly from what is spelled there. -/
theorem keyed?_eq_ok {rule : Rule} :
    keyed? text = .ok rule ↔ ∃ typeName key, keyedChars typeName key = text ∧
      .keyed typeName.text (key.map (·.text)) = rule := by
  constructor
  · intro h
    by_cases hcolon : ':' ∈ text
    · obtain ⟨front, behind, rfl, hfront⟩ := List.eq_append_cons_of_mem hcolon
      obtain ⟨hname, hkey, rfl⟩ := (keyed?_append_cons hfront).mp h
      obtain ⟨typeName, rfl, htypeName⟩ := exists_paddedName hname
      obtain ⟨key, rfl, hkeyName⟩ := exists_paddedName hkey
      exact ⟨typeName, some key, rfl, by rw [← htypeName, ← hkeyName]; rfl⟩
    · obtain ⟨hname, rfl⟩ := (keyed?_of_not_mem hcolon).mp h
      obtain ⟨typeName, rfl, htypeName⟩ := exists_paddedName hname
      exact ⟨typeName, none, rfl, by rw [← htypeName]; rfl⟩
  · intro h
    obtain ⟨typeName, key, rfl, rfl⟩ := h
    cases key with
    | none =>
        refine (keyed?_of_not_mem typeName.colon_not_mem).mpr ?_
        rw [typeName.trim_chars]
        exact ⟨typeName.name.2, rfl⟩
    | some key =>
        refine (keyed?_append_cons typeName.colon_not_mem).mpr ?_
        rw [typeName.trim_chars, key.trim_chars]
        exact ⟨typeName.name.2, key.name.2, rfl⟩

/-- The end of reading: a body is read exactly from a text that one of the grammar spells, and gives
the field type that it stands for. -/
theorem body_eq_ok {isOptional : Bool} {source : Option String} {type : FieldType} :
    (do
      let (rule, depth) ← match between? '{' '}' text with
        | some inner => (keyed? inner).map fun rule => (rule, 0)
        | none => nested? text
      return ⟨rule, isOptional, depth, source⟩ : Except FieldTypeFault FieldType) = .ok type ↔
      ∃ body : Body, body.chars = text ∧ ⟨body.rule, isOptional, body.depth, source⟩ = type := by
  constructor
  · intro h
    split at h
    next inner hinner =>
        obtain ⟨_, hfound, htype⟩ := bind_eq_ok.mp h
        obtain ⟨rule, hkeyed, rfl⟩ := map_eq_ok.mp hfound
        obtain ⟨typeName, key, hchars, hrule⟩ := keyed?_eq_ok.mp hkeyed
        refine ⟨.keyed typeName key, ?_, ?_⟩
        · rw [Body.chars, hchars, between?_eq_some.mp hinner]
        · rw [Body.rule, hrule, ← pure_eq_ok.mp htype, Body.depth]
    next =>
        obtain ⟨⟨rule, depth⟩, hnested, htype⟩ := bind_eq_ok.mp h
        obtain ⟨nested, hchars, hrule, hdepth⟩ := nested?_eq_ok.mp hnested
        refine ⟨.nested nested, hchars, ?_⟩
        rw [Body.rule, Body.depth, hrule, hdepth, ← pure_eq_ok.mp htype]
  · intro h
    obtain ⟨body, rfl, rfl⟩ := h
    cases body with
    | keyed typeName key =>
        have hkeyed := keyed?_eq_ok.mpr ⟨typeName, key, rfl, rfl⟩
        rw [Body.chars, between?_eq_some.mpr rfl]
        exact bind_eq_ok.mpr ⟨_, map_eq_ok.mpr ⟨_, hkeyed, rfl⟩, rfl⟩
    | nested inner =>
        have hbetween : between? '{' '}' inner.chars = none :=
          Option.eq_none_iff_forall_ne_some.mpr fun _ h =>
            inner.chars_ne_keyed _ (between?_eq_some.mp h)
        have hnested := nested?_eq_ok.mpr ⟨inner, rfl, rfl, rfl⟩
        rw [Body.chars, hbetween]
        exact bind_eq_ok.mpr ⟨_, hnested, rfl⟩

/-! ## Expressions -/

/-- A field type is read exactly from a text that an expression of the grammar spells. -/
theorem parseChars_eq_ok {type : FieldType} :
    parseChars text = .ok type ↔
      ∃ expression : Expression, expression.chars = text ∧ expression.type = type := by
  constructor
  · intro h
    obtain ⟨before, rear, hbefore, hrear, htext, _⟩ := exists_eq_append_trim text
    cases hmark : dropLast? '?' (trim text) with
    | none =>
        simp only [parseChars, hmark] at h
        split at h
        · cases h
        obtain ⟨body, hchars, rfl⟩ := body_eq_ok.mp h
        have hspelled : before ++ body.chars ++ rear ++ [] = text := by
          rw [hchars, ← htext, List.append_nil]
        refine ⟨⟨⟨before, hbefore⟩, body, ⟨rear, hrear⟩, none⟩, hspelled, ?_⟩
        rw [Expression.type, Expression.chars, markChars, hspelled]
        rfl
    | some rest =>
        simp only [parseChars, hmark] at h
        split at h
        · cases h
        split at h
        · cases h
        obtain ⟨body, hchars, rfl⟩ := body_eq_ok.mp h
        obtain ⟨behind, hbehind, hrest, _⟩ := exists_eq_trimEnd_append rest
        have hspelled : before ++ body.chars ++ behind ++ '?' :: rear = text := by
          rw [hchars, List.append_assoc before, ← hrest, htext, dropLast?_eq_some.mp hmark]
          simp
        refine ⟨⟨⟨before, hbefore⟩, body, ⟨behind, hbehind⟩, some ⟨rear, hrear⟩⟩, hspelled, ?_⟩
        rw [Expression.type, Expression.chars, markChars, hspelled]
        rfl
  · intro h
    obtain ⟨expression, rfl, rfl⟩ := h
    have hinner : ¬ expression.innerChars.isEmpty := by simpa using expression.isTrimmed.1
    have hbody : ¬ expression.body.chars.isEmpty := by simpa using expression.body.hasEnds.ne_nil
    simp only [parseChars, expression.trim_chars, Expression.type]
    rw [if_neg hinner]
    obtain ⟨before, body, behind, mark⟩ := expression
    cases mark with
    | none =>
        have hmark : dropLast? '?' body.chars = none :=
          Option.eq_none_iff_forall_ne_some.mpr fun _ h =>
            body.chars_ne_marked _ (dropLast?_eq_some.mp h)
        simp only [Expression.innerChars, hmark]
        rw [if_neg hbody]
        exact body_eq_ok.mpr ⟨body, rfl, rfl⟩
    | some blanks =>
        simp only [Expression.innerChars, dropLast?_eq_some.mpr rfl, trimEnd_append behind.2,
          trimEnd_eq_self body.hasEnds.isTrimmed.2]
        rw [if_neg hbody]
        exact body_eq_ok.mpr ⟨body, rfl, rfl⟩

/-- A text is read as a field type exactly if a derivation of the grammar spells it, and then as the
field type that this one stands for. But for keywords there is only one derivation. -/
theorem parse_eq_ok_iff_derivation (text : String) :
    (∀ type, parse text = .ok type ↔
      ∃ expression : Expression, expression.chars = text.toList ∧ expression.type = type) ∧
    ∀ expression other : Expression, expression.chars = text.toList →
      other.chars = text.toList → expression.prioritized = other.prioritized := by
  refine ⟨fun type => ?_, fun expression other h hother => ?_⟩
  · rw [parse, mapError_eq_ok, parseChars_eq_ok]
  · exact Expression.prioritized_eq_of_chars_eq (h.trans hother.symm)

end FieldType

end RecordSchema
