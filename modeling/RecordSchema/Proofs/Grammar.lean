import Mathlib.Data.List.Basic
import RecordSchema.FieldType.Basic
import RecordSchema.Proofs.Trimming

/-!
# The grammar of field types

Field types are written by this grammar:

    expression ::= blanks body blanks ('?' blanks)?
    body       ::= '{' blanks identifier blanks (':' blanks identifier blanks)? '}' | nested
    nested     ::= '[' blanks nested blanks ']' | core
    core       ::= keyword | identifier | '/' source '/' flags

A derivation is a tree of the types below, which spells a text and stands for a field type. But for
keywords, which are identifiers too, a text is spelled by at most one of them
(`Expression.prioritized_eq_of_chars_eq`).
-/

namespace RecordSchema

open Text

namespace Grammar

/-- A run of blanks, which may be empty. -/
abbrev Blanks := { text : List Char // isBlankText text }

/-- An identifier. -/
abbrev Identifier := { name : List Char // isIdentifierChars name }

/-- A rule that is written as a keyword. -/
abbrev Keyword := { rule : Rule // rule.isPrimitive }

/-- A pattern as it can stand between slashes: there is a source, and the flags are supported ones
that stand once each. Every pattern comes from a source that is accepted under its flags. -/
abbrev PatternLiteral := { pattern : Pattern //
  pattern.source.toList ≠ [] ∧ pattern.flags.toList.Nodup ∧
    ∀ flag ∈ pattern.flags.toList, flag ∈ Pattern.supportedFlags }

/-- What stands inside all brackets. -/
inductive Core where
  | keyword (keyword : Keyword)
  | name (name : Identifier)
  | pattern (literal : PatternLiteral)

/-- A core inside any number of array brackets. -/
inductive Nested where
  | core (core : Core)
  | array (before : Blanks) (element : Nested) (behind : Blanks)

/-- An identifier between blanks. -/
structure PaddedName where
  before : Blanks
  name : Identifier
  behind : Blanks

/-- A keyed collection, maybe with its key, or a nested core. -/
inductive Body where
  | keyed (typeName : PaddedName) (key : Option PaddedName)
  | nested (nested : Nested)

/-- A body between blanks, and the blanks behind the mark of optionality if there is one. -/
structure Expression where
  before : Blanks
  body : Body
  behind : Blanks
  mark : Option Blanks

/-! ### What derivations spell -/

/-- The text of a core. -/
def Core.chars : Core → List Char
  | .keyword word => word.1.chars
  | .name identifier => identifier.1
  | .pattern literal => literal.1.chars

/-- The text of a nested core. -/
def Nested.chars : Nested → List Char
  | .core inner => inner.chars
  | .array before element behind => '[' :: (before.1 ++ element.chars ++ behind.1) ++ [']']

/-- The text of an identifier between blanks. -/
def PaddedName.chars (padded : PaddedName) : List Char :=
  padded.before.1 ++ padded.name.1 ++ padded.behind.1

/-- The text between the braces of a keyed collection. -/
def keyedChars (typeName : PaddedName) : Option PaddedName → List Char
  | none => typeName.chars
  | some key => typeName.chars ++ ':' :: key.chars

/-- The text of a body. -/
def Body.chars : Body → List Char
  | .keyed typeName key => '{' :: keyedChars typeName key ++ ['}']
  | .nested inner => inner.chars

/-- The mark of optionality with the blanks behind it. -/
def markChars : Option Blanks → List Char
  | none => []
  | some blanks => '?' :: blanks.1

/-- The text of an expression. -/
def Expression.chars (expression : Expression) : List Char :=
  expression.before.1 ++ expression.body.chars ++ expression.behind.1 ++ markChars expression.mark

/-! ### What derivations stand for -/

/-- The rule that is written as this keyword. -/
def keywordRule? (text : List Char) : Option Rule :=
  (BaseType.ofKeyword? (String.ofList text)).bind (·.rule?)

/-- The rule of a core. A name that is a keyword stands for the rule of the keyword. -/
def Core.rule : Core → Rule
  | .keyword word => word.1
  | .name identifier =>
      (keywordRule? identifier.1).getD (.tagged (String.ofList identifier.1))
  | .pattern literal => .regex literal.1

/-- The rule of a nested core. -/
def Nested.rule : Nested → Rule
  | .core inner => inner.rule
  | .array _ element _ => element.rule

/-- The number of pairs of brackets. -/
def Nested.depth : Nested → Nat
  | .core _ => 0
  | .array _ element _ => element.depth + 1

/-- The text of the identifier. -/
def PaddedName.text (padded : PaddedName) : String :=
  String.ofList padded.name.1

/-- The rule of a body. -/
def Body.rule : Body → Rule
  | .keyed typeName key => .keyed typeName.text (key.map (·.text))
  | .nested inner => inner.rule

/-- The number of pairs of array brackets. -/
def Body.depth : Body → Nat
  | .keyed _ _ => 0
  | .nested inner => inner.depth

/-- The field type that an expression stands for. It keeps the text, without the blanks around. -/
def Expression.type (expression : Expression) : FieldType where
  rule := expression.body.rule
  isOptional := expression.mark.isSome
  depth := expression.body.depth
  source := some (String.ofList (trim expression.chars))

/-! ### Keywords -/

/-- A text is a keyword exactly if a rule is written so. -/
theorem keywordRule?_eq_some {text : List Char} {rule : Rule} :
    keywordRule? text = some rule ↔ rule.isPrimitive ∧ rule.chars = text := by
  constructor
  · intro h
    obtain ⟨base, hbase, hrule⟩ := Option.bind_eq_some_iff.mp h
    have hkeyword : base.keyword? = some (String.ofList text) :=
      beq_iff_eq.mp (List.find?_some (p := fun b : BaseType => b.keyword? == _) hbase)
    have htext : ∀ {keyword : String}, some keyword = some (String.ofList text) →
        keyword.toList = text := fun h => by rw [Option.some.inj h, String.toList_ofList]
    cases base <;> cases hrule <;> exact ⟨rfl, htext hkeyword⟩
  · intro h
    obtain ⟨hprimitive, rfl⟩ := h
    cases rule <;> first | rfl | cases hprimitive

/-- Keywords are identifiers. -/
theorem Keyword.isIdentifierChars (keyword : Keyword) :
    Text.isIdentifierChars keyword.1.chars := by
  obtain ⟨rule, hprimitive⟩ := keyword
  cases rule <;> first | (simp only [Rule.chars]; decide) | cases hprimitive

/-- The core with a keyword in place of a name that is one. -/
def Core.prioritized : Core → Core
  | .name identifier =>
      match h : keywordRule? identifier.1 with
      | some rule => .keyword ⟨rule, (keywordRule?_eq_some.mp h).1⟩
      | none => .name identifier
  | core => core

/-- The nested core with a keyword in place of a name that is one. -/
def Nested.prioritized : Nested → Nested
  | .core inner => .core inner.prioritized
  | .array before element behind => .array before element.prioritized behind

/-- The body with a keyword in place of a name that is one. -/
def Body.prioritized : Body → Body
  | .nested inner => .nested inner.prioritized
  | body => body

/-- The expression with a keyword in place of a name that is one. -/
def Expression.prioritized (expression : Expression) : Expression :=
  { expression with body := expression.body.prioritized }

/-! ### Ends -/

/-- The character can stand at an end of a core. -/
def isCoreEnd (c : Char) : Bool :=
  c == '/' || continuesIdentifier c

/-- The character can stand at an end of a body. -/
def isBodyEnd (c : Char) : Bool :=
  isCoreEnd c || ['[', ']', '{', '}'].contains c

/-- The text starts and ends with such characters. -/
def HasEnds (p : Char → Bool) (text : List Char) : Prop :=
  (∃ c, text.head? = some c ∧ p c) ∧ ∃ c, text.getLast? = some c ∧ p c

variable {p q : Char → Bool} {text : List Char}

/-- The ends may be described less precisely. -/
theorem HasEnds.imp (h : HasEnds p text) (himp : ∀ c, p c → q c) : HasEnds q text := by
  obtain ⟨⟨first, hfirst, hp⟩, last, hlast, hp'⟩ := h
  exact ⟨⟨first, hfirst, himp first hp⟩, last, hlast, himp last hp'⟩

/-- A text that has ends is not empty. -/
theorem HasEnds.ne_nil (h : HasEnds p text) : text ≠ [] := by
  obtain ⟨⟨first, hfirst, _⟩, _⟩ := h
  rintro rfl
  cases hfirst

/-- The text does not start with another character. -/
theorem HasEnds.head?_ne (h : HasEnds p text) {c : Char} (hc : p c = false) :
    text.head? ≠ some c := by
  obtain ⟨⟨first, hfirst, hp⟩, _⟩ := h
  intro hhead
  rw [hfirst, Option.some.injEq] at hhead
  rw [hhead, hc] at hp
  exact Bool.false_ne_true hp

/-- The text does not end with another character. -/
theorem HasEnds.getLast?_ne (h : HasEnds p text) {c : Char} (hc : p c = false) :
    text.getLast? ≠ some c := by
  obtain ⟨_, last, hlast, hp⟩ := h
  intro heq
  rw [hlast, Option.some.injEq] at heq
  rw [heq, hc] at hp
  exact Bool.false_ne_true hp

/-- What can stand at an end of a body is no blank. -/
theorem not_isBlank_of_isBodyEnd {c : Char} (h : isBodyEnd c) : ¬ isBlank c := by
  simp only [isBodyEnd, isCoreEnd, Bool.or_eq_true, beq_iff_eq, List.contains_eq_mem,
    decide_eq_true_eq, List.mem_cons, List.not_mem_nil, or_false] at h
  rcases h with (rfl | h) | rfl | rfl | rfl | rfl
  · decide
  · exact not_isBlank_of_continuesIdentifier h
  all_goals decide

/-- A text that ends as bodies do is trimmed. -/
theorem HasEnds.isTrimmed (h : HasEnds isBodyEnd text) : IsTrimmed text := by
  obtain ⟨⟨first, hfirst, hp⟩, last, hlast, hp'⟩ := h
  refine ⟨fun c hc => ?_, fun c hc => ?_⟩
  · obtain rfl := Option.some.inj (hfirst.symm.trans hc)
    exact not_isBlank_of_isBodyEnd hp
  · obtain rfl := Option.some.inj (hlast.symm.trans hc)
    exact not_isBlank_of_isBodyEnd hp'

/-- Identifiers start and end with what stands in them. -/
theorem hasEnds_of_isIdentifier (h : isIdentifierChars text) :
    HasEnds continuesIdentifier text := by
  have hall := List.all_eq_true.mp (all_continuesIdentifier h)
  have hne : text ≠ [] := by
    rintro rfl
    exact Bool.false_ne_true h
  refine ⟨⟨_, List.head?_eq_some_head hne, hall _ (List.head_mem hne)⟩, ?_⟩
  exact ⟨_, List.getLast?_eq_some_getLast hne, hall _ (List.getLast_mem hne)⟩

/-- Identifiers are trimmed. -/
theorem isTrimmed_of_isIdentifier (h : isIdentifierChars text) : IsTrimmed text :=
  ((hasEnds_of_isIdentifier h).imp fun c hc => by simp [isBodyEnd, isCoreEnd, hc]).isTrimmed

/-- A core ends in slashes or as identifiers do. -/
theorem Core.hasEnds (core : Core) : HasEnds isCoreEnd core.chars := by
  have hidentifier : ∀ {text : List Char}, isIdentifierChars text → HasEnds isCoreEnd text :=
    fun h => (hasEnds_of_isIdentifier h).imp fun c hc => by simp [isCoreEnd, hc]
  cases core with
  | keyword word => exact hidentifier word.isIdentifierChars
  | name identifier => exact hidentifier identifier.2
  | pattern literal =>
      obtain ⟨pattern, _, _, hflags⟩ := literal
      refine ⟨⟨'/', rfl, rfl⟩, ?_⟩
      cases hlast : pattern.flags.toList.getLast? with
      | none =>
          refine ⟨'/', ?_, rfl⟩
          simp [Core.chars, Pattern.chars, List.getLast?_cons, hlast]
      | some flag =>
          refine ⟨flag, ?_, ?_⟩
          · simp [Core.chars, Pattern.chars, List.getLast?_cons, hlast]
          · have hflag := hflags flag (List.mem_of_getLast? hlast)
            simp only [Pattern.supportedFlags, List.mem_cons, List.not_mem_nil, or_false] at hflag
            rcases hflag with rfl | rfl | rfl | rfl <;> rfl

/-- A nested core ends as a core or in brackets. -/
theorem Nested.hasEnds (nested : Nested) :
    HasEnds (fun c => isCoreEnd c || ['[', ']'].contains c) nested.chars := by
  cases nested with
  | core inner => exact inner.hasEnds.imp fun c hc => by simp [hc]
  | array before element behind =>
      exact ⟨⟨'[', rfl, rfl⟩, ']', List.getLast?_concat, rfl⟩

/-- A body ends as a nested core or in braces. -/
theorem Body.hasEnds (body : Body) : HasEnds isBodyEnd body.chars := by
  cases body with
  | keyed typeName key =>
      exact ⟨⟨'{', rfl, rfl⟩, '}', List.getLast?_concat, rfl⟩
  | nested inner =>
      refine inner.hasEnds.imp fun c hc => ?_
      simp only [isBodyEnd, Bool.or_eq_true, List.contains_eq_mem, decide_eq_true_eq, List.mem_cons,
        List.not_mem_nil, or_false] at hc ⊢
      exact hc.imp_right fun h => h.elim .inl (.inr ∘ .inl)

/-! ### Trimmed parts -/

/-- Trimming takes the blanks around a name off. -/
theorem PaddedName.trim_chars (padded : PaddedName) : trim padded.chars = padded.name.1 :=
  trim_append padded.before.2 padded.behind.2 (isTrimmed_of_isIdentifier padded.name.2)

/-- A text that is an identifier without its blanks is a name between blanks. -/
theorem exists_paddedName (h : isIdentifierChars (trim text)) :
    ∃ padded : PaddedName, padded.chars = text ∧ padded.name.1 = trim text := by
  obtain ⟨before, behind, hbefore, hbehind, htext, _⟩ := exists_eq_append_trim text
  exact ⟨⟨⟨before, hbefore⟩, ⟨_, h⟩, ⟨behind, hbehind⟩⟩, htext.symm, rfl⟩

/-- There is no colon in an identifier nor in the blanks around it. -/
theorem PaddedName.colon_not_mem (padded : PaddedName) : ':' ∉ padded.chars := by
  have hblanks : ∀ blanks : Blanks, ':' ∉ blanks.1 := fun blanks hmem =>
    absurd (List.all_eq_true.mp blanks.2 _ hmem) (by decide)
  intro hmem
  rcases List.mem_append.mp hmem with hmem | hbehind
  · rcases List.mem_append.mp hmem with hbefore | hname
    · exact hblanks _ hbefore
    · exact absurd (List.all_eq_true.mp (all_continuesIdentifier padded.name.2) _ hname) (by decide)
  · exact hblanks _ hbehind

/-- The text of an expression between the blanks at its ends. -/
def Expression.innerChars (expression : Expression) : List Char :=
  match expression.mark with
  | none => expression.body.chars
  | some _ => expression.body.chars ++ expression.behind.1 ++ ['?']

/-- The blanks at the end of an expression. -/
def Expression.rear (expression : Expression) : Blanks :=
  expression.mark.getD expression.behind

/-- An expression is blanks around its text. -/
theorem Expression.chars_eq (expression : Expression) :
    expression.chars = expression.before.1 ++ expression.innerChars ++ expression.rear.1 := by
  obtain ⟨before, body, behind, mark⟩ := expression
  cases mark <;> simp [Expression.chars, Expression.innerChars, Expression.rear, markChars]

/-- The text of an expression is not empty, and is trimmed. -/
theorem Expression.isTrimmed (expression : Expression) :
    expression.innerChars ≠ [] ∧ IsTrimmed expression.innerChars := by
  obtain ⟨before, body, behind, mark⟩ := expression
  have hbody := body.hasEnds
  cases mark with
  | none => exact ⟨hbody.ne_nil, hbody.isTrimmed⟩
  | some blanks =>
      refine ⟨List.append_ne_nil_of_right_ne_nil _ (List.cons_ne_nil _ _), fun c hc => ?_, ?_⟩
      · apply hbody.isTrimmed.1
        rwa [innerChars, List.append_assoc, List.head?_append_of_ne_nil _ hbody.ne_nil] at hc
      · intro c hc
        rw [innerChars, List.getLast?_concat, Option.mem_some] at hc
        subst hc
        decide

/-- Trimming takes the blanks around an expression off. -/
theorem Expression.trim_chars (expression : Expression) :
    trim expression.chars = expression.innerChars := by
  rw [expression.chars_eq]
  exact trim_append expression.before.2 expression.rear.2 expression.isTrimmed.2

/-! ### Unambiguity -/

/-- Names between blanks that are spelled alike are the same. -/
theorem PaddedName.eq_of_chars_eq {padded other : PaddedName} (h : padded.chars = other.chars) :
    padded = other := by
  obtain ⟨before, name, behind⟩ := padded
  obtain ⟨before', name', behind'⟩ := other
  obtain ⟨hbefore, hname, hbehind⟩ := eq_of_append_eq before.2 behind.2
    (isTrimmed_of_isIdentifier name.2) (hasEnds_of_isIdentifier name.2).ne_nil before'.2 behind'.2
    (isTrimmed_of_isIdentifier name'.2) h
  rw [Subtype.ext hbefore, Subtype.ext hname, Subtype.ext hbehind]

/-- There is one way to read what stands between the braces of a keyed collection. -/
theorem eq_of_keyedChars_eq {typeName typeName' : PaddedName} {key key' : Option PaddedName}
    (h : keyedChars typeName key = keyedChars typeName' key') :
    typeName = typeName' ∧ key = key' := by
  -- There is a colon exactly if there is a key.
  have hcolon : ∀ {typeName typeName' key : PaddedName},
      typeName.chars ≠ typeName'.chars ++ ':' :: key.chars := fun {typeName _ _} heq =>
    typeName.colon_not_mem (heq ▸ List.mem_append_right _ List.mem_cons_self)
  cases key with
  | none =>
      cases key' with
      | none => exact ⟨PaddedName.eq_of_chars_eq h, rfl⟩
      | some key' => exact absurd h hcolon
  | some key =>
      cases key' with
      | none => exact absurd h.symm hcolon
      | some key' =>
          obtain ⟨htype, _, hkey⟩ :=
            (List.append_cons_inj_of_notMem typeName.colon_not_mem key.colon_not_mem).mp h
          exact ⟨PaddedName.eq_of_chars_eq htype, congrArg _ (PaddedName.eq_of_chars_eq hkey)⟩

/-- What stands before the first of a character is taken up to there. -/
theorem takeWhile_append_cons {stop : Char} {front rest : List Char} (h : stop ∉ front) :
    (front ++ stop :: rest).takeWhile (· != stop) = front := by
  have hfront : ∀ c ∈ front, (c != stop) = true := fun c hc =>
    bne_iff_ne.mpr fun heq => h (heq ▸ hc)
  rw [List.takeWhile_append_of_pos hfront, List.takeWhile_cons_of_neg (by simp), List.append_nil]

/-- What stands behind the last slash of a pattern are its flags. -/
theorem PatternLiteral.takeWhile_reverse (literal : PatternLiteral) (front : List Char) :
    (front ++ '/' :: literal.1.flags.toList).reverse.takeWhile (· != '/') =
      literal.1.flags.toList.reverse := by
  have hslash : '/' ∉ literal.1.flags.toList.reverse := fun hmem =>
    absurd (literal.2.2.2 _ (List.mem_reverse.mp hmem)) (by decide)
  rw [List.reverse_append, List.reverse_cons, List.append_assoc, List.singleton_append,
    takeWhile_append_cons hslash]

/-- Patterns that are spelled alike are the same. -/
theorem PatternLiteral.eq_of_chars_eq {literal other : PatternLiteral}
    (h : literal.1.chars = other.1.chars) : literal = other := by
  have hflags : literal.1.flags.toList = other.1.flags.toList := by
    rw [← List.reverse_inj, ← literal.takeWhile_reverse ('/' :: literal.1.source.toList),
      ← other.takeWhile_reverse ('/' :: other.1.source.toList)]
    exact congrArg (·.reverse.takeWhile (· != '/')) h
  have hsource : literal.1.source.toList = other.1.source.toList := by
    rw [Pattern.chars, Pattern.chars, hflags] at h
    exact List.append_cancel_right (List.cons.inj h).2
  exact Subtype.ext (Pattern.eq_of_written (String.toList_injective hsource)
    (String.toList_injective hflags))

/-- A core that spells an identifier is what becomes of this one. -/
theorem Core.prioritized_eq {core : Core} (h : isIdentifierChars core.chars) :
    core.prioritized = (Core.name ⟨core.chars, h⟩).prioritized := by
  cases core with
  | keyword word =>
      have hrule : keywordRule? word.1.chars = some word.1 := keywordRule?_eq_some.mpr ⟨word.2, rfl⟩
      simp only [prioritized]
      split
      next rule hsome =>
          obtain rfl := Option.some.inj (hrule.symm.trans hsome)
          rfl
      next hnone => cases hrule.symm.trans hnone
  | name identifier => rfl
  | pattern literal => cases h

/-- A core that spells no identifier is a pattern. -/
theorem Core.exists_pattern {core : Core} (h : ¬ isIdentifierChars core.chars) :
    ∃ literal, core = .pattern literal := by
  cases core with
  | keyword word => exact absurd word.isIdentifierChars h
  | name identifier => exact absurd identifier.2 h
  | pattern literal => exact ⟨literal, rfl⟩

/-- Cores that are spelled alike are the same, but for keywords. -/
theorem Core.prioritized_eq_of_chars_eq {core other : Core} (h : core.chars = other.chars) :
    core.prioritized = other.prioritized := by
  by_cases hidentifier : isIdentifierChars core.chars
  · have hother : isIdentifierChars other.chars := h ▸ hidentifier
    rw [prioritized_eq hidentifier, prioritized_eq hother]
    exact congrArg _ (congrArg _ (Subtype.ext h))
  · have hother : ¬ isIdentifierChars other.chars := h ▸ hidentifier
    obtain ⟨literal, rfl⟩ := exists_pattern hidentifier
    obtain ⟨literal', rfl⟩ := exists_pattern hother
    rw [PatternLiteral.eq_of_chars_eq h]

/-- No core is spelled as an array is. -/
theorem Core.chars_ne_array (core : Core) (rest : List Char) : core.chars ≠ '[' :: rest :=
  fun h => core.hasEnds.head?_ne rfl (congrArg List.head? h)

/-- Nested cores that are spelled alike are the same, but for keywords. -/
theorem Nested.prioritized_eq_of_chars_eq {nested other : Nested}
    (h : nested.chars = other.chars) : nested.prioritized = other.prioritized := by
  induction nested generalizing other with
  | core inner =>
      cases other with
      | core inner' => exact congrArg Nested.core (Core.prioritized_eq_of_chars_eq h)
      | array before' element' behind' => exact absurd h (inner.chars_ne_array _)
  | array before element behind ih =>
      cases other with
      | core inner' => exact absurd h.symm (inner'.chars_ne_array _)
      | array before' element' behind' =>
          have hinner := List.append_cancel_right (List.cons.inj h).2
          obtain ⟨hbefore, helement, hbehind⟩ := eq_of_append_eq before.2 behind.2
            (Body.nested element).hasEnds.isTrimmed element.hasEnds.ne_nil before'.2 behind'.2
            (Body.nested element').hasEnds.isTrimmed hinner
          rw [prioritized, prioritized, ih helement, Subtype.ext hbefore, Subtype.ext hbehind]

/-- No nested core is spelled as a keyed collection is. -/
theorem Nested.chars_ne_keyed (nested : Nested) (rest : List Char) :
    nested.chars ≠ '{' :: rest :=
  fun h => nested.hasEnds.head?_ne rfl (congrArg List.head? h)

/-- Bodies that are spelled alike are the same, but for keywords. -/
theorem Body.prioritized_eq_of_chars_eq {body other : Body} (h : body.chars = other.chars) :
    body.prioritized = other.prioritized := by
  cases body with
  | keyed typeName key =>
      cases other with
      | keyed typeName' key' =>
          have hinner := List.append_cancel_right (List.cons.inj h).2
          obtain ⟨rfl, rfl⟩ := eq_of_keyedChars_eq hinner
          rfl
      | nested inner' => exact absurd h.symm (inner'.chars_ne_keyed _)
  | nested inner =>
      cases other with
      | keyed typeName' key' => exact absurd h (inner.chars_ne_keyed _)
      | nested inner' => exact congrArg Body.nested (Nested.prioritized_eq_of_chars_eq h)

/-- The mark of optionality is not the end of a body. -/
theorem Body.chars_ne_marked (body : Body) (front : List Char) : body.chars ≠ front ++ ['?'] :=
  fun h => body.hasEnds.getLast?_ne rfl (by rw [h, List.getLast?_concat])

/-- Expressions that are spelled alike are the same, but for keywords. -/
theorem Expression.prioritized_eq_of_chars_eq {expression other : Expression}
    (h : expression.chars = other.chars) : expression.prioritized = other.prioritized := by
  rw [expression.chars_eq, other.chars_eq] at h
  obtain ⟨hbefore, hinner, hrear⟩ := eq_of_append_eq expression.before.2 expression.rear.2
    expression.isTrimmed.2 expression.isTrimmed.1 other.before.2 other.rear.2 other.isTrimmed.2 h
  obtain ⟨before, body, behind, mark⟩ := expression
  obtain ⟨before', body', behind', mark'⟩ := other
  obtain rfl : before = before' := Subtype.ext hbefore
  cases mark with
  | none =>
      cases mark' with
      | none =>
          obtain rfl : behind = behind' := Subtype.ext hrear
          rw [prioritized, prioritized, Body.prioritized_eq_of_chars_eq hinner]
      | some blanks' => exact absurd hinner (body.chars_ne_marked _)
  | some blanks =>
      cases mark' with
      | none => exact absurd hinner.symm (body'.chars_ne_marked _)
      | some blanks' =>
          obtain rfl : blanks = blanks' := Subtype.ext hrear
          have hfront : [] ++ body.chars ++ behind.1 = [] ++ body'.chars ++ behind'.1 :=
            List.append_cancel_right hinner
          obtain ⟨_, hbody, hbehind⟩ := eq_of_append_eq rfl behind.2 body.hasEnds.isTrimmed
            body.hasEnds.ne_nil rfl behind'.2 body'.hasEnds.isTrimmed hfront
          rw [prioritized, prioritized, Body.prioritized_eq_of_chars_eq hbody, Subtype.ext hbehind]

end Grammar

end RecordSchema
