import RecordSchema.Proofs.Parsed

/-!
# Canonical texts

The canonical text of a field type that was read is spelled by a derivation of the grammar too: by
the one that the field type was read from, without its blanks (`Expression.chars_bare`). So the text
is read again, as the same field type (`parse_text_of_parse`).
-/

namespace RecordSchema

open Outcome Text

/-- Inside one array more, a rule has one pair of brackets more. -/
theorem Rule.charsAtDepth_succ (rule : Rule) (depth : Nat) :
    rule.charsAtDepth (depth + 1) = '[' :: rule.charsAtDepth depth ++ [']'] := by
  rw [charsAtDepth, List.replicate_succ, List.replicate_succ', ← List.append_assoc]
  rfl

namespace Grammar

/-! ## Derivations without blanks -/

/-- No blanks. -/
def noBlanks : Blanks :=
  ⟨[], rfl⟩

/-- The nested core without its blanks. -/
def Nested.bare : Nested → Nested
  | .core inner => .core inner
  | .array _ element _ => .array noBlanks element.bare noBlanks

/-- The name without the blanks around it. -/
def PaddedName.bare (padded : PaddedName) : PaddedName :=
  ⟨noBlanks, padded.name, noBlanks⟩

/-- The body without its blanks. -/
def Body.bare : Body → Body
  | .keyed typeName key => .keyed typeName.bare (key.map (·.bare))
  | .nested inner => .nested inner.bare

/-- The expression without its blanks. -/
def Expression.bare (expression : Expression) : Expression where
  before := noBlanks
  body := expression.body.bare
  behind := noBlanks
  mark := expression.mark.map fun _ => noBlanks

/-- Blanks have no meaning in a nested core. -/
theorem Nested.meaning_bare (nested : Nested) :
    nested.bare.rule = nested.rule ∧ nested.bare.depth = nested.depth := by
  induction nested with
  | core inner => exact ⟨rfl, rfl⟩
  | array before element behind ih => exact ⟨ih.1, congrArg (· + 1) ih.2⟩

/-- Blanks have no meaning in a body. -/
theorem Body.meaning_bare (body : Body) :
    body.bare.rule = body.rule ∧ body.bare.depth = body.depth := by
  cases body with
  | keyed typeName key => cases key <;> exact ⟨rfl, rfl⟩
  | nested inner => exact inner.meaning_bare

/-! ## What they spell -/

/-- A core is spelled as its rule is written. -/
theorem Core.chars_rule (core : Core) : core.rule.chars = core.chars := by
  cases core with
  | keyword word => rfl
  | name identifier =>
      rw [Core.rule, Core.chars]
      cases hkeyword : keywordRule? identifier.1 with
      | none => exact String.toList_ofList
      | some rule => exact (keywordRule?_eq_some.mp hkeyword).2
  | pattern literal => rfl

/-- Without blanks a nested core is spelled as its rule is written inside its brackets. -/
theorem Nested.chars_bare (nested : Nested) :
    nested.bare.chars = nested.rule.charsAtDepth nested.depth := by
  induction nested with
  | core inner =>
      rw [bare, chars, rule, depth, ← inner.chars_rule]
      simp [Rule.charsAtDepth]
  | array before element behind ih =>
      rw [bare, chars, rule, depth, Rule.charsAtDepth_succ, ih]
      simp [noBlanks]

/-- A name without the blanks around it is its text. -/
theorem PaddedName.chars_bare (padded : PaddedName) : padded.bare.chars = padded.text.toList := by
  rw [text, String.toList_ofList]
  exact List.append_nil _

/-- Without blanks a body is spelled as its rule is written. -/
theorem Body.chars_bare (body : Body) :
    body.bare.chars = body.rule.charsAtDepth body.depth := by
  cases body with
  | keyed typeName key =>
      cases key <;>
        simp [bare, chars, rule, depth, keyedChars, PaddedName.chars_bare, Rule.charsAtDepth,
          Rule.chars]
  | nested inner => exact inner.chars_bare

/-- Without blanks an expression is spelled as the canonical text of its field type. -/
theorem Expression.chars_bare (expression : Expression) :
    expression.bare.chars = expression.type.chars := by
  obtain ⟨before, body, behind, mark⟩ := expression
  cases mark <;>
    simp [bare, chars, noBlanks, markChars, type, FieldType.chars, body.chars_bare]

/-- Without blanks an expression stands for the same field type, read from the canonical text. -/
theorem Expression.type_bare (expression : Expression) :
    expression.bare.type = { expression.type with source := some expression.type.text } := by
  have htrim : trim expression.bare.chars = expression.bare.chars := by
    rw [trim_chars, chars_eq]
    obtain ⟨before, body, behind, mark⟩ := expression
    cases mark <;> simp [bare, innerChars, rear, noBlanks]
  obtain ⟨hrule, hdepth⟩ := expression.body.meaning_bare
  rw [type, htrim, chars_bare]
  simp [type, bare, hrule, hdepth, FieldType.text]

end Grammar

namespace FieldType

open Grammar

/-- Field types agree with themselves, whatever they were read from. -/
theorem agrees_withSource (type : FieldType) (source : Option String) :
    { type with source }.agrees type := by
  simp [agrees]

/-- The canonical text of a field type that was read is read as a field type that agrees with it and
has the same canonical text. -/
theorem parse_text_of_parse {text : String} {type : FieldType} (h : parse text = .ok type) :
    ∃ again, parse type.text = .ok again ∧ again.agrees type ∧ again.text = type.text ∧
      again.source = some type.text := by
  rw [parse, mapError_eq_ok, parseChars_eq_ok] at h
  obtain ⟨expression, -, rfl⟩ := h
  refine ⟨{ expression.type with source := some expression.type.text }, ?_,
    agrees_withSource _ _, rfl, rfl⟩
  rw [parse, mapError_eq_ok, parseChars_eq_ok]
  refine ⟨expression.bare, ?_, expression.type_bare⟩
  rw [expression.chars_bare, FieldType.text, String.toList_ofList]

/-- A pattern with slashes, brackets, blanks and question marks in it, inside two arrays, is read
back from its canonical text. -/
theorem parse_text_of_nested_pattern :
    ∃ type again, parse " [ [/ a ]/ [?]/is ] ] ?\n" = .ok type ∧
      type.text = "[[/ a ]/ [?]/is]]?" ∧
      parse type.text = .ok again ∧ again.agrees type ∧ again.text = type.text ∧
      again.source = some type.text := by
  have hread : (parse " [ [/ a ]/ [?]/is ] ] ?\n").toOption.map (·.text) =
      some "[[/ a ]/ [?]/is]]?" := by decide +kernel
  cases hparse : parse " [ [/ a ]/ [?]/is ] ] ?\n" with
  | error error => cases (congrArg (·.toOption.map (·.text)) hparse).symm.trans hread
  | ok type =>
      have htext : type.text = "[[/ a ]/ [?]/is]]?" :=
        Option.some.inj ((congrArg (·.toOption.map (·.text)) hparse).symm.trans hread)
      obtain ⟨again, hagain⟩ := parse_text_of_parse hparse
      exact ⟨type, again, rfl, htext, hagain⟩

end FieldType

end RecordSchema
