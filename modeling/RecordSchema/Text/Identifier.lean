/-!
# Identifiers

Types, variants and keys of keyed collections are named by identifiers: an ASCII letter or an
underscore, then ASCII letters, digits and underscores.
-/

namespace RecordSchema.Text

/-- The character can start an identifier. -/
def startsIdentifier (c : Char) : Bool :=
  c.isAlpha || c == '_'

/-- The character can stand in an identifier after its start. -/
def continuesIdentifier (c : Char) : Bool :=
  c.isAlphanum || c == '_'

/-- The characters spell an identifier. -/
def isIdentifierChars : List Char → Bool
  | [] => false
  | c :: rest => startsIdentifier c && rest.all continuesIdentifier

/-- The text is an identifier. -/
def isIdentifier (name : String) : Bool :=
  isIdentifierChars name.toList

/-- What starts an identifier also continues one. -/
theorem continuesIdentifier_of_starts {c : Char} (h : startsIdentifier c) :
    continuesIdentifier c := by
  simp only [startsIdentifier, continuesIdentifier, Char.isAlphanum, Bool.or_eq_true] at h ⊢
  rcases h with h | h
  · exact .inl (.inl h)
  · exact .inr h

/-- Every character of an identifier is one that continues identifiers. -/
theorem all_continuesIdentifier {chars : List Char} (h : isIdentifierChars chars) :
    chars.all continuesIdentifier := by
  cases chars with
  | nil => rfl
  | cons c rest =>
      simp only [isIdentifierChars, Bool.and_eq_true] at h
      simp [continuesIdentifier_of_starts h.1, h.2]

example : isIdentifier "_private2" ∧ ¬ isIdentifier "2fast" ∧ ¬ isIdentifier "with-dash" := by
  decide +kernel

end RecordSchema.Text
