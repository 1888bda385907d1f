import RecordSchema.Entries
import RecordSchema.Regex.Matcher
import RecordSchema.Regex.Meaning
import RecordSchema.Regex.Parser
import RecordSchema.Regex.Size

/-!
# Patterns

A `Pattern` is a regular expression with flags that a text has to match as a whole. It keeps what
was written next to the program that matches, and a proof that the one comes from the other, so two
patterns that are written alike are equal.
-/

namespace RecordSchema

open Regex (Term Flags)

/-- Why a source and flags are no pattern. -/
inductive PatternError where
  | unsupportedFlag (flag : Char)
  | duplicateFlag (flag : Char)
  | invalid
deriving DecidableEq

/-- The text of the error. -/
def PatternError.message : PatternError → String
  | .unsupportedFlag flag => "unsupported regex flag '" ++ flag.toString ++ "'"
  | .duplicateFlag flag => "duplicate regex flag '" ++ flag.toString ++ "'"
  | .invalid => "invalid regex"

namespace Pattern

/-- The flags that can follow a pattern. -/
def supportedFlags : List Char :=
  ['i', 'm', 's', 'u']

/-- The first thing wrong with the flags, from the left; `seen` are the flags before. -/
def flagError? (seen : List Char) : List Char → Option PatternError
  | [] => none
  | flag :: rest =>
      if !supportedFlags.contains flag then some (.unsupportedFlag flag)
      else if seen.contains flag then some (.duplicateFlag flag)
      else flagError? (flag :: seen) rest

/-- The flags in force at the start of a pattern. Unicode is on with or without its flag. -/
def flagsInForce (flags : List Char) : Flags :=
  { Flags.initial with
    ignoreCase := flags.contains 'i'
    multiLine := flags.contains 'm'
    dotAll := flags.contains 's' }

/-- The flags that are written inline; Unicode is on by itself. -/
def inlineFlags (flags : List Char) : List Char :=
  flags.filter (· != 'u')

/-- The source between anchors, as one expression with inline flags. -/
def anchoredText (source : String) (flags : List Char) : String :=
  let inline := inlineFlags flags
  let switches := if inline.isEmpty then [] else '(' :: '?' :: inline ++ [')']
  String.ofList (switches ++ ['\\', 'A', '(', '?', ':'] ++ source.toList ++ [')', '\\', 'z'])

/-- The program of a source under flags: the meaning of the source between anchors. The source has
to be an expression by itself too, so that a closing parenthesis in it cannot end the group around
it, and it has to be of a size that is admitted. -/
def program? (source : String) (flags : List Char) : Option Regex := do
  let term ← Term.parse? source
  let _ ← term.meaning? .initial
  let anchored ← Term.parse? (anchoredText source flags)
  guard (term.size (flagsInForce flags) ≤ Regex.maxProgramSize)
  anchored.meaning? .initial

end Pattern

/-- A regular expression with flags, and the program that matches whole texts. -/
structure Pattern where
  source : String
  flags : String
  program : Regex
  program_eq : Pattern.program? source flags.toList = some program

namespace Pattern

/-- Makes a pattern from its source and flags. -/
def compile (source flags : String) : Except PatternError Pattern :=
  match flagError? [] flags.toList with
  | some error => .error error
  | none =>
      match h : program? source flags.toList with
      | some program => .ok ⟨source, flags, program, h⟩
      | none => .error .invalid

/-- The pattern matches the whole text. -/
def isFullMatch (pattern : Pattern) (text : String) : Bool :=
  pattern.program.isFound text

/-- The pattern as it is written between slashes. -/
def chars (pattern : Pattern) : List Char :=
  '/' :: pattern.source.toList ++ '/' :: pattern.flags.toList

/-- The text of a pattern. -/
def text (pattern : Pattern) : String :=
  String.ofList pattern.chars

/-- Patterns that are written alike are equal. -/
theorem eq_of_written {p q : Pattern} (hs : p.source = q.source) (hf : p.flags = q.flags) :
    p = q := by
  obtain ⟨source, flags, program, h⟩ := p
  obtain ⟨source', flags', program', h'⟩ := q
  dsimp only at hs hf
  subst hs hf
  have : program = program' := Option.some.inj (h.symm.trans h')
  subst this
  rfl

instance : DecidableEq Pattern := fun p q ↦
  if h : p.source = q.source ∧ p.flags = q.flags then .isTrue (eq_of_written h.1 h.2)
  else .isFalse fun e ↦ h (by rw [e]; exact ⟨rfl, rfl⟩)

example :
    (program? "a$|b" []).any (·.isFound "b") ∧ ¬ (program? "a$|b" []).any (·.isFound "ab") := by
  decide +kernel

end Pattern

/-- Patterns by name, in the order in which they were first declared. -/
abbrev PatternLibrary := Entries Pattern

end RecordSchema
