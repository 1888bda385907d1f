import RecordSchema.Regex.Term

/-!
# The flags in force

Flags are switched by groups of flags inside an expression. At the start only `unicode` is on.
-/

namespace RecordSchema.Regex

/-- The flags in force at a place of an expression. Whether a repetition prefers to be short and
whether blanks count is of no account for what an expression matches. -/
structure Flags where
  ignoreCase : Bool
  multiLine : Bool
  dotAll : Bool
  unicode : Bool
  crlf : Bool
deriving DecidableEq

namespace Flags

/-- The flags at the start of an expression. -/
def initial : Flags :=
  ⟨false, false, false, true, false⟩

/-- Switches one flag. -/
def set (flags : Flags) (flag : Flag) (on : Bool) : Flags :=
  match flag with
  | .ignoreCase => { flags with ignoreCase := on }
  | .multiLine => { flags with multiLine := on }
  | .dotAll => { flags with dotAll := on }
  | .unicode => { flags with unicode := on }
  | .crlf => { flags with crlf := on }
  | .lazy | .extended => flags

/-- Switches the flags that `items` name; those behind a negation are turned off. -/
def update (on : Bool) (flags : Flags) : List FlagItem → Flags
  | [] => flags
  | .negation :: items => update false flags items
  | .flag f :: items => update on (flags.set f on) items

end Flags

end RecordSchema.Regex
