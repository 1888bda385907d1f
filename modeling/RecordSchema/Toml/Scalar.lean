import RecordSchema.Instant.Rfc3339
import RecordSchema.Json.Basic
import RecordSchema.Number.Scaled
import RecordSchema.Toml.Text

/-!
# Numbers, dates and truth values in TOML

A scalar is read as the JSON value that it stands for. JSON has no place for numbers that are not
finite, which become null, or for dates, which become an object with one member of their own.
-/

namespace RecordSchema.Toml

/-- The name of the member that holds the text of a date. -/
def dateMember : String := "$__toml_private_datetime"

/-- A character of numbers, dates and truth values. -/
def isScalarChar (c : Char) : Bool :=
  c.isAlphanum || c == '_' || c == '+' || c == '-' || c == '.' || c == ':'

/-! ## Numbers -/

/-- The digits without the low lines between them; a low line has a digit on both sides. -/
def ungrouped? (isDigit : Char → Bool) : List Char → Option (List Char)
  | [] => none
  | [c] => if isDigit c then some [c] else none
  | c :: '_' :: d :: rest =>
      if isDigit c && isDigit d then (ungrouped? isDigit (d :: rest)).map (c :: ·) else none
  | c :: rest => if isDigit c then (ungrouped? isDigit rest).map (c :: ·) else none

/-- The value of digits in a base. -/
def digitsValue (base : Nat) (digits : List Char) : Nat :=
  digits.foldl (fun value c ↦ base * value + (Text.hexValue? c).getD 0) 0

/-- Reads a whole number in a base other than ten, behind its mark. -/
def based? (base : Nat) (text : List Char) : Option Nat :=
  (ungrouped? (fun c ↦ (Text.hexValue? c).any (· < base)) text).map (digitsValue base)

/-- Reads a decimal whole number, which does not start with a needless zero. -/
def whole? (text : List Char) : Option Nat := do
  let digits ← ungrouped? Char.isDigit text
  match digits with
  | '0' :: _ :: _ => none
  | digits => some (digitsValue 10 digits)

/-- The sign of a number, and the text behind it. -/
def signed : List Char → Bool × List Char
  | '-' :: rest => (true, rest)
  | '+' :: rest => (false, rest)
  | text => (false, text)

/-- Integers have 128 bits at most, with or without a sign. -/
def integer? (negative : Bool) (magnitude : Nat) : Option Json :=
  if magnitude < powerOfTwo 128 && (!negative || magnitude ≤ powerOfTwo 127) then
    some (.number (.integer (if negative then -magnitude else magnitude)))
  else none

/-- The number as a JSON value. -/
def ofReal : Binary64 → Json
  | .finite n m e h => .number (.real (.finite n m e h))
  | _ => .null

/-- Reads the exponent of a number. -/
def exponent? : List Char → Option Int
  | [] => some 0
  | c :: rest => do
      guard (c == 'e' || c == 'E')
      let (negative, digits) := signed rest
      let value := digitsValue 10 (← ungrouped? Char.isDigit digits)
      return if negative then -value else value

/-- Reads a number with a fraction or an exponent. One that is too large is an error. -/
def real? (negative : Bool) (text : List Char) : Option Json := do
  let isExponent := fun c ↦ c == 'e' || c == 'E'
  let mantissa := text.takeWhile (!isExponent ·)
  let exponent ← exponent? (text.dropWhile (!isExponent ·))
  let front := mantissa.takeWhile (· != '.')
  -- The integer part follows the rule for zeros at the start; its digits count with the fraction's.
  let _ ← whole? front
  let digits ← ungrouped? Char.isDigit front
  let fraction ← match mantissa.dropWhile (· != '.') with
    | [] => some []
    | _ :: fraction => ungrouped? Char.isDigit fraction
  let value := digitsValue 10 (digits ++ fraction)
  match Binary64.nearestDecimal negative value (exponent - fraction.length) with
  | .infinity _ => none
  | x => return ofReal x

/-- Reads a number. -/
def number? (text : List Char) : Option Json :=
  let (negative, rest) := signed text
  match text with
  | '0' :: 'x' :: digits => do integer? false (← based? 16 digits)
  | '0' :: 'o' :: digits => do integer? false (← based? 8 digits)
  | '0' :: 'b' :: digits => do integer? false (← based? 2 digits)
  | _ =>
      if rest == ['i', 'n', 'f'] || rest == ['n', 'a', 'n'] then some .null
      else
        match whole? rest with
        | some magnitude => integer? negative magnitude
        | none =>
            if rest.any fun c ↦ c == '.' || c == 'e' || c == 'E' then real? negative rest else none

/-! ## Dates -/

open Instant (digits? padded)

/-- The text behind a character, if it starts with it. -/
def behind? (c : Char) : List Char → Option (List Char)
  | d :: rest => if d == c then some rest else none
  | [] => none

/-- Reads a fraction of a second and gives it without needless zeros. -/
def secondFraction? : List Char → Option (List Char × List Char)
  | '.' :: rest =>
      let digits := rest.takeWhile Char.isDigit
      let kept := ((digits.take 9).reverse.dropWhile (· == '0')).reverse
      if digits.isEmpty then none
      else some ('.' :: (if kept.isEmpty then ['0'] else kept), rest.drop digits.length)
  | text => some ([], text)

/-- Reads a time of day, whose seconds may be left out, and gives it in its usual form. -/
def time? (text : List Char) : Option (List Char × List Char) := do
  let (hour, rest) ← digits? 2 0 text
  let rest ← behind? ':' rest
  let (minute, rest) ← digits? 2 0 rest
  guard (hour < 24 && minute < 60)
  let front := padded 2 hour ++ ':' :: padded 2 minute
  match rest with
  | ':' :: rest =>
      let (second, rest) ← digits? 2 0 rest
      guard (second ≤ 60)
      let (fraction, rest) ← secondFraction? rest
      return (front ++ ':' :: padded 2 second ++ fraction, rest)
  | rest => return (front, rest)

/-- Reads the offset of a time, if there is one. -/
def offset? : List Char → Option (List Char)
  | [] => some []
  | ['Z'] | ['z'] => some ['Z']
  | sign :: rest => do
      guard (sign == '+' || sign == '-')
      let (hours, rest) ← digits? 2 0 rest
      let rest ← behind? ':' rest
      let (minutes, rest) ← digits? 2 0 rest
      guard (hours < 24 && minutes < 60 && rest.isEmpty)
      return sign :: padded 2 hours ++ ':' :: padded 2 minutes

/-- Reads a date, with a time and an offset or without. -/
def dated? (text : List Char) : Option (List Char) := do
  let (day, rest) ← Instant.day? text
  guard (decide day.Exists)
  let front := padded 4 day.year.toNat ++ '-' :: padded 2 day.month ++ '-' :: padded 2 day.day
  match rest with
  | [] => return front
  | separator :: rest =>
      guard (separator == 'T' || separator == 't' || separator == ' ')
      let (time, rest) ← time? rest
      return front ++ 'T' :: time ++ (← offset? rest)

/-- Reads a date, a time, or both. -/
def date? (text : List Char) : Option (List Char) :=
  match dated? text with
  | some date => some date
  | none =>
      match time? text with
      | some (time, []) => some time
      | _ => none

/-! ## Scalars -/

/-- Reads the text of a scalar. -/
def scalar? (text : List Char) : Option Json :=
  if text == ['t', 'r', 'u', 'e'] then some (.bool true)
  else if text == ['f', 'a', 'l', 's', 'e'] then some (.bool false)
  else
    match number? text with
    | some number => some number
    | none => (date? text).map fun date ↦ .object [(dateMember, .string (String.ofList date))]

/-- The characters of a scalar at the start of a text, and the rest. A blank can stand between a
date and a time. -/
def scalarText (text : List Char) : List Char × List Char :=
  let first := text.takeWhile isScalarChar
  let rest := text.drop first.length
  match dated? first, rest with
  | some _, ' ' :: rest' =>
      let second := rest'.takeWhile isScalarChar
      if first.length == 10 && second.head?.any Char.isDigit then
        (first ++ ' ' :: second, rest'.drop second.length)
      else (first, rest)
  | _, _ => (first, rest)

example : (number? ['-', '1', '_', '0', '0', '0']).map Json.compact = some "-1000" := by
  decide +kernel

end RecordSchema.Toml
