import RecordSchema.Instant.Basic
import RecordSchema.Number.Power

/-!
# Instants as RFC 3339 text

`Instant.text` writes an instant in universal time with three digits of the second, cutting off
finer parts. `Instant.parse?` reads a date, one of `T`, `t` and a space, a time with any number of
digits of the second, and an offset: `Z`, `z`, or a sign with hours and minutes below a day. Digits
after the ninth are dropped.
-/

namespace RecordSchema

namespace Instant

/-- The decimal digits of `n`, with zeros in front up to the given width. -/
def padded (width n : Nat) : List Char :=
  let digits := Nat.toDigits 10 n
  List.replicate (width - digits.length) '0' ++ digits

/-- The year in four digits, with a sign and as many as it takes outside the years 0 to 9999. -/
def yearText (year : Int) : List Char :=
  if 0 ≤ year ∧ year ≤ 9999 then padded 4 year.toNat
  else (if year < 0 then '-' else '+') :: padded 4 year.natAbs

/-- The characters of the RFC 3339 text of an instant, in universal time and to the millisecond. -/
def textChars (i : Instant) : List Char :=
  yearText i.day.year ++ '-' :: padded 2 i.day.month ++ '-' :: padded 2 i.day.day
    ++ 'T' :: padded 2 i.time.hour ++ ':' :: padded 2 i.time.minute ++ ':' :: padded 2 i.time.second
    ++ '.' :: padded 3 (i.time.nano / 1000000) ++ ['Z']

/-- The RFC 3339 text of an instant. -/
def text (i : Instant) : String :=
  String.ofList i.textChars

/-- The value of a decimal digit. -/
def digit? (c : Char) : Option Nat :=
  if c.isDigit then some (c.toNat - '0'.toNat) else none

/-- Exactly `count` digits at the start of the text, appended to `value`, and the text behind. -/
def digits? : Nat → Nat → List Char → Option (Nat × List Char)
  | 0, value, rest => some (value, rest)
  | count + 1, value, c :: rest => do digits? count (10 * value + (← digit? c)) rest
  | _ + 1, _, [] => none

/-- The text after `c`, if it starts with `c`. -/
def after? (c : Char) : List Char → Option (List Char)
  | d :: rest => if d = c then some rest else none
  | [] => none

/-- Up to nine digits as a number of nanoseconds, and the text after all the digits. There has to be
at least one. -/
def fraction? (text : List Char) : Option (Nat × List Char) :=
  let (digits, rest) := (text.takeWhile Char.isDigit, text.dropWhile Char.isDigit)
  let kept := digits.take 9
  if digits.isEmpty then none
  else
    let value := kept.foldl (fun n c ↦ 10 * n + (c.toNat - '0'.toNat)) 0
    some (value * powerOfTen (9 - kept.length), rest)

/-- The sign of an offset. The minus sign may be the hyphen or the mathematical one. -/
def offsetSign? : List Char → Option (Int × List Char)
  | '+' :: rest => some (1, rest)
  | '-' :: rest => some (-1, rest)
  | '\u2212' :: rest => some (-1, rest)
  | _ => none

/-- The offset at the end of the text, in minutes. -/
def offset? : List Char → Option (Int × List Char)
  | 'Z' :: rest => some (0, rest)
  | 'z' :: rest => some (0, rest)
  | text => do
      let (sign, rest) ← offsetSign? text
      let (hours, rest) ← digits? 2 0 rest
      let rest ← after? ':' rest
      let (minutes, rest) ← digits? 2 0 rest
      if hours < 24 ∧ minutes < 60 then some (sign * (60 * hours + minutes), rest) else none

/-- The day at the start of the text. -/
def day? (text : List Char) : Option (CalendarDay × List Char) := do
  let (year, rest) ← digits? 4 0 text
  let rest ← after? '-' rest
  let (month, rest) ← digits? 2 0 rest
  let rest ← after? '-' rest
  let (day, rest) ← digits? 2 0 rest
  some (⟨year, month, day⟩, rest)

/-- The time of day at the start of the text. -/
def time? (text : List Char) : Option (TimeOfDay × List Char) := do
  let (hour, rest) ← digits? 2 0 text
  let rest ← after? ':' rest
  let (minute, rest) ← digits? 2 0 rest
  let rest ← after? ':' rest
  let (second, rest) ← digits? 2 0 rest
  match rest with
  | '.' :: rest =>
      let (nano, rest) ← fraction? rest
      some (⟨hour, minute, second, nano⟩, rest)
  | _ => some (⟨hour, minute, second, 0⟩, rest)

/-- The text after the character between date and time. -/
def afterSeparator? : List Char → Option (List Char)
  | c :: rest => if c = 'T' ∨ c = 't' ∨ c = ' ' then some rest else none
  | [] => none

/-- The instant that RFC 3339 text stands for. -/
def parseChars? (text : List Char) : Option Instant := do
  let (day, rest) ← day? text
  let rest ← afterSeparator? rest
  let (time, rest) ← time? rest
  let (offset, rest) ← offset? rest
  if rest.isEmpty then ofLocal? day time offset else none

/-- The instant that RFC 3339 text stands for. -/
def parse? (text : String) : Option Instant :=
  parseChars? text.toList

example : (parse? "2024-03-01T09:30:00Z").map text = some "2024-03-01T09:30:00.000Z" := by
  decide +kernel
example :
    (parse? "0000-01-01t00:00:60.1239+23:59").map text = some "-0001-12-31T00:01:60.123Z" := by
  decide +kernel
example : parse? "2023-02-29T00:00:00Z" = none := by decide +kernel

end Instant

end RecordSchema
