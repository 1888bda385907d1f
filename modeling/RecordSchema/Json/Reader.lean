import RecordSchema.Json.Basic
import RecordSchema.Number.Scaled
import RecordSchema.Text.Hex

/-!
# Reading JSON text

`Json.parse?` reads one value with blanks around it. Members keep their order; a repeated key keeps
its first place and takes its last value. Values nest at most `maxDepth` deep. A number without
fraction and exponent that fits 64 bits is an integer, and every other number is a double; a number
that would be infinite is no number.
-/

namespace RecordSchema.Json

open Text (hexValue?)

/-- How deep arrays and objects may be nested in each other. -/
def maxDepth : Nat := 127

/-- The four characters that may stand between the tokens. -/
def isSpace (c : Char) : Bool :=
  c == ' ' || c == '\n' || c == '\t' || c == '\r'

/-- The text after its leading spaces. -/
def skipSpace (text : List Char) : List Char :=
  text.dropWhile isSpace

/-- Four hexadecimal digits and the text after them. -/
def fourHex? : List Char → Option (Nat × List Char)
  | a :: b :: c :: d :: rest => do
      let value := 4096 * (← hexValue? a) + 256 * (← hexValue? b) + 16 * (← hexValue? c)
      some (value + (← hexValue? d), rest)
  | _ => none

/-- The character of a `\u` escape after its first two characters, and the text after the escape. A
leading surrogate needs a trailing one behind it, and no surrogate stands alone. -/
def unicodeEscape? (text : List Char) : Option (Char × List Char) := do
  let (first, rest) ← fourHex? text
  if 0xdc00 ≤ first ∧ first ≤ 0xdfff then none
  else if 0xd800 ≤ first ∧ first ≤ 0xdbff then
    match rest with
    | '\\' :: 'u' :: rest =>
        let (second, rest) ← fourHex? rest
        if 0xdc00 ≤ second ∧ second ≤ 0xdfff then
          some (Char.ofNat (0x10000 + (first - 0xd800) * 0x400 + (second - 0xdc00)), rest)
        else none
    | _ => none
  else some (Char.ofNat first, rest)

/-- The character of an escape after its backslash, and the text after the escape. -/
def escape? : List Char → Option (Char × List Char)
  | '"' :: rest => some ('"', rest)
  | '\\' :: rest => some ('\\', rest)
  | '/' :: rest => some ('/', rest)
  | 'b' :: rest => some ('\x08', rest)
  | 'f' :: rest => some ('\x0c', rest)
  | 'n' :: rest => some ('\n', rest)
  | 'r' :: rest => some ('\r', rest)
  | 't' :: rest => some ('\t', rest)
  | 'u' :: rest => unicodeEscape? rest
  | _ => none

/-- The characters up to the closing quote, read in at most `steps` steps, after those in `read`,
which is in reverse. -/
def stringFrom? : Nat → List Char → List Char → Option (String × List Char)
  | _, read, '"' :: rest => some (String.ofList read.reverse, rest)
  | steps + 1, read, '\\' :: rest => do
      let (c, rest) ← escape? rest
      stringFrom? steps (c :: read) rest
  | steps + 1, read, c :: rest =>
      if c.toNat < 0x20 then none else stringFrom? steps (c :: read) rest
  | _, _, _ => none

/-- The string after its opening quote. -/
def string?From (text : List Char) : Option (String × List Char) :=
  stringFrom? text.length [] text

/-- The greatest number of 64 bits. -/
def maxWord : Nat := 0xffffffffffffffff

/-- The leading digits of a text, as many as fit 64 bits when they are appended to `significand`:
the number they make, how many they are, and the text after them. -/
def fittingDigits (significand : Nat) : List Char → Nat × Nat × List Char
  | c :: rest =>
      if c.isDigit then
        let next := 10 * significand + (c.toNat - '0'.toNat)
        if maxWord < next then (significand, 0, c :: rest)
        else
          let (value, count, rest) := fittingDigits next rest
          (value, count + 1, rest)
      else (significand, 0, c :: rest)
  | [] => (significand, 0, [])

/-- The exponent after its letter, and the text after it. -/
def exponent? (text : List Char) : Option (Int × List Char) :=
  let (sign, text) : Int × List Char := match text with
    | '+' :: rest => (1, rest)
    | '-' :: rest => (-1, rest)
    | _ => (1, text)
  let digits := text.takeWhile Char.isDigit
  if digits.isEmpty then none
  else
    let value := digits.foldl (fun n c ↦ 10 * n + (c.toNat - '0'.toNat)) 0
    some (sign * value, text.dropWhile Char.isDigit)

/-- The double with the significand and an exponent so far, which the text may go on with an
exponent of its own. -/
def realFrom? (negative : Bool) (significand : Nat) (power : Int) (text : List Char) :
    Option (JsonNumber × List Char) :=
  let finish (power : Int) (rest : List Char) : Option (JsonNumber × List Char) :=
    (Binary64.scaledDecimal negative significand power).map fun x ↦ (.real x, rest)
  match text with
  | 'e' :: rest | 'E' :: rest => do
      let (exponent, rest) ← exponent? rest
      finish (power + exponent) rest
  | _ => finish power text

/-- The double whose integer part has been read, from its point or exponent on. Digits of the
fraction that do not fit the significand any more are dropped. -/
def fraction? (negative : Bool) (significand : Nat) (power : Int) (text : List Char) :
    Option (JsonNumber × List Char) :=
  match text with
  | '.' :: rest =>
      if (rest.takeWhile Char.isDigit).isEmpty then none
      else
        let (value, count, rest) := fittingDigits significand rest
        realFrom? negative value (power - count) (rest.dropWhile Char.isDigit)
  | _ => realFrom? negative significand power text

/-- The text goes on with a fraction or an exponent. -/
def goesOn : List Char → Bool
  | c :: _ => c == '.' || c == 'e' || c == 'E'
  | [] => false

/-- The number after its sign. -/
def magnitude? (negative : Bool) (text : List Char) : Option (JsonNumber × List Char) :=
  let digits := text.takeWhile Char.isDigit
  let leadingZero := digits.head? == some '0'
  if digits.isEmpty || (leadingZero && digits.length ≠ 1) then none
  else
    let (significand, _, rest) := fittingDigits 0 text
    let dropped := rest.takeWhile Char.isDigit
    let rest := rest.dropWhile Char.isDigit
    if dropped.isEmpty && !goesOn rest then
      if !negative then some (.integer significand, rest)
      -- No integer keeps the sign of zero, or is below the numbers of 64 bits with a sign.
      else if significand = 0 ∨ 0x8000000000000000 < significand then
        some (.real (Binary64.ofRatio true significand 1), rest)
      else some (.integer (-significand), rest)
    else fraction? negative significand dropped.length rest

/-- The number at the start of the text. -/
def number? : List Char → Option (JsonNumber × List Char)
  | '-' :: rest => magnitude? true rest
  | text => magnitude? false text

/-- The text after the given word, if it starts with it. -/
def afterWord? : List Char → List Char → Option (List Char)
  | [], text => some text
  | c :: word, d :: text => if c = d then afterWord? word text else none
  | _ :: _, [] => none

/-- The items of an array from the first one on, read with `item?` in at most `steps` steps. -/
def items? (item? : List Char → Option (Json × List Char)) :
    Nat → List Json → List Char → Option (List Json × List Char)
  | 0, _, _ => none
  | steps + 1, read, text => do
      let (item, rest) ← item? (skipSpace text)
      match skipSpace rest with
      | ',' :: rest => items? item? steps (item :: read) rest
      | ']' :: rest => some ((item :: read).reverse, rest)
      | _ => none

/-- The members of an object from the first one on, read with `item?` in at most `steps` steps. -/
def membersFrom? (item? : List Char → Option (Json × List Char)) :
    Nat → List (String × Json) → List Char → Option (List (String × Json) × List Char)
  | 0, _, _ => none
  | steps + 1, read, text => do
      let rest ← afterWord? ['"'] (skipSpace text)
      let (key, rest) ← string?From rest
      let rest ← afterWord? [':'] (skipSpace rest)
      let (value, rest) ← item? (skipSpace rest)
      match skipSpace rest with
      | ',' :: rest => membersFrom? item? steps ((key, value) :: read) rest
      | '}' :: rest => some (Entries.ofList ((key, value) :: read).reverse, rest)
      | _ => none

/-- The value at the start of the text, with at most `depth` levels of arrays and objects. -/
def value? : Nat → List Char → Option (Json × List Char)
  | depth, text =>
    match text with
    | 'n' :: rest => (afterWord? ['u', 'l', 'l'] rest).map fun rest ↦ (.null, rest)
    | 't' :: rest => (afterWord? ['r', 'u', 'e'] rest).map fun rest ↦ (.bool true, rest)
    | 'f' :: rest => (afterWord? ['a', 'l', 's', 'e'] rest).map fun rest ↦ (.bool false, rest)
    | '"' :: rest => (string?From rest).map fun (s, rest) ↦ (.string s, rest)
    | '[' :: rest =>
        match depth with
        | 0 => none
        | depth + 1 =>
            match skipSpace rest with
            | ']' :: rest => some (.array [], rest)
            | rest => (items? (value? depth) rest.length [] rest).map fun (items, rest) ↦
                (.array items, rest)
    | '{' :: rest =>
        match depth with
        | 0 => none
        | depth + 1 =>
            match skipSpace rest with
            | '}' :: rest => some (.object [], rest)
            | rest => (membersFrom? (value? depth) rest.length [] rest).map fun (members, rest) ↦
                (.object members, rest)
    | _ => (number? text).map fun (n, rest) ↦ (.number n, rest)

/-- The value that a text stands for; `none` if it is not one JSON value. -/
def parse? (text : String) : Option Json := do
  let (value, rest) ← value? maxDepth (skipSpace text.toList)
  if (skipSpace rest).isEmpty then some value else none

example : (parse? r#" {"b": [1, -0, 1.50, 1e21], "a": "é", "b": null} "#).map compact
    = some r#"{"b":null,"a":"é"}"# := by decide +kernel

end RecordSchema.Json
