import RecordSchema.Text.Hex

/-!
# Texts and blanks in TOML

Strings stand in one or three quotes of either kind; only between double quotes do escapes count.
Each reader takes the text behind the opening quotes and gives back what it leaves.
-/

namespace RecordSchema.Toml

open Text (charOfCode? hexValue?)

/-- A blank inside a line. -/
def isBlank (c : Char) : Bool :=
  c == ' ' || c == '\t'

/-- The text behind blanks. -/
def skipBlanks (text : List Char) : List Char :=
  text.dropWhile isBlank

/-- A character that may stand inside a line: all but control characters, save the tab. -/
def isLineChar (c : Char) : Bool :=
  c == '\t' || (0x20 ≤ c.toNat && c.toNat != 0x7f)

/-- The text behind the end of a line. -/
def afterNewline? : List Char → Option (List Char)
  | '\n' :: rest => some rest
  | '\r' :: '\n' :: rest => some rest
  | _ => none

/-- The text behind a comment, if it starts with one. -/
def skipComment : List Char → List Char
  | '#' :: rest => rest.dropWhile isLineChar
  | text => text

/-- The text behind blanks, comments and ends of lines. -/
def skipLines : Nat → List Char → List Char
  | 0, text => text
  | fuel + 1, text =>
      let rest := skipComment (skipBlanks text)
      match afterNewline? rest with
      | some next => skipLines fuel next
      | none => rest

/-- Reads a number of hexadecimal digits as the code of a character. -/
def charCode? : Nat → Nat → List Char → Option (Char × List Char)
  | 0, code, text => (charOfCode? code).map fun c ↦ (c, text)
  | _ + 1, _, [] => none
  | count + 1, code, c :: rest => do charCode? count (16 * code + (← hexValue? c)) rest

/-- Reads an escape, behind its backslash. -/
def escape? : List Char → Option (Char × List Char)
  | 'b' :: rest => some ('\x08', rest)
  | 't' :: rest => some ('\t', rest)
  | 'n' :: rest => some ('\n', rest)
  | 'f' :: rest => some ('\x0c', rest)
  | 'r' :: rest => some ('\r', rest)
  | 'e' :: rest => some ('\x1b', rest)
  | '"' :: rest => some ('"', rest)
  | '\\' :: rest => some ('\\', rest)
  | 'x' :: rest => charCode? 2 0 rest
  | 'u' :: rest => charCode? 4 0 rest
  | 'U' :: rest => charCode? 8 0 rest
  | _ => none

/-- Reads a string in one pair of double quotes. `found` are the characters so far, the latest
first. -/
def basic? : Nat → List Char → List Char → Option (String × List Char)
  | 0, _, _ => none
  | _ + 1, _, [] => none
  | fuel + 1, found, c :: rest =>
      if c == '"' then some (String.ofList found.reverse, rest)
      else if c == '\\' then do
        let (escaped, rest) ← escape? rest
        basic? fuel (escaped :: found) rest
      else if isLineChar c then basic? fuel (c :: found) rest
      else none

/-- Reads a string in one pair of single quotes. -/
def literal? (text : List Char) : Option (String × List Char) :=
  let found := text.takeWhile fun c ↦ c != '\'' && isLineChar c
  match text.drop found.length with
  | '\'' :: rest => some (String.ofList found, rest)
  | _ => none

/-- Reads the end of a string in three quotes: two more quotes may belong to the string. -/
def closing? (quote : Char) : List Char → Option (List Char × List Char)
  | a :: b :: c :: rest =>
      if a == quote && b == quote && c == quote then
        let extra := (rest.take 2).takeWhile (· == quote)
        some (extra, rest.drop extra.length)
      else none
  | _ => none

/-- The text behind the end of a line that stands right after opening quotes. -/
def skipFirstNewline (text : List Char) : List Char :=
  (afterNewline? text).getD text

/-- The text behind a backslash that ends its line: all blanks and ends of lines are skipped. -/
def afterContinuation? (text : List Char) : Option (List Char) :=
  (afterNewline? (skipBlanks text)).map fun rest ↦
    rest.dropWhile fun c ↦ isBlank c || c == '\n' || c == '\r'

/-- Reads a string in three double quotes. -/
def multilineBasic? : Nat → List Char → List Char → Option (String × List Char)
  | 0, _, _ => none
  | _ + 1, _, [] => none
  | fuel + 1, found, c :: rest =>
      match closing? '"' (c :: rest) with
      | some (extra, rest) => some (String.ofList (found.reverse ++ extra), rest)
      | none =>
          if c == '\\' then
            match afterContinuation? rest with
            | some rest => multilineBasic? fuel found rest
            | none => do
                let (escaped, rest) ← escape? rest
                multilineBasic? fuel (escaped :: found) rest
          else if c == '\n' || isLineChar c then multilineBasic? fuel (c :: found) rest
          else
            match c, rest with
            | '\r', '\n' :: rest => multilineBasic? fuel ('\n' :: '\r' :: found) rest
            | _, _ => none

/-- Reads a string in three single quotes. -/
def multilineLiteral? : Nat → List Char → List Char → Option (String × List Char)
  | 0, _, _ => none
  | _ + 1, _, [] => none
  | fuel + 1, found, c :: rest =>
      match closing? '\'' (c :: rest) with
      | some (extra, rest) => some (String.ofList (found.reverse ++ extra), rest)
      | none =>
          if c == '\n' || isLineChar c then multilineLiteral? fuel (c :: found) rest
          else
            match c, rest with
            | '\r', '\n' :: rest => multilineLiteral? fuel ('\n' :: '\r' :: found) rest
            | _, _ => none

/-- Reads a string of one line. -/
def lineString? : List Char → Option (String × List Char)
  | '"' :: rest => basic? (rest.length + 1) [] rest
  | '\'' :: rest => literal? rest
  | _ => none

/-- Reads a string of any kind. -/
def string? : List Char → Option (String × List Char)
  | '"' :: '"' :: '"' :: rest => multilineBasic? (rest.length + 1) [] (skipFirstNewline rest)
  | '\'' :: '\'' :: '\'' :: rest => multilineLiteral? (rest.length + 1) [] (skipFirstNewline rest)
  | text => lineString? text

end RecordSchema.Toml
