import RecordSchema.Toml.Scalar
import RecordSchema.Toml.Table

/-!
# Reading TOML

`Toml.parse?` reads a document as a JSON object. A document is a list of lines; a line holds a
header or a key with its value. The lines up to the next header make up the table of a header.
-/

namespace RecordSchema.Toml

/-- Arrays and inline tables may be nested this deep. -/
def maxNesting : Nat := 80

/-! ## Keys -/

/-- A character of a key without quotes. -/
def isKeyChar (c : Char) : Bool :=
  c.isAlphanum || c == '_' || c == '-'

/-- Reads one part of a key. -/
def simpleKey? (text : List Char) : Option (String × List Char) :=
  match lineString? text with
  | some result => some result
  | none =>
      let key := text.takeWhile isKeyChar
      if key.isEmpty then none else some (String.ofList key, text.drop key.length)

/-- Reads a key with its parts, separated by dots; gives the parts before the last one, the last
one, and the text behind the key and blanks. -/
def key? : Nat → List String → List Char → Option ((List String × String) × List Char)
  | 0, _, _ => none
  | fuel + 1, path, text => do
      let (part, rest) ← simpleKey? (skipBlanks text)
      match skipBlanks rest with
      | '.' :: rest => key? fuel (path ++ [part]) rest
      | rest => return ((path, part), rest)

/-- Reads a key. -/
def dottedKey? (text : List Char) : Option ((List String × String) × List Char) :=
  key? (text.length + 1) [] text

/-! ## Values -/

/-- Skips everything that may stand between the items of an array or an inline table. -/
def skipBetween (text : List Char) : List Char :=
  skipLines (text.length + 1) text

/-- Reads the items of an array up to its closing bracket. -/
def items? (value? : List Char → Option (Json × List Char)) :
    Nat → List Json → List Char → Option (Json × List Char)
  | 0, _, _ => none
  | fuel + 1, found, text =>
      match skipBetween text with
      | ']' :: rest => some (.array found.reverse, rest)
      | text => do
          let (item, rest) ← value? text
          match skipBetween rest with
          | ',' :: rest => items? value? fuel (item :: found) rest
          | ']' :: rest => return (.array (item :: found).reverse, rest)
          | _ => none

/-- Reads a key and a value with an equals sign between them. -/
def keyValue? (value? : List Char → Option (Json × List Char)) (text : List Char) :
    Option ((List String × String × Json) × List Char) := do
  let ((path, key), rest) ← dottedKey? text
  let rest ← behind? '=' rest
  let (value, rest) ← value? (skipBlanks rest)
  return ((path, key, value), rest)

/-- Reads the entries of an inline table up to its closing brace. -/
def entries? (value? : List Char → Option (Json × List Char)) :
    Nat → Table → List Char → Option (Json × List Char)
  | 0, _, _ => none
  | fuel + 1, table, text =>
      match skipBetween text with
      | '}' :: rest => some (.object (tableMembers table), rest)
      | text => do
          let ((path, key, value), rest) ← keyValue? value? text
          let table ← table.addValue path key value
          match skipBetween rest with
          | ',' :: rest => entries? value? fuel table rest
          | '}' :: rest => return (.object (tableMembers table), rest)
          | _ => none

/-- Reads a value in which arrays and inline tables are nested at most `depth` deep. -/
def value? : Nat → List Char → Option (Json × List Char)
  | depth, '[' :: rest =>
      match depth with
      | 0 => none
      | depth + 1 => items? (value? depth) (rest.length + 1) [] rest
  | depth, '{' :: rest =>
      match depth with
      | 0 => none
      | depth + 1 => entries? (value? depth) (rest.length + 1) [] rest
  | _, text =>
      match text with
      | '"' :: _ | '\'' :: _ => (string? text).map fun (s, rest) ↦ (.string s, rest)
      | _ => do
          let (found, rest) := scalarText text
          return (← scalar? found, rest)

/-! ## Documents -/

/-- The header that the lines read belong to. -/
structure Header where
  path : List String
  key : String
  isArray : Bool

/-- What has been read: all tables but the open one, its header, and its entries so far. -/
structure Progress where
  root : Table
  header : Option Header
  current : Table

namespace Progress

/-- Puts the open table in its place. -/
def close (p : Progress) : Option Table :=
  match p.header with
  | none => some p.current
  | some h =>
      if h.isArray then Table.closeItem h.path h.key p.current p.root
      else Table.closeTable h.path h.key p.current p.root

/-- Goes on with the table of a new header. -/
def start (p : Progress) (header : Header) : Option Progress := do
  let root ← p.close
  if header.isArray then return ⟨root, some header, []⟩
  else
    let (root, current) ← Table.openTable header.path header.key root
    return ⟨root, some header, current⟩

end Progress

/-- Reads a header, behind its opening bracket. The brackets of an array of tables stand close
together. -/
def header? (text : List Char) : Option (Header × List Char) :=
  match text with
  | '[' :: rest => do
      let ((path, key), rest) ← dottedKey? rest
      let rest ← behind? ']' rest
      let rest ← behind? ']' rest
      return (⟨path, key, true⟩, rest)
  | rest => do
      let ((path, key), rest) ← dottedKey? rest
      let rest ← behind? ']' rest
      return (⟨path, key, false⟩, rest)

/-- The text behind the end of a line on which nothing else may stand. -/
def endLine? (text : List Char) : Option (List Char) :=
  match skipComment (skipBlanks text) with
  | [] => some []
  | rest => afterNewline? rest

/-- Reads lines to the end of the document. -/
def lines? : Nat → Progress → List Char → Option Table
  | 0, _, _ => none
  | fuel + 1, p, text =>
      match skipBetween text with
      | [] => p.close
      | '[' :: rest => do
          let (header, rest) ← header? rest
          let p ← p.start header
          lines? fuel p (← endLine? rest)
      | text => do
          let ((path, key, value), rest) ← keyValue? (value? maxNesting) text
          let current ← p.current.addValue path key value
          lines? fuel { p with current } (← endLine? rest)

/-- The text without a mark of its byte order. -/
def withoutMark : List Char → List Char
  | '\ufeff' :: rest => rest
  | text => text

/-- Reads a document. -/
def parse? (text : String) : Option Json := do
  let text := withoutMark text.toList
  let table ← lines? (text.length + 1) ⟨[], none, []⟩ text
  return .object (tableMembers table)

end RecordSchema.Toml
