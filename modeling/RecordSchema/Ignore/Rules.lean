import RecordSchema.Files.Basic
import RecordSchema.Ignore.Glob
import RecordSchema.Text.Blank

/-!
# Rules of ignore files

Each line of an ignore file is a rule: a glob of paths below the folder of the file, with marks for
exceptions and for folders. The last rule that applies to a path decides.
-/

namespace RecordSchema.Ignore

/-- What is to happen with a file or folder. -/
inductive Verdict where
  | ignore
  | keep
deriving DecidableEq

/-- A line of an ignore file. -/
structure Rule where
  verdict : Verdict
  onlyFolders : Bool
  paths : Regex

namespace Rule

/-- The rule has something to say on the path, which is given from the folder of its file. -/
def applies (rule : Rule) (path : String) (isFolder : Bool) : Bool :=
  (isFolder || !rule.onlyFolders) && rule.paths.isWhole (bytesOf path)

/-- A line without the blanks at its end, unless the last one follows a backslash. -/
def withoutBlanks (line : List Char) : List Char :=
  match line.reverse with
  | ' ' :: '\\' :: _ => line
  | _ => Text.trimEnd line

/-- The marks at the start of a line: whether it is an exception, whether its glob starts at the
folder of the file, and the rest. -/
def marks : List Char → Verdict × Bool × List Char
  | '\\' :: '!' :: rest => (.ignore, false, '!' :: rest)
  | '\\' :: '#' :: rest => (.ignore, false, '#' :: rest)
  | '!' :: '/' :: rest => (.keep, true, rest)
  | '!' :: rest => (.keep, false, rest)
  | '/' :: rest => (.ignore, true, rest)
  | line => (.ignore, false, line)

/-- The mark at the end of a line: whether it is for folders only, and the glob. -/
def folderMark (line : List Char) : Bool × List Char :=
  match line.reverse with
  | '/' :: '\\' :: rest => (true, rest.reverse)
  | '/' :: rest => (true, rest.reverse)
  | _ => (false, line)

/-- The glob applies in every folder below, as it starts with two stars. -/
def startsAnywhere : List Char → Bool
  | ['*', '*'] => true
  | '*' :: '*' :: '/' :: _ => true
  | _ => false

/-- The glob of all paths that a rule means. A glob without a slash counts in every folder below,
and one that ends in `/**` does not mean the folder itself. -/
def fullGlob (isAnchored : Bool) (glob : List Char) : List Char :=
  let glob :=
    if isAnchored || glob.contains '/' || startsAnywhere glob then glob else "**/".toList ++ glob
  if "/**".toList.isSuffixOf glob then glob ++ "/*".toList else glob

/-- The rule of a line. Comments, blank lines and lines that are no glob have none. -/
def ofLine? (line : List Char) : Option Rule :=
  if line.head? = some '#' then none
  else
    match withoutBlanks line with
    | [] => none
    | line =>
        let (verdict, isAnchored, line) := marks line
        let (onlyFolders, glob) := folderMark line
        (glob? (fullGlob isAnchored glob)).map fun paths ↦ ⟨verdict, onlyFolders, paths⟩

end Rule

/-- The lines of a file up to the first one that is no text. -/
def textLines : List ByteArray → List String
  | [] => []
  | line :: rest =>
      match String.fromUTF8? line with
      | some text => text :: textLines rest
      | none => []

/-- The bytes between the ends of lines. -/
def byteLines (content : ByteArray) : List ByteArray :=
  let (lines, last) := content.toList.foldl
    (fun (lines, line) (byte : UInt8) ↦
      if byte = 10 then (line :: lines, ByteArray.empty) else (lines, line.push byte))
    ([], ByteArray.empty)
  (last :: lines).reverse

/-- The line without the carriage return at its end. -/
def withoutReturn (line : List Char) : List Char :=
  match line.reverse with
  | '\r' :: rest => rest.reverse
  | _ => line

/-- The rules of an ignore file. Marks of the byte order at its start do not count. -/
def rulesOf (content : ByteArray) : List Rule :=
  match (textLines (byteLines content)).map fun line ↦ withoutReturn line.toList with
  | [] => []
  | first :: rest => (first.dropWhile (· == '\ufeff') :: rest).filterMap Rule.ofLine?

/-- What the rules say on a path, given from their folder. -/
def verdict? (rules : List Rule) (path : String) (isFolder : Bool) : Option Verdict :=
  (rules.reverse.find? (·.applies path isFolder)).map (·.verdict)

example : verdict? (rulesOf "*.json\n!keep.json\n".toUTF8) "a/keep.json" false = some .keep := by
  decide +kernel

end RecordSchema.Ignore
