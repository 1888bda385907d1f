import RecordSchema.Config
import RecordSchema.Instant.Rfc3339
import RecordSchema.Text.Identifier
import RecordSchema.Value

/-!
# Laying out values

A `Layout` is a text with groups in it. A group is written on one line if it fits from the column
where it starts; otherwise each of its entries has a line of its own, one level deeper. `Value.text`
and `Instance.text` lay out values with lines of eighty characters.
-/

namespace RecordSchema

/-- A text that can be broken between the entries of its groups. -/
inductive Layout where
  | atom (text : List Char)
  | group (opening closing : List Char) (entries : List (List Char × Layout))

namespace Layout

mutual

/-- The text on one line. -/
def flat : Layout → List Char
  | .atom text => text
  | .group opening closing entries => opening ++ flatEntries entries ++ closing

/-- The entries on one line, with their labels and separated by commas. -/
def flatEntries : List (List Char × Layout) → List Char
  | [] => []
  | [(label, entry)] => label ++ flat entry
  | (label, entry) :: next :: rest =>
      label ++ flat entry ++ ',' :: ' ' :: flatEntries (next :: rest)

end

/-- The blanks at the start of a line. -/
def blanks (indent : Nat) : List Char :=
  List.replicate indent ' '

mutual

/-- The text within a width. It starts at `column` of a line that is indented by `indent`, and
`trailing` characters follow it on its last line. -/
def chars (config : LayoutConfig) (indent column trailing : Nat) : Layout → List Char
  | .atom text => text
  | .group opening closing entries =>
      let line := opening ++ flatEntries entries ++ closing
      if entries.isEmpty || column + line.length + trailing ≤ config.maxWidth then line
      else
        opening ++ '\n' :: brokenEntries config (indent + config.indent) entries
          ++ blanks indent ++ closing

/-- The entries on lines of their own, which are indented by `indent`. -/
def brokenEntries (config : LayoutConfig) (indent : Nat) : List (List Char × Layout) → List Char
  | [] => []
  | [(label, entry)] =>
      blanks indent ++ label ++ chars config indent (indent + label.length) 0 entry ++ ['\n']
  | (label, entry) :: next :: rest =>
      blanks indent ++ label ++ chars config indent (indent + label.length) 1 entry
        ++ ',' :: '\n' :: brokenEntries config indent (next :: rest)

end

/-- The text of a layout that starts a line. -/
def text (config : LayoutConfig) (layout : Layout) : String :=
  String.ofList (layout.chars config 0 0 0)

/-- A layout that fits is laid out on one line. -/
theorem chars_eq_flat {config : LayoutConfig} {indent column trailing : Nat} {layout : Layout}
    (h : column + layout.flat.length + trailing ≤ config.maxWidth) :
    layout.chars config indent column trailing = layout.flat := by
  cases layout with
  | atom text => simp [chars, flat]
  | group opening closing entries =>
      rw [flat] at h ⊢
      rw [chars]
      exact if_pos (by rw [decide_eq_true h, Bool.or_true])

example :
    (group ['['] [']'] [([], .atom ['1']), ([], .atom ['2'])]).text ⟨5, 2⟩ = "[\n  1,\n  2\n]" := by
  decide +kernel

end Layout

namespace Value

/-- The label of a field. -/
def fieldLabel (name : String) : List Char :=
  name.toList ++ [':', ' ']

/-- The label of a member; a key that is no identifier is quoted. -/
def memberLabel (key : String) : List Char :=
  (if Text.isIdentifier key then key.toList else Text.quoteChars key.toList) ++ [':', ' ']

mutual

/-- The layout of a value. -/
def layout : Value → Layout
  | .null => .atom ['n', 'u', 'l', 'l']
  | .bool b => .atom (if b then ['t', 'r', 'u', 'e'] else ['f', 'a', 'l', 's', 'e'])
  | .number x => .atom x.valueText.toList
  | .string s => .atom (Text.quoteChars s.toList)
  | .date i => .atom i.textChars
  | .array items => .group ['['] [']'] (layoutItems items)
  | .object members => .group ['{'] ['}'] (layoutEntries memberLabel members)
  | .tagged tag variant fields =>
      .group ((Instance.mk tag variant []).qualifiedName.toList ++ ['(']) [')']
        (layoutEntries fieldLabel fields)

/-- The layouts of the items, without labels. -/
def layoutItems : List Value → List (List Char × Layout)
  | [] => []
  | item :: items => ([], layout item) :: layoutItems items

/-- The layouts of named values under the labels of their names. -/
def layoutEntries (label : String → List Char) :
    List (String × Value) → List (List Char × Layout)
  | [] => []
  | (name, value) :: entries => (label name, layout value) :: layoutEntries label entries

end

/-- The text of a value in the standard layout. -/
def text (value : Value) : String :=
  value.layout.text .standard

end Value

namespace Instance

/-- The layout of a named list of fields. -/
def layoutFields (name : String) (fields : Entries Value) : Layout :=
  .group (name.toList ++ ['(']) [')'] (Value.layoutEntries Value.fieldLabel fields)

/-- The layout of an instance. -/
def layout (i : Instance) : Layout :=
  layoutFields i.qualifiedName i.fields

/-- The text of an instance in the standard layout. -/
def text (i : Instance) : String :=
  i.layout.text .standard

end Instance

example :
    (Value.object [("a b", .array [.bool true, .null]), ("c", .string "x")]).text
      = r#"{"a b": [true, null], c: "x"}"# := by
  decide +kernel

end RecordSchema
