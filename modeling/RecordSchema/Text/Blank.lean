/-!
# Blank characters

The blank characters are those with the Unicode property `White_Space`. `trim` takes them off both
ends of a text.
-/

namespace RecordSchema.Text

/-- The character has the property `White_Space`. -/
def isBlank (c : Char) : Bool :=
  let code := c.toNat
  (9 ≤ code && code ≤ 13) || code == 0x20 || code == 0x85 || code == 0xa0 || code == 0x1680
    || (0x2000 ≤ code && code ≤ 0x200a) || code == 0x2028 || code == 0x2029 || code == 0x202f
    || code == 0x205f || code == 0x3000

/-- The text without the blanks it starts with. -/
def trimStart (text : List Char) : List Char :=
  text.dropWhile isBlank

/-- The text without the blanks it ends with. -/
def trimEnd (text : List Char) : List Char :=
  (text.reverse.dropWhile isBlank).reverse

/-- The text without the blanks at its ends. -/
def trim (text : List Char) : List Char :=
  trimEnd (trimStart text)

/-- Nothing but blanks, or nothing at all. -/
def isBlankText (text : List Char) : Bool :=
  text.all isBlank

@[simp] theorem trimEnd_nil : trimEnd [] = [] := rfl

example : trim "  a b\t\u3000".toList = "a b".toList := by decide +kernel

end RecordSchema.Text
