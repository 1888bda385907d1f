/-!
# Quoted text

A text is quoted as a JSON string literal. The quote, the backslash and the control characters are
escaped; all other characters stand for themselves.
-/

namespace RecordSchema.Text

/-- The hexadecimal digit with a value below sixteen. -/
def hexDigit (value : Nat) : Char :=
  (Nat.toDigits 16 value).headD '0'

/-- How one character is written inside quotes. -/
def escapeChar (c : Char) : List Char :=
  match c with
  | '"' => ['\\', '"']
  | '\\' => ['\\', '\\']
  | '\x08' => ['\\', 'b']
  | '\x0c' => ['\\', 'f']
  | '\n' => ['\\', 'n']
  | '\r' => ['\\', 'r']
  | '\t' => ['\\', 't']
  | _ =>
      if c.toNat < 0x20 then
        ['\\', 'u', '0', '0', hexDigit (c.toNat / 16), hexDigit (c.toNat % 16)]
      else [c]

/-- The characters of the quoted text. -/
def quoteChars (text : List Char) : List Char :=
  '"' :: text.flatMap escapeChar ++ ['"']

/-- The text in quotes. -/
def quote (text : String) : String :=
  String.ofList (quoteChars text.toList)

example : quote "say \"hi\"\n\x01é" = "\"say \\\"hi\\\"\\n\\u0001é\"" := by decide +kernel

end RecordSchema.Text
