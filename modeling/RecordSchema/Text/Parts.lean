/-!
# Parts of a text

`splitOn` cuts a text at a character, which stands in none of the parts. A text without the
character is its only part.
-/

namespace RecordSchema.Text

/-- The parts of a text between the separators. -/
def splitOn (separator : Char) : List Char → List (List Char)
  | [] => [[]]
  | c :: rest =>
      if c = separator then [] :: splitOn separator rest
      else
        match splitOn separator rest with
        | [] => [[c]]
        | part :: parts => (c :: part) :: parts

/-- There is always a first part. -/
theorem splitOn_ne_nil (separator : Char) (text : List Char) : splitOn separator text ≠ [] := by
  induction text with
  | nil => simp [splitOn]
  | cons c rest ih =>
      simp only [splitOn]
      split
      · simp
      · split <;> simp

example : splitOn '/' "a//b/".toList = ["a".toList, [], "b".toList, []] := by decide +kernel

end RecordSchema.Text
