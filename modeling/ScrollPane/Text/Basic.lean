/-!
# Text

A text is the list of its code points, so every position and every length in this library counts
code points. Columns on the screen are a different measure; they are the business of
`ScrollPane.Text.Width`.
-/

namespace ScrollPane

/-- A text is a list of code points. -/
abbrev Text := List Char

namespace Text

/-- The character that opens every escape sequence. -/
def esc : Char := '\x1b'

/-- The first line of a text, and the lines after it. -/
def splitLine : Text → Text × List Text
  | [] => ([], [])
  | c :: rest =>
    let split := splitLine rest
    if c = '\n' then ([], split.1 :: split.2) else (c :: split.1, split.2)

/-- The lines of a text, cut at each newline: always one line more than there are newlines. -/
def lines (t : Text) : List Text :=
  let split := splitLine t
  split.1 :: split.2

/-- A text of `n` spaces. -/
def spaces (n : Nat) : Text := List.replicate n ' '

/-- The text without the characters satisfying `p` at its two ends. -/
def trim (p : Char → Bool) (t : Text) : Text :=
  ((t.dropWhile p).reverse.dropWhile p).reverse

end Text

end ScrollPane
