import ScrollPane.Text.Cut
import ScrollPane.Layout.Scroll

/-!
# Selections

A selection marks text in the visible rows of the output, from one cell up to another. It is drawn in
inverse video. Its coordinates may lie anywhere, before or beyond the rows and their columns, and in
either order; only what it covers of the visible text is drawn.
-/

namespace ScrollPane

/-- The sequence that starts inverse video. -/
def inverse : Text := "\x1b[7m".toList

/-- The sequence that ends all styling. -/
def resetStyle : Text := "\x1b[0m".toList

/-- Wraps the columns `[start, stop)` of a line of a given width in inverse video. -/
def highlightColumns (line : Text) (start stop : Int) (width : Nat) : Text :=
  let start := clamp start 0 width
  let stop := clamp stop 0 width
  if stop ≤ start then line
  else
    line.cut 0 start true ++ inverse ++ line.cut start (stop - start) true ++ resetStyle ++
      line.cut stop (width - stop) true

/-- A selection, from its start cell up to but not including its end cell. -/
structure Selection where
  startRow : Int
  startCol : Int
  endRow : Int
  endCol : Int
deriving DecidableEq, Repr

namespace Selection

/-- Whether the start is not after the end, row by row and then column by column. -/
def Ordered (s : Selection) : Prop :=
  s.startRow < s.endRow ∨ (s.startRow = s.endRow ∧ s.startCol ≤ s.endCol)

instance (s : Selection) : Decidable s.Ordered :=
  inferInstanceAs (Decidable (_ ∨ _))

/-- The selection with its ends in order. -/
def normalized (s : Selection) : Selection :=
  if s.Ordered then s
  else { startRow := s.endRow, startCol := s.endCol, endRow := s.startRow, endCol := s.startCol }

/-- Draws an ordered selection in one row. A selection that goes on beyond the row marks it to the
end, and one that began above marks it from its first column. -/
def drawRow (s : Selection) (row : Int) (line : Text) : Text :=
  if s.startRow ≤ row ∧ row ≤ s.endRow then
    let width := line.width
    highlightColumns line (if row = s.startRow then s.startCol else 0)
      (if row = s.endRow then s.endCol else width) width
  else line

/-- Draws a selection in the visible rows. -/
def draw (s : Selection) (rows : List Text) : List Text :=
  rows.mapIdx fun row line => s.normalized.drawRow row line

end Selection

end ScrollPane
