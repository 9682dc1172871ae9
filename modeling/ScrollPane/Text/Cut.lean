import ScrollPane.Text.Width

/-!
# Cutting lines by columns

`cut` takes a range of visible columns out of a styled line, and `clip` makes a line fit a width.
Both walk the items of the line: its escape sequences, and the clusters of the text between them.

Escape sequences inside the range are kept, and so are those directly after it, which usually reset
the style. A cluster wider than one cell can straddle an edge of the range: it is kept whole, or,
where the cut is strict, replaced by spaces for the cells that lie inside.
-/

namespace ScrollPane.Text

/-- An item of a line: what a cut keeps or drops as a whole. -/
inductive Item where
  | escape (code : Text)
  | cluster (chars : Text)
deriving DecidableEq, Repr

/-- The items of one piece. -/
def Piece.items : Piece → List Item
  | .escape code => [.escape code]
  | .plain run => run.clusters.map .cluster

/-- The items of a line, in order. Clusters end where an escape sequence begins. -/
def items (line : Text) : List Item := line.pieces.flatMap Piece.items

/-- The columns `[start, stop)` that a cut keeps, and whether straddling clusters become spaces. -/
structure Range where
  start : Int
  stop : Int
  strict : Bool
deriving DecidableEq, Repr

/-- What a range keeps of a cluster that occupies the columns from `col` on. -/
def Range.keep (r : Range) (col : Int) (chars : Text) : Text :=
  let next := col + chars.clusterWidth
  if next ≤ r.start then []
  else if r.strict && 1 < chars.clusterWidth && (col < r.start || r.stop < next) then
    spaces (min next r.stop - max col r.start).toNat
  else chars

/-- Walks the items from column `col` on. The first cluster at or beyond the end of the range stops
the walk; until then escape sequences are kept as soon as the range has begun. -/
def Range.walk (r : Range) (col : Int) : List Item → Text
  | [] => []
  | .escape code :: rest =>
    if r.start ≤ col then code ++ r.walk col rest else r.walk col rest
  | .cluster chars :: rest =>
    if r.stop ≤ col then []
    else r.keep col chars ++ r.walk (col + chars.clusterWidth) rest

/-- The `length` visible columns of a line from column `start` on. -/
def cut (line : Text) (start length : Int) (strict : Bool := false) : Text :=
  if length ≤ 0 then [] else Range.walk ⟨start, start + length, strict⟩ 0 line.items

/-- The line, cut so that it takes at most `limit` columns. -/
def clip (line : Text) (limit : Int) : Text :=
  if limit ≤ 0 then []
  else if line.width ≤ limit then line
  else line.cut 0 limit true

end ScrollPane.Text
