import ScrollPane.Text.Cluster
import ScrollPane.Text.Escape
import ScrollPane.Unicode.Cells
import ScrollPane.Unicode.Format

/-!
# Visible width

The columns a line takes on the screen. Escape sequences take none; the rest is measured cluster by
cluster. A cluster of several characters is as wide as its first one, except that emoji sequences
always take two cells.
-/

namespace ScrollPane.Text

/-- A tab takes a fixed run of cells; there are no tab stops. -/
def tabWidth : Nat := 3

/-- Characters that make the cluster they occur in an emoji sequence: the emoji variation selector,
the joiner, skin tones and the letters of flags. -/
def isEmojiPart (c : Char) : Bool :=
  let n := c.toNat
  n == 0xFE0F || n == 0x200D || (0x1F3FB ≤ n && n ≤ 0x1F3FF) || (0x1F1E6 ≤ n && n ≤ 0x1F1FF)

/-- Characters of the pictographic blocks, which open an emoji sequence. -/
def isPictograph (c : Char) : Bool :=
  let n := c.toNat
  0x1F000 ≤ n || (0x2600 ≤ n && n ≤ 0x27BF)

/-- The number of cells that one cluster takes. -/
def clusterWidth : Text → Nat
  | [] => 0
  | [c] => if c = '\t' then tabWidth else Unicode.cells c
  | first :: rest =>
    if (first :: rest).any isEmojiPart || isPictograph first then 2
    else if Unicode.isFormat first then 0
    else Unicode.cells first

/-- The number of cells that some clusters take next to one another. -/
def clustersWidth : List Text → Nat
  | [] => 0
  | cluster :: more => clusterWidth cluster + clustersWidth more

/-- Whether a character is printable ASCII, and so a cluster of its own that takes one cell. -/
def isPrintableAscii (c : Char) : Bool := 0x20 ≤ c.toNat && c.toNat ≤ 0x7E

/-- The visible width of a line. Printable ASCII is counted without looking for clusters. -/
def width (line : Text) : Nat :=
  let shown := line.visible
  if shown.all isPrintableAscii then shown.length
  else clustersWidth shown.clusters

end ScrollPane.Text
