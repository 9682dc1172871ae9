import ScrollPane.Component.Basic
import ScrollPane.Text.Escape
import ScrollPane.Unicode.Blank

/-!
# Sticky headers

While a tall block is scrolled, its header line stays on screen: once the header has left the window
at the top, a copy of it takes the place of the first row shown.

## Main definitions

- `Header`: which row of a block is its header;
- `Header.pin`: the rows of a block with the header pinned at a row;
- `Component.withHeader`: a component whose header sticks.
-/

namespace ScrollPane

/-- The rows searched for a header unless told otherwise. -/
def Header.defaultScanLimit : Int := 20

/-- Which row of a block is its header. -/
structure Header where
  /-- The row itself, where it is known. -/
  index? : Option Int := none
  /-- How many rows to search where it is not. At least one is searched. -/
  scanLimit : Int := Header.defaultScanLimit
deriving DecidableEq, Repr

namespace Header

/-- Whether a line shows anything: a character that is no white space, outside the escapes. -/
def hasInk (line : Text) : Bool := line.visible.any fun c => !Unicode.isBlank c

/-- The first line with ink among the first `scanLimit` rows. -/
def find? (rows : List Text) (scanLimit : Int := defaultScanLimit) : Option Nat :=
  (rows.take (max 1 scanLimit).toNat).findIdx? hasInk

/-- The header row of a block. A given row counts only if the block has it. -/
def row? (h : Header) (rows : List Text) : Option Nat :=
  match h.index? with
  | some index => if 0 ≤ index ∧ index < rows.length then some index.toNat else none
  | none => find? rows h.scanLimit

/-- The block row taken to be at the top of the screen. Where the height of the screen is known, this
is at most the last row to which the block can scroll; a height of zero tells nothing. -/
def effectiveTop (rows : List Text) (top : Int) : Option Int → Int
  | none => top
  | some height => if height = 0 then top else min top (max 0 (rows.length - height))

/-- The rows of a block shown from row `top` on, with the header pinned there if it has scrolled
away. All other rows stay as they are. -/
def pin (h : Header) (rows : List Text) (top : Int) (screenHeight? : Option Int := none) :
    List Text :=
  if 0 < top ∧ top < rows.length then
    match h.row? rows with
    | some row =>
      if row < effectiveTop rows top screenHeight? then rows.set top.toNat (rows.getD row [])
      else rows
    | none => rows
  else rows

end Header

/-- The component `c` with a header that sticks. It is drawn in full for every window. -/
def Component.withHeader {σ : Type} (c : Component σ) (h : Header) : Component σ where
  render := c.render
  window? := some fun width v => do
    let rows ← c.render width
    return { rows := v.slice (h.pin rows v.top), contentHeight := rows.length }
  invalidate := c.invalidate

end ScrollPane
