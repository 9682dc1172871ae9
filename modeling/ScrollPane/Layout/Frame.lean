import ScrollPane.Component.Basic
import ScrollPane.Layout.Basic

/-!
# Frames

Drawing a layout. With scrolling off, a frame is the whole output above the whole fixed part. With
scrolling on it has a given number of rows: the fixed part at the bottom, of which the last rows win
if there is no room for all, and above it a window of the output, filled up with blank rows.

An output that draws windows itself is asked at the offset of the last frame first. Its answer tells
the content height, and so where the window has to be; if that is elsewhere, the output is asked once
more. Nothing relies on the answers being consistent.

## Main definitions

- `Outcome`: the result of an operation, with the layout after it;
- `Layout.settleOutput`: the output rows of a frame and the offset they are taken at;
- `Layout.compose`: a frame of a given height;
- `Layout.render`, `Layout.renderViewport`: a frame for the terminal, and for a viewport.
-/

namespace ScrollPane

/-- The result of an operation on a layout, the layout after it, and what goes to the log. -/
structure Outcome (α : Type) where
  result : α
  layout : Layout
  notices : List Notice := []

/-- The outcome with its result replaced. -/
def Outcome.map {α β : Type} (f : α → β) (o : Outcome α) : Outcome β := { o with result := f o.result }

namespace Layout

variable {σ : Type}

/-- The output rows of a frame, the offset they are taken at, and the height of the content. -/
structure OutputWindow where
  rows : List Text
  offset : Int
  contentHeight : Int
deriving DecidableEq, Repr

/-- Draws the output for a region of a height, and settles the offset. -/
def settleOutput (scroll : Scroll) (output : Component σ) (width : Int) (height : Nat) :
    StateM σ OutputWindow :=
  if output.drawsWindows then do
    let first ← output.view width { width, height, top := scroll.offset }
    let offset := scroll.settle first.contentHeight height
    if offset = scroll.offset then
      return { rows := first.rows.take height, offset, contentHeight := first.contentHeight }
    else
      -- the first window was taken at a stale offset; the second answer has the last word
      let second ← output.view width { width, height, top := offset }
      return {
        rows := second.rows.take height
        offset := min offset (Scroll.limitOf second.contentHeight height)
        contentHeight := second.contentHeight }
  else do
    let rows ← output.render width
    let offset := scroll.settle rows.length height
    return {
      rows := (rows.drop offset.toNat).take height
      offset
      contentHeight := rows.length }

/-- The scroll state after a frame that showed an output window in a region of a height. -/
def OutputWindow.scroll (w : OutputWindow) (enabled : Bool) (height : Nat) : Scroll where
  enabled
  offset := w.offset
  follow := w.offset == Scroll.limitOf w.contentHeight height
  contentHeight := w.contentHeight
  regionHeight := height

/-- What a frame leaves in the log: whether it has started or stopped following the output. -/
def followNotices (before after : Scroll) : List Notice :=
  if after.follow = before.follow then []
  else [.followMode after.follow after.offset after.limit]

/-- The rows filled up with blank ones to a height. This is an idealisation where the height is one that
no memory has room for: there a program fails. -/
def padRows (rows : List Text) (height : Nat) : List Text :=
  rows ++ List.replicate (height - rows.length) []

/-- The rows with a selection drawn in them, if there is one. -/
def drawSelection : Option Selection → List Text → List Text
  | some selection, rows => selection.draw rows
  | none, rows => rows

/-- A frame of `height` rows with scrolling on, above the rows of the fixed part. A frame at another
offset than the last one drops the selection before it is drawn. -/
def composeScrolled (l : Layout) (output : Component σ) (fixedRows : List Text) (width : Int)
    (height : Nat) : StateM σ (Outcome (List Text)) := do
  let fixedRows := fixedRows.drop (fixedRows.length - height)
  let regionHeight := height - fixedRows.length
  let window ← settleOutput l.scroll output width regionHeight
  let visible := padRows window.rows regionHeight
  let scroll := window.scroll l.scroll.enabled regionHeight
  let selection? := if window.offset = l.scroll.offset then l.selection? else none
  return {
    result := drawSelection selection? visible ++ fixedRows
    layout := { l with scroll, selection?, visibleOutput := visible, visibleFixed := fixedRows }
    notices := followNotices l.scroll scroll }

/-- A frame with scrolling off: the whole output above the rows of the fixed part. -/
def composeStacked (l : Layout) (output : Component σ) (fixedRows : List Text) (width : Int) :
    StateM σ (Outcome (List Text)) := do
  let window ← output.view width { width, height := Viewport.unboundedHeight }
  let scroll :=
    { l.scroll with offset := 0, follow := true, contentHeight := window.contentHeight,
                    regionHeight := 0 }
  return {
    result := window.rows ++ fixedRows
    layout := { l with scroll, visibleOutput := window.rows, visibleFixed := fixedRows } }

/-- A frame at a width. Its height matters only with scrolling on. -/
def compose (l : Layout) (output fixed : Component σ) (width : Int) (height : Nat) :
    StateM σ (Outcome (List Text)) := do
  let fixedRows ← fixed.render width
  let l := { l with fixedHeight := fixedRows.length }
  if l.scroll.enabled then l.composeScrolled output fixedRows width height
  else l.composeStacked output fixedRows width

/-- A frame as tall as the terminal is now. -/
def render (l : Layout) (output fixed : Component σ) (width : Int) :
    StateM σ (Outcome (List Text)) :=
  l.compose output fixed width l.terminal.rows.toNat

/-- A frame for a viewport in place of the terminal. With scrolling on it is as tall as the viewport,
wherever that starts; with scrolling off it is what the viewport shows of the whole. -/
def renderViewport (l : Layout) (output fixed : Component σ) (width : Int) (v : Viewport) :
    StateM σ (Outcome Window) := do
  let frame ← l.compose output fixed width v.height.toNat
  let l := frame.layout
  return frame.map fun rows =>
    { rows := if l.scroll.enabled then rows else v.slice rows
      contentHeight := l.scroll.contentHeight + l.fixedHeight }

end Layout

end ScrollPane
