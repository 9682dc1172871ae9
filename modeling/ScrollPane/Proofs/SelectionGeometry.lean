import ScrollPane.Proofs.Frames
import Mathlib.Algebra.Order.Group.Int
import Mathlib.Data.Prod.Lex

/-!
# The geometry of selections

The cells of the screen are read row by row, and each row from left to right. A selection covers
the cells from one of its ends on up to the other, and which of the two was set first is no matter.
The ends may lie anywhere, so of a row some columns are covered, or all, or none; those that are
covered are neighbours, and just these are highlighted.

## Main definitions

- `Selection.Covers`: the cells between the two ends of a selection;
- `Selection.ShowsIn`: how a row looks with the columns highlighted that a selection covers.

## Main statements

- `Selection.coversIn_iff`: the columns of a row that a selection covers;
- `Selection.showsIn_drawRow`: they are highlighted;
- `Layout.compose_select_swap`: the two ends may change places;
- `Layout.selection_geometry`: all of it.
-/

namespace ScrollPane

namespace Selection

/-! ## Cells in reading order -/

/-- A row and a column, in reading order. -/
abbrev Cell := Int ×ₗ Int

/-- The cell in a row and a column. -/
def cell (row col : Int) : Cell := toLex (row, col)

theorem cell_le_cell {row col row' col' : Int} :
    cell row col ≤ cell row' col' ↔ row < row' ∨ row = row' ∧ col ≤ col' :=
  Prod.Lex.toLex_le_toLex

theorem cell_lt_cell {row col row' col' : Int} :
    cell row col < cell row' col' ↔ row < row' ∨ row = row' ∧ col < col' :=
  Prod.Lex.toLex_lt_toLex

/-- The cell at which the selection starts. -/
def startCell (s : Selection) : Cell := cell s.startRow s.startCol

/-- The cell at which the selection ends. -/
def endCell (s : Selection) : Cell := cell s.endRow s.endCol

/-- The selection covers a cell: it is not before the one end, and before the other. -/
def Covers (s : Selection) (row col : Int) : Prop :=
  min s.startCell s.endCell ≤ cell row col ∧ cell row col < max s.startCell s.endCell

/-- A column of a line in a row that the selection covers. -/
def CoversIn (s : Selection) (row : Int) (line : Text) (col : Int) : Prop :=
  (0 ≤ col ∧ col < line.width) ∧ s.Covers row col

/-- The selection the other way round. -/
def swap (s : Selection) : Selection where
  startRow := s.endRow
  startCol := s.endCol
  endRow := s.startRow
  endCol := s.startCol

/-! ## Both ends in order -/

theorem ordered_iff (s : Selection) : s.Ordered ↔ s.startCell ≤ s.endCell :=
  cell_le_cell.symm

theorem startCell_normalized (s : Selection) :
    s.normalized.startCell = min s.startCell s.endCell := by
  rw [normalized]
  split
  · next hOrdered => exact (min_eq_left (s.ordered_iff.mp hOrdered)).symm
  · next hReversed => exact (min_eq_right (not_le.mp (mt s.ordered_iff.mpr hReversed)).le).symm

theorem endCell_normalized (s : Selection) : s.normalized.endCell = max s.startCell s.endCell := by
  rw [normalized]
  split
  · next hOrdered => exact (max_eq_right (s.ordered_iff.mp hOrdered)).symm
  · next hReversed => exact (max_eq_left (not_le.mp (mt s.ordered_iff.mpr hReversed)).le).symm

theorem eq_of_cells_eq {s t : Selection} (hStart : s.startCell = t.startCell)
    (hEnd : s.endCell = t.endCell) : s = t := by
  obtain ⟨hStartRow, hStartCol⟩ := Prod.mk.inj (toLex.injective hStart)
  obtain ⟨hEndRow, hEndCol⟩ := Prod.mk.inj (toLex.injective hEnd)
  cases s
  cases t
  simp_all

/-- Put in order, a selection is the same both ways round. -/
theorem normalized_swap (s : Selection) : s.swap.normalized = s.normalized := by
  refine eq_of_cells_eq ?_ ?_
  · rw [startCell_normalized, startCell_normalized]
    exact min_comm _ _
  · rw [endCell_normalized, endCell_normalized]
    exact max_comm _ _

theorem draw_swap (s : Selection) (rows : List Text) : s.swap.draw rows = s.draw rows := by
  rw [draw, draw, normalized_swap]

/-! ## The columns of a row -/

/-- A column between two others, in a line of a width, is one between these two moved into the
line. -/
theorem clamp_le_and_lt_clamp_iff {start stop col : Int} {width : Nat} :
    clamp start 0 width ≤ col ∧ col < clamp stop 0 width ↔
      (0 ≤ col ∧ col < width) ∧ start ≤ col ∧ col < stop := by
  unfold clamp
  omega

/-- The columns of a row that a selection covers are those between its ends, if these are in the row,
and all columns on the side of an end that is not. -/
theorem coversIn_iff (s : Selection) (row : Int) (line : Text) (col : Int) :
    let n := s.normalized
    s.CoversIn row line col ↔
      (n.startRow ≤ row ∧ row ≤ n.endRow) ∧
        clamp (if row = n.startRow then n.startCol else 0) 0 line.width ≤ col ∧
        col < clamp (if row = n.endRow then n.endCol else line.width) 0 line.width := by
  intro n
  rw [CoversIn, Covers, ← startCell_normalized, ← endCell_normalized, clamp_le_and_lt_clamp_iff]
  have hStart : s.normalized.startCell ≤ cell row col ↔
      n.startRow < row ∨ n.startRow = row ∧ n.startCol ≤ col := cell_le_cell
  have hEnd : cell row col < s.normalized.endCell ↔
      row < n.endRow ∨ row = n.endRow ∧ col < n.endCol := cell_lt_cell
  rw [hStart, hEnd]
  split <;> split <;> omega

/-- How a line looks in a row with the columns highlighted that a selection covers. -/
inductive ShowsIn (s : Selection) (row : Int) (line : Text) : Text → Prop
  /-- If none are covered, the line looks as it is. -/
  | plain (hNone : ∀ col, ¬s.CoversIn row line col) : ShowsIn s row line line
  /-- Otherwise those covered are the columns from one to another, and inverse video is switched on
  and off there. -/
  | highlighted (start stop : Int) (hLt : start < stop)
      (hCovers : ∀ col, s.CoversIn row line col ↔ start ≤ col ∧ col < stop) :
      ShowsIn s row line
        (line.cut 0 start true ++ inverse ++ line.cut start (stop - start) true ++ resetStyle ++
          line.cut stop (line.width - stop) true)

/-- Highlighting the columns that a selection covers. -/
theorem showsIn_highlightColumns {s : Selection} {row : Int} {line : Text} {start stop : Int}
    (h : ∀ col, s.CoversIn row line col ↔
      clamp start 0 line.width ≤ col ∧ col < clamp stop 0 line.width) :
    s.ShowsIn row line (highlightColumns line start stop line.width) := by
  simp only [highlightColumns]
  split
  · next hEmpty =>
    refine .plain fun col hCol => ?_
    obtain ⟨hFrom, hTo⟩ := (h col).mp hCol
    omega
  · next hSome => exact .highlighted _ _ (Int.not_le.mp hSome) h

/-- A selection is drawn in a row by highlighting the columns that it covers. -/
theorem showsIn_drawRow (s : Selection) (row : Int) (line : Text) :
    s.ShowsIn row line (s.normalized.drawRow row line) := by
  have hCovers := s.coversIn_iff row line
  by_cases hRow : s.normalized.startRow ≤ row ∧ row ≤ s.normalized.endRow
  · simp only [hRow, true_and] at hCovers
    simp only [drawRow, hRow, and_self, if_true]
    exact showsIn_highlightColumns hCovers
  · rw [drawRow_of_not_covered line hRow]
    exact .plain fun col hCol => hRow ((hCovers col).mp hCol).1

end Selection

/-! ## Frames -/

namespace Layout

variable {σ : Type}

/-- A layout whose selection is set the other way round draws the same frame, and is left with its
selection the other way round. -/
theorem compose_select_swap (l : Layout) (s : Selection) (output fixed : Component σ) (width : Int)
    (height : Nat) (world : σ) :
    let drawn := (l.select (some s)).compose output fixed width height world
    (l.select (some s.swap)).compose output fixed width height world =
      ({ drawn.1 with layout := drawn.1.layout.select (drawn.1.layout.selection?.map .swap) },
        drawn.2) := by
  intro drawn
  by_cases hEnabled : l.scroll.enabled = true
  · have hDrawn : drawn = _ := compose_of_enabled (l.select (some s)) hEnabled ..
    rw [hDrawn, compose_of_enabled (l.select (some s.swap)) hEnabled]
    simp only [composeScrolled_apply, select]
    -- a frame at another offset drops either selection
    split
    · simp only [drawSelection, Selection.draw_swap, Option.map_some]
    · rfl
  · have hDisabled : l.scroll.enabled = false := Bool.eq_false_of_not_eq_true hEnabled
    have hDrawn : drawn = _ := compose_of_disabled (l.select (some s)) hDisabled ..
    rw [hDrawn, compose_of_disabled (l.select (some s.swap)) hDisabled]
    rfl

/-- **Selections are drawn by the cells they cover.** Whatever its four coordinates, a selection is
drawn in rows without changing their number. In each row it highlights just the columns of the row
from the earlier of its ends on up to the later one, in reading order, and leaves the row as it is if
there are none. Exchanging the two ends changes nothing of that, nor of any frame. -/
theorem selection_geometry (s : Selection) :
    (∀ rows : List Text, (s.draw rows).length = rows.length ∧
      (∀ (row : Nat) line, rows[row]? = some line →
        ∃ drawn, (s.draw rows)[row]? = some drawn ∧ s.ShowsIn row line drawn) ∧
      s.swap.draw rows = s.draw rows) ∧
      ∀ (l : Layout) (output fixed : Component σ) (width : Int) (world : σ),
        ((l.select (some s.swap)).render output fixed width world).1.result =
            ((l.select (some s)).render output fixed width world).1.result ∧
          ∀ v, ((l.select (some s.swap)).renderViewport output fixed width v world).1.result =
            ((l.select (some s)).renderViewport output fixed width v world).1.result := by
  constructor
  · intro rows
    refine ⟨s.length_draw rows, fun row line hLine => ?_, s.draw_swap rows⟩
    refine ⟨s.normalized.drawRow row line, ?_, s.showsIn_drawRow row line⟩
    rw [Selection.getElem?_draw, hLine, Option.map_some]
  · intro l output fixed width world
    constructor
    · show ((l.select (some s.swap)).compose output fixed width _ world).1.result = _
      rw [compose_select_swap]
      rfl
    · intro v
      simp only [renderViewport, bind_apply]
      rw [compose_select_swap]
      rfl

/-- A selection from the third row back to above the first one. -/
def upward : Selection := ⟨2, 1, -1, 7⟩

/-- It covers the first row from its first column to its last, nothing of an empty row, and one column
of the third. -/
theorem selection_geometry_upward :
    let rows := ["好a".toList, [], "abc".toList, "d".toList]
    rows[0]? = some "好a".toList ∧
      (∃ drawn, (upward.draw rows)[0]? = some drawn ∧ upward.ShowsIn (0 : Nat) "好a".toList drawn) ∧
      upward.draw rows = ["\x1b[7m好a\x1b[0m".toList, [], "\x1b[7ma\x1b[0mbc".toList, "d".toList] := by
  intro rows
  have hRow : rows[0]? = some "好a".toList := rfl
  exact ⟨hRow, ((@selection_geometry Unit upward).1 rows).2.1 0 _ hRow, by decide +kernel⟩

end Layout

end ScrollPane
