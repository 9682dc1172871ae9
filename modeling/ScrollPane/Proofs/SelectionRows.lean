import ScrollPane.Layout.Selection

/-!
# The rows of a selection

A selection is drawn by deciding for each row whether it is covered. `Selection.sweep` draws it the
other way round: it cuts the selection down to the rows that there are, and then goes from the first
covered row to the last and reads each by its number. Reading a row that does not exist makes it fail.

`Selection.sweep_eq_draw` proves that it never does, wherever the coordinates of the selection lie,
and that both ways draw the same rows.
-/

namespace ScrollPane

namespace Selection

/-! ## Sweeping over rows -/

/-- The row with a number, if there is one. -/
def rowAt? (rows : List Text) (row : Int) : Option Text :=
  if 0 ≤ row then rows[row.toNat]? else none

/-- Replaces `count` rows from number `row` on in `drawn` by what `mark` makes of the rows read. -/
def sweepFrom (mark : Int → Text → Text) (rows : List Text) :
    Nat → Int → List Text → Option (List Text)
  | 0, _, drawn => some drawn
  | count + 1, row, drawn => do
    let line ← rowAt? rows row
    sweepFrom mark rows count (row + 1) (drawn.set row.toNat (mark row line))

/-- The first row that an ordered selection covers, if it covers any. -/
def firstRow (s : Selection) : Int := if s.startRow < 0 then 0 else s.startRow

/-- The last row that an ordered selection covers of those up to `last`, if it covers any. -/
def stopRow (s : Selection) (last : Int) : Int := if last < s.endRow then last else s.endRow

/-- Draws an ordered selection in a row that it covers. Where it begins above the first row it covers
that from its first column, and where it ends below the last row it covers that to its end. -/
def markRow (s : Selection) (last row : Int) (line : Text) : Text :=
  highlightColumns line
    (if row = s.firstRow then (if s.startRow < 0 then 0 else s.startCol) else 0)
    (if row = s.stopRow last ∧ ¬ last < s.endRow then s.endCol else line.width) line.width

/-- Draws a selection from its first row to its last, as far as these are rows at all. -/
def sweep (s : Selection) (rows : List Text) : Option (List Text) :=
  let s := s.normalized
  let last : Int := rows.length - 1
  if rows = [] ∨ s.endRow < 0 ∨ last < s.startRow then some rows
  else
    sweepFrom (s.markRow last) rows (s.stopRow last - s.firstRow + 1).toNat s.firstRow rows

theorem rowAt?_natCast (rows : List Text) (i : Nat) : rowAt? rows i = rows[i]? := by
  simp [rowAt?]

/-- Sweeping over rows that exist reads them all, and leaves the other rows of `drawn` alone. -/
theorem exists_sweepFrom (mark : Int → Text → Text) (rows : List Text) (count row : Nat)
    (drawn : List Text) (hRows : row + count ≤ rows.length) (hDrawn : drawn.length = rows.length) :
    ∃ result, sweepFrom mark rows count row drawn = some result ∧
      ∀ i : Nat, result[i]? =
        if row ≤ i ∧ i < row + count then rows[i]?.map (mark i) else drawn[i]? := by
  -- `drawn` holds the rows done so far, so it changes along with the row
  induction count generalizing row drawn with
  | zero =>
    refine ⟨drawn, rfl, fun i => ?_⟩
    rw [if_neg (by omega)]
  | succ count ih =>
    have hRow : row < rows.length := by omega
    obtain ⟨result, hSweep, hResult⟩ := ih (row + 1) (drawn.set row (mark row rows[row]))
      (by omega) (by rw [List.length_set, hDrawn])
    refine ⟨result, ?_, fun i => ?_⟩
    · rw [sweepFrom, rowAt?_natCast, List.getElem?_eq_getElem hRow]
      exact hSweep
    · rw [hResult i]
      by_cases hHere : i = row
      · -- the row just drawn is not touched again
        subst hHere
        rw [if_neg (by omega), if_pos (by omega), List.getElem?_set_self (by omega),
          List.getElem?_eq_getElem hRow, Option.map_some]
      · rw [List.getElem?_set_ne (Ne.symm hHere)]
        by_cases hLater : row + 1 ≤ i ∧ i < row + 1 + count
        · rw [if_pos hLater, if_pos (by omega)]
        · rw [if_neg hLater, if_neg (by omega)]

/-! ## Sweeping and drawing -/

theorem getElem?_draw (s : Selection) (rows : List Text) (i : Nat) :
    (s.draw rows)[i]? = rows[i]?.map (s.normalized.drawRow i) := by
  rw [draw, List.getElem?_mapIdx]

theorem length_draw (s : Selection) (rows : List Text) : (s.draw rows).length = rows.length :=
  List.length_mapIdx

/-- A row that an ordered selection does not cover is drawn as it is. -/
theorem drawRow_of_not_covered {s : Selection} {row : Int} (line : Text)
    (h : ¬ (s.startRow ≤ row ∧ row ≤ s.endRow)) : s.drawRow row line = line :=
  if_neg h

/-- A covered row is drawn alike, whether or not the selection is first cut down to the rows. -/
theorem markRow_eq_drawRow {s : Selection} {last row : Int} (line : Text) (hNonneg : 0 ≤ row)
    (hLast : row ≤ last) (hCovered : s.startRow ≤ row ∧ row ≤ s.endRow) :
    s.markRow last row line = s.drawRow row line := by
  -- a selection cut off at an edge runs to that edge, as one that goes on beyond the row does
  have hStart : (if row = s.firstRow then (if s.startRow < 0 then 0 else s.startCol) else 0) =
      if row = s.startRow then s.startCol else 0 := by
    unfold firstRow
    grind
  have hStop : (row = s.stopRow last ∧ ¬ last < s.endRow) ↔ row = s.endRow := by
    unfold stopRow
    split <;> omega
  simp only [markRow, drawRow, hCovered, and_self, if_true, hStart, hStop]

/-- A selection that covers none of the rows leaves them as they are. -/
theorem draw_of_not_covered {s : Selection} {rows : List Text}
    (h : ∀ i < rows.length, ¬ (s.normalized.startRow ≤ i ∧ (i : Int) ≤ s.normalized.endRow)) :
    s.draw rows = rows := by
  refine List.ext_getElem? fun i => ?_
  rw [getElem?_draw]
  by_cases hi : i < rows.length
  · rw [List.getElem?_eq_getElem hi, Option.map_some, drawRow_of_not_covered _ (h i hi)]
  · rw [List.getElem?_eq_none (by omega), Option.map_none]

theorem firstRow_nonneg (s : Selection) : 0 ≤ s.firstRow := by
  unfold firstRow
  split <;> omega

theorem firstRow_lt {s : Selection} {length : Nat} (hPos : 0 < length) (hStart : s.startRow < length) :
    s.firstRow < length := by
  unfold firstRow
  split <;> omega

theorem stopRow_lt (s : Selection) (length : Nat) : s.stopRow (length - 1) < length := by
  unfold stopRow
  split <;> omega

/-- Of the rows that there are, an ordered selection covers those from its first to its last one. -/
theorem mem_sweep_iff {s : Selection} {length i : Nat} (hEnd : 0 ≤ s.endRow)
    (hStart : s.startRow < length) (hi : i < length) :
    (s.firstRow.toNat ≤ i ∧
        i < s.firstRow.toNat + (s.stopRow (length - 1) - s.firstRow + 1).toNat) ↔
      s.startRow ≤ i ∧ (i : Int) ≤ s.endRow := by
  unfold firstRow stopRow
  split <;> split <;> omega

/-- **A selection is drawn within the rows there are.** Whatever its coordinates, going over its rows
never reads one that does not exist, and draws what drawing it row by row draws. -/
theorem sweep_eq_draw (s : Selection) (rows : List Text) : s.sweep rows = some (s.draw rows) := by
  simp only [sweep]
  split
  · next hOutside =>
    have hNotCovered : ∀ i < rows.length,
        ¬ (s.normalized.startRow ≤ i ∧ (i : Int) ≤ s.normalized.endRow) := by
      rintro i hi ⟨hStart, hEnd⟩
      rcases hOutside with rfl | hAbove | hBelow
      · exact Nat.not_lt_zero i hi
      · omega
      · omega
    rw [draw_of_not_covered hNotCovered]
  · next hCovers =>
    rw [not_or, not_or] at hCovers
    obtain ⟨hRows, hEnd, hStart⟩ := hCovers
    have hPos : 0 < rows.length := List.length_pos_iff.mpr hRows
    have hStart : s.normalized.startRow < rows.length := by omega
    have hNonneg := s.normalized.firstRow_nonneg
    have hFirst := firstRow_lt hPos hStart
    have hStop := s.normalized.stopRow_lt rows.length
    obtain ⟨result, hSweep, hResult⟩ := exists_sweepFrom
      (s.normalized.markRow (rows.length - 1)) rows
      (s.normalized.stopRow (rows.length - 1) - s.normalized.firstRow + 1).toNat
      s.normalized.firstRow.toNat rows (by omega) rfl
    rw [Int.toNat_of_nonneg hNonneg] at hSweep
    rw [hSweep]
    -- a row is read and drawn just when it is covered
    refine congrArg some (List.ext_getElem? fun i => ?_)
    rw [hResult i, getElem?_draw]
    by_cases hi : i < rows.length
    · simp only [mem_sweep_iff (by omega) hStart hi, List.getElem?_eq_getElem hi, Option.map_some]
      split
      · next hCovered =>
        rw [markRow_eq_drawRow _ (Int.natCast_nonneg i) (by omega) hCovered]
      · next hNotCovered => rw [drawRow_of_not_covered _ hNotCovered]
    · rw [List.getElem?_eq_none (by omega), Option.map_none, Option.map_none, ite_self]

end Selection

end ScrollPane
