import ScrollPane.Proofs.Parts
import Mathlib.Data.List.DropRight

/-!
# When a header is pinned

`Header.Names` says which row a header names, be it a row of the block or not, and `Header.Pins`
when that row takes the place of the row at the top. A row that is pinned stands above the top, so
pinning overwrites neither it nor a row searched before it, and the pinned block names the same row
again.

## Main definitions

- `Header.inkOf`: what a line shows;
- `Header.Names`, `Header.Pins`: the row that a header names, and the one that it pins.

## Main statements

- `Header.Pins.pin_eq_set`, `Header.pin_eq_self`: pinning by the row that is pinned;
- `Header.Pins.set`: the pinned block pins the same row;
- `Header.pin_replaces_top_row`: the result of pinning for all arguments, and for doing it again.
-/

namespace ScrollPane

namespace Text

theorem trim_eq_nil_iff {p : Char → Bool} {t : Text} : t.trim p = [] ↔ ∀ c ∈ t, p c = true := by
  have hTrim : t.trim p = (t.dropWhile p).rdropWhile p := rfl
  -- nothing is left at the end only if nothing is left at the start
  rw [hTrim, List.rdropWhile_eq_nil_iff, ← List.dropWhile_eq_nil_iff, List.dropWhile_idempotent,
    List.dropWhile_eq_nil_iff]

end Text

namespace Header

/-! ## The row that a header names -/

/-- What a line shows: the text outside its escapes, without the white space around it. -/
def inkOf (line : Text) : Text := line.visible.trim Unicode.isBlank

theorem hasInk_iff {line : Text} : hasInk line = true ↔ inkOf line ≠ [] := by
  rw [inkOf, ne_eq, Text.trim_eq_nil_iff]
  simp [hasInk]

theorem hasInk_eq_false_iff {line : Text} : hasInk line = false ↔ inkOf line = [] := by
  rw [← Bool.not_eq_true, hasInk_iff, ne_eq, not_not]

/-- The row that a header names: the one that is given, which need not be a row of the block, or the
first one to show anything among those searched. -/
inductive Names (h : Header) (rows : List Text) : Int → Prop where
  | given {k : Int} (hIndex : h.index? = some k) : Names h rows k
  | found {k : Nat} {line : Text} (hIndex : h.index? = none)
      (hSearched : (k : Int) < min (rows.length : Int) (max 1 h.scanLimit))
      (hLine : rows[k]? = some line) (hInk : inkOf line ≠ [])
      (hFirst : ∀ i < k, ∀ above, rows[i]? = some above → inkOf above = []) : Names h rows k

theorem isRow_iff_names {h : Header} {rows : List Text} {k : Nat} :
    h.IsRow rows k ↔ h.Names rows k ∧ k < rows.length := by
  constructor
  · intro hRow
    refine ⟨?_, hRow.lt_length⟩
    have hInside := hRow.lt_length
    cases hRow with
    | given hIndex _ => exact .given hIndex
    | found hIndex hSearched hLine hInk hFirst =>
      refine .found hIndex (by omega) hLine (hasInk_iff.mp hInk) ?_
      intro i hBefore above hAbove
      exact hasInk_eq_false_iff.mp (hFirst i hBefore above hAbove)
  · rintro ⟨hNames, hInside⟩
    generalize hRow : (k : Int) = row at hNames
    cases hNames with
    | given hIndex => exact .given (hRow ▸ hIndex) hInside
    | found hIndex hSearched hLine hInk hFirst =>
      obtain rfl := Int.ofNat_inj.mp hRow
      refine .found hIndex (by omega) hLine (hasInk_iff.mpr hInk) ?_
      intro i hBefore above hAbove
      exact hasInk_eq_false_iff.mpr (hFirst i hBefore above hAbove)

/-- Only the rows down to the named one bear on which one that is. -/
theorem Names.of_agree {h : Header} {rows rows' : List Text} {k : Int} (hNames : h.Names rows k)
    (hLength : rows'.length = rows.length) (hAgree : ∀ i : Nat, i ≤ k → rows'[i]? = rows[i]?) :
    h.Names rows' k := by
  cases hNames with
  | given hIndex => exact .given hIndex
  | found hIndex hSearched hLine hInk hFirst =>
    refine .found hIndex (by rwa [hLength]) ((hAgree _ (Int.le_refl _)).trans hLine) hInk ?_
    intro i hBefore above hAbove
    rw [hAgree i (by omega)] at hAbove
    exact hFirst i hBefore above hAbove

/-! ## The row that a header pins -/

/-- The header pins row `k` at the top: it names it, the block has it, and it has scrolled away. A
screen height other than zero brings the top up to the last row that the block scrolls to. -/
structure Pins (h : Header) (rows : List Text) (top : Int) (screenHeight? : Option Int) (k : Int) :
    Prop where
  top_pos : 0 < top
  top_lt : top < rows.length
  names : h.Names rows k
  nonneg : 0 ≤ k
  lt_length : k < rows.length
  lt_top : k < top
  lt_reach : ∀ height, screenHeight? = some height → height ≠ 0 → k < max 0 (rows.length - height)

theorem lt_effectiveTop_iff {rows : List Text} {top k : Int} {screenHeight? : Option Int} :
    k < effectiveTop rows top screenHeight? ↔
      k < top ∧ ∀ height, screenHeight? = some height → height ≠ 0 →
        k < max 0 (rows.length - height) := by
  cases screenHeight? with
  | none => simp [effectiveTop]
  | some height =>
    by_cases hZero : height = 0
    · simp [effectiveTop, hZero]
    · rw [effectiveTop, if_neg hZero, Int.lt_min]
      simp [hZero]

variable {h : Header} {rows : List Text} {top : Int} {screenHeight? : Option Int}

theorem pins_natCast_iff {k : Nat} :
    h.Pins rows top screenHeight? k ↔
      (0 < top ∧ top < rows.length) ∧ h.row? rows = some k ∧
        k < effectiveTop rows top screenHeight? := by
  rw [row?_eq_some_iff, isRow_iff_names, lt_effectiveTop_iff]
  constructor
  · intro hPins
    exact ⟨⟨hPins.top_pos, hPins.top_lt⟩, ⟨hPins.names, Int.ofNat_lt.mp hPins.lt_length⟩,
      hPins.lt_top, hPins.lt_reach⟩
  · rintro ⟨⟨hPos, hLt⟩, ⟨hNames, hInside⟩, hAbove, hReach⟩
    exact ⟨hPos, hLt, hNames, Int.natCast_nonneg k, Int.ofNat_lt.mpr hInside, hAbove, hReach⟩

theorem Pins.exists_line {k : Int} (hPins : h.Pins rows top screenHeight? k) :
    ∃ line, rows[k.toNat]? = some line := by
  have hInside : k.toNat < rows.length := by
    have hNonneg := hPins.nonneg
    have hLt := hPins.lt_length
    omega
  exact ⟨rows[k.toNat], List.getElem?_eq_getElem hInside⟩

/-- The row that is pinned takes the place of the row at the top. -/
theorem Pins.pin_eq_set {k : Int} (hPins : h.Pins rows top screenHeight? k) {line : Text}
    (hLine : rows[k.toNat]? = some line) :
    h.pin rows top screenHeight? = rows.set top.toNat line := by
  obtain ⟨k, rfl⟩ := Int.eq_ofNat_of_zero_le hPins.nonneg
  obtain ⟨hInside, hRow, hAbove⟩ := pins_natCast_iff.mp hPins
  have hCopy : rows.getD k [] = line := by
    rw [List.getD_eq_getElem?_getD]
    exact congrArg (Option.getD · []) hLine
  rw [pin, if_pos hInside, hRow, ← hCopy]
  exact if_pos hAbove

/-- Without a row to pin, all rows stay. -/
theorem pin_eq_self (hNone : ∀ k, ¬h.Pins rows top screenHeight? k) :
    h.pin rows top screenHeight? = rows := by
  unfold pin
  split
  · next hInside =>
    split
    · next k hRow =>
      apply if_neg
      intro hAbove
      exact hNone k (pins_natCast_iff.mpr ⟨hInside, hRow, hAbove⟩)
    · rfl
  · rfl

/-- With another row at the top the block pins the same row. -/
theorem Pins.set {k : Int} (hPins : h.Pins rows top screenHeight? k) (line : Text) :
    h.Pins (rows.set top.toNat line) top screenHeight? k := by
  have hLength : (rows.set top.toNat line).length = rows.length := List.length_set
  have hPos := hPins.top_pos
  have hAbove := hPins.lt_top
  -- the rows searched, down to the one that is named, stand above the top
  have hNames : h.Names (rows.set top.toNat line) k := by
    apply hPins.names.of_agree hLength
    intro i hBefore
    apply List.getElem?_set_ne
    omega
  obtain ⟨-, hLt, -, hNonneg, hInside, -, hReach⟩ := hPins
  rw [← hLength] at hLt hInside hReach
  exact ⟨hPos, hLt, hNames, hNonneg, hInside, hAbove, hReach⟩

/-- What is pinned once stays pinned. -/
theorem Pins.pin_pin {k : Int} (hPins : h.Pins rows top screenHeight? k) :
    h.pin (h.pin rows top screenHeight?) top screenHeight? = h.pin rows top screenHeight? := by
  obtain ⟨line, hLine⟩ := hPins.exists_line
  have hKept : (rows.set top.toNat line)[k.toNat]? = some line := by
    have hNonneg := hPins.nonneg
    have hAbove := hPins.lt_top
    rw [List.getElem?_set_ne (by omega), hLine]
  rw [hPins.pin_eq_set hLine, (hPins.set line).pin_eq_set hKept, List.set_set]

/-- **Pinning replaces the row at the top, or none.** For every block, top row, header and screen
height, the rows of the pinned block are those of the block, but for the top row where the header
pins one: that is then the row pinned. Pinning once more, with the header searched for again,
changes nothing. -/
theorem pin_replaces_top_row (h : Header) (rows : List Text) (top : Int)
    (screenHeight? : Option Int) :
    let pinned := h.pin rows top screenHeight?
    pinned.length = rows.length ∧
      (∀ i : Nat, (i : Int) ≠ top → pinned[i]? = rows[i]?) ∧
      (∀ k, h.Pins rows top screenHeight? k → pinned[top.toNat]? = rows[k.toNat]?) ∧
      ((∀ k, ¬h.Pins rows top screenHeight? k) → pinned = rows) ∧
      h.pin pinned top screenHeight? = pinned := by
  intro pinned
  refine ⟨length_pin _ _ _ _, ?_, ?_, pin_eq_self, ?_⟩
  · intro i hOther
    -- negative top rows are no rows, but `Int.toNat` would take them for the first one
    by_cases hTop : top ≤ 0
    · exact congrArg (·[i]?) (pin_of_nonpos h rows hTop screenHeight?)
    · apply getElem?_pin_of_ne
      omega
  · intro k hPins
    have hTop : top.toNat < rows.length := by
      have hPos := hPins.top_pos
      have hLt := hPins.top_lt
      omega
    obtain ⟨line, hLine⟩ := hPins.exists_line
    have hPinned : pinned = rows.set top.toNat line := hPins.pin_eq_set hLine
    rw [hPinned, List.getElem?_set_self hTop, hLine]
  · by_cases hSome : ∃ k, h.Pins rows top screenHeight? k
    · obtain ⟨k, hPins⟩ := hSome
      exact hPins.pin_pin
    · have hSelf : pinned = rows := pin_eq_self (not_exists.mp hSome)
      rw [hSelf]
      exact hSelf

/-- A styled blank row, a title and three rows. -/
def titled : List Text := ["\x1b[1m \x1b[0m".toList, ['t'], ['a'], ['b'], ['c']]

/-- On a screen of two rows the title is pinned at the fourth row. A screen of four rows still shows
the title where it stands when the block is scrolled to its end. -/
theorem pin_replaces_top_row_titled :
    let h : Header := { scanLimit := 2 }
    let pinned := h.pin titled 3 (some 2)
    h.Pins titled 3 (some 2) 1 ∧ (∀ k, ¬h.Pins titled 3 (some 4) k) ∧
      pinned = ["\x1b[1m \x1b[0m".toList, ['t'], ['a'], ['t'], ['c']] ∧
      pinned[3]? = titled[1]? ∧ h.pin pinned 3 (some 2) = pinned ∧
      h.pin titled 3 (some 4) = titled := by
  intro h pinned
  have hTitle : h.row? titled = some 1 := by decide +kernel
  have hPins : h.Pins titled 3 (some 2) 1 :=
    pins_natCast_iff.mpr ⟨by decide, hTitle, by decide⟩
  have hShown : ∀ k, ¬h.Pins titled 3 (some 4) k := by
    intro k hPins
    obtain ⟨k, rfl⟩ := Int.eq_ofNat_of_zero_le hPins.nonneg
    obtain ⟨-, hRow, hAbove⟩ := pins_natCast_iff.mp hPins
    obtain rfl := Option.some.inj (hTitle.symm.trans hRow)
    exact absurd hAbove (by decide)
  obtain ⟨-, -, hTop, -, hAgain⟩ := pin_replaces_top_row h titled 3 (some 2)
  obtain ⟨-, -, -, hSame, -⟩ := pin_replaces_top_row h titled 3 (some 4)
  exact ⟨hPins, hShown, by decide +kernel, hTop 1 hPins, hAgain, hSame hShown⟩

end Header

end ScrollPane
