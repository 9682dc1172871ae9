import ScrollPane.Component.Header
import ScrollPane.Component.Stack
import ScrollPane.Proofs.Drawing

/-!
# Parts

What a tree of components shows is a list of parts, one below the other: the rows of its leaves, and
the blocks with a sticky header that are reached through stacks alone. A block that is drawn in full
by another one is no part of its own; it is just rows of that block.

When a window starts at row `top`, only the part which that row lies in can pin its header, and only
in that row. So a window is a slice of `Part.shownFrom`, the rows of all parts with at most one row
replaced. Stacks pass a window on from child to child in the child's own coordinates;
`Stack.shows_component` proves that the pieces join up to that slice.

## Main definitions

- `Header.IsRow`: which row of a block is its header;
- `Part.PinnedAt`: which line a window shows in place of its first row;
- `Part.IsWindow`: the rows of a window, against all rows of the parts.

## Main statements

- `Part.shownFrom_append`: the parts above and the parts below do not see each other;
- `Part.getElem?_shownFrom_of_ne`, `Part.getElem?_shownFrom_of_pinned`,
  `Part.getElem?_shownFrom_of_not_pinned`: which rows are shown;
- `Component.Shows.withHeader`, `Stack.shows_component`: what composed components show.
-/

namespace ScrollPane

/-! ## Pinned headers -/

namespace Header

theorem length_pin (h : Header) (rows : List Text) (top : Int) (screenHeight? : Option Int) :
    (h.pin rows top screenHeight?).length = rows.length := by
  unfold pin
  split
  · split
    · split
      · exact List.length_set
      · rfl
    · rfl
  · rfl

/-- A header is not pinned while the block's first row is still to be seen. -/
theorem pin_of_nonpos (h : Header) (rows : List Text) {top : Int} (hTop : top ≤ 0)
    (screenHeight? : Option Int) : h.pin rows top screenHeight? = rows :=
  if_neg fun hInside => absurd hInside.1 (Int.not_lt.mpr hTop)

/-- Pinning replaces no row but the one at the top. -/
theorem getElem?_pin_of_ne (h : Header) (rows : List Text) {top : Int} {i : Nat}
    (hRow : i ≠ top.toNat) (screenHeight? : Option Int) :
    (h.pin rows top screenHeight?)[i]? = rows[i]? := by
  unfold pin
  split
  · split
    · split
      · exact List.getElem?_set_ne hRow.symm
      · rfl
    · rfl
  · rfl

/-- Row `k` of a block is its header: the row that is given, if the block has it, and if none is
given the first one with ink among those searched. -/
inductive IsRow (h : Header) (rows : List Text) (k : Nat) : Prop where
  | given (hIndex : h.index? = some (k : Int)) (hInside : k < rows.length)
  | found (hIndex : h.index? = none) (hSearched : k < max 1 h.scanLimit) {line : Text}
      (hLine : rows[k]? = some line) (hInk : hasInk line = true)
      (hFirst : ∀ i < k, ∀ above, rows[i]? = some above → hasInk above = false)

theorem IsRow.lt_length {h : Header} {rows : List Text} {k : Nat} (hRow : h.IsRow rows k) :
    k < rows.length := by
  cases hRow with
  | given _ hInside => exact hInside
  | found _ _ hLine => exact (List.getElem?_eq_some_iff.mp hLine).1

/-- The search finds the first row with ink among those searched. -/
theorem find?_eq_some_iff {rows : List Text} {scanLimit : Int} {k : Nat} :
    find? rows scanLimit = some k ↔
      k < max 1 scanLimit ∧ (∃ line, rows[k]? = some line ∧ hasInk line = true) ∧
        ∀ i < k, ∀ above, rows[i]? = some above → hasInk above = false := by
  have hSearched : k < (rows.take (max 1 scanLimit).toNat).length ↔
      (k : Int) < max 1 scanLimit ∧ k < rows.length := by
    rw [List.length_take]
    omega
  -- the search looks at a prefix of the rows only, and rows of the prefix are rows of the block
  rw [find?, List.findIdx?_eq_some_iff_getElem]
  constructor
  · rintro ⟨hLt, hInk, hFirst⟩
    obtain ⟨hLimit, hInside⟩ := hSearched.mp hLt
    rw [List.getElem_take] at hInk
    refine ⟨hLimit, ⟨rows[k], List.getElem?_eq_getElem hInside, hInk⟩, fun i hi above hAbove => ?_⟩
    obtain ⟨-, rfl⟩ := List.getElem?_eq_some_iff.mp hAbove
    simpa using hFirst i hi
  · rintro ⟨hLimit, ⟨line, hLine, hInk⟩, hFirst⟩
    obtain ⟨hInside, rfl⟩ := List.getElem?_eq_some_iff.mp hLine
    refine ⟨hSearched.mpr ⟨hLimit, hInside⟩, by rwa [List.getElem_take], fun i hi => ?_⟩
    have hAbove : i < rows.length := by omega
    rw [List.getElem_take, hFirst i hi _ (List.getElem?_eq_getElem hAbove)]
    exact Bool.false_ne_true

theorem row?_eq_some_iff {h : Header} {rows : List Text} {k : Nat} :
    h.row? rows = some k ↔ h.IsRow rows k := by
  cases hIndex : h.index? with
  | some index =>
    simp only [row?, hIndex]
    constructor
    · intro hRow
      split at hRow
      · next hInside =>
        obtain rfl := Option.some.inj hRow
        refine .given ?_ (by omega)
        rw [hIndex, Int.toNat_of_nonneg hInside.1]
      · cases hRow
    · rintro (⟨hGiven, hInside⟩ | ⟨hNone, -⟩)
      · obtain rfl := Option.some.inj (hIndex.symm.trans hGiven)
        rw [if_pos (by omega), Int.toNat_natCast]
      · simp [hIndex] at hNone
  | none =>
    simp only [row?, hIndex, find?_eq_some_iff]
    constructor
    · rintro ⟨hSearched, ⟨line, hLine, hInk⟩, hFirst⟩
      exact .found hIndex hSearched hLine hInk hFirst
    · rintro (⟨hGiven, -⟩ | ⟨-, hSearched, hLine, hInk, hFirst⟩)
      · simp [hIndex] at hGiven
      · exact ⟨hSearched, ⟨_, hLine, hInk⟩, hFirst⟩

/-- A header above the top row is pinned there. -/
theorem getElem?_pin_of_lt (h : Header) (rows : List Text) {k top : Nat}
    (hRow : h.IsRow rows k) (hAbove : k < top) (hTop : top < rows.length) :
    (h.pin rows top)[top]? = rows[k]? := by
  have hInside : (0 : Int) < top ∧ (top : Int) < rows.length := by omega
  -- blocks are not told how tall the screen is, so their top row is taken as it is
  have hPins : (k : Int) < effectiveTop rows top none := Int.ofNat_lt.mpr hAbove
  have hk : k < rows.length := hRow.lt_length
  simp only [pin, hInside, and_self, if_true, row?_eq_some_iff.mpr hRow, hPins, Int.toNat_natCast]
  rw [List.getElem?_set_self hTop, List.getD_eq_getElem?_getD, List.getElem?_eq_getElem hk]
  rfl

/-- Without a header above the top row, that row is left as it is. -/
theorem getElem?_pin_of_not_lt (h : Header) (rows : List Text) {top : Nat}
    (hRow : ∀ k, h.IsRow rows k → ¬ k < top) : (h.pin rows top)[top]? = rows[top]? := by
  unfold pin
  split
  · split
    · next k hk =>
      have hStays : ¬ (k : Int) < effectiveTop rows top none :=
        fun hPins => hRow k (row?_eq_some_iff.mp hk) (Int.ofNat_lt.mp hPins)
      rw [if_neg hStays]
    · rfl
  · rfl

end Header

/-! ## Parts and their rows -/

/-- A stretch of rows, which may be a block with a sticky header. -/
structure Part where
  header? : Option Header := none
  rows : List Text

namespace Part

/-- The rows of some parts, one part below the other. -/
def rowsOf (parts : List Part) : List Text := parts.flatMap Part.rows

/-- The rows of a part when its row `top` is the first one on screen. -/
def pinned (p : Part) (top : Nat) : List Text :=
  match p.header? with
  | some header => header.pin p.rows top
  | none => p.rows

/-- The rows of some parts when row `top` is the first one on screen. -/
def shownFrom : List Part → Nat → List Text
  | [], _ => []
  | p :: below, top => p.pinned top ++ shownFrom below (top - p.rows.length)

/-- The rows of some parts inside a window that starts at row `top`. -/
def windowOf (parts : List Part) (top height : Nat) : List Text :=
  ((shownFrom parts top).drop top).take height

/-- Row `top` of some parts lies in a block whose header line has scrolled away above it. -/
inductive PinnedAt : List Part → Nat → Text → Prop where
  | intro (above : List Part) (block : Part) (below : List Part) {header : Header} {r k : Nat}
      {line : Text} (hHeader : block.header? = some header) (hInside : r < block.rows.length)
      (hRow : header.IsRow block.rows k) (hAbove : k < r) (hLine : block.rows[k]? = some line) :
      PinnedAt (above ++ block :: below) ((rowsOf above).length + r) line

@[simp]
theorem rowsOf_nil : rowsOf [] = [] := rfl

@[simp]
theorem rowsOf_cons (p : Part) (parts : List Part) : rowsOf (p :: parts) = p.rows ++ rowsOf parts :=
  rfl

@[simp]
theorem rowsOf_append (above below : List Part) :
    rowsOf (above ++ below) = rowsOf above ++ rowsOf below :=
  List.flatMap_append

/-! ## The rows of one part -/

theorem length_pinned (p : Part) (top : Nat) : (p.pinned top).length = p.rows.length := by
  unfold pinned
  split
  · exact Header.length_pin _ _ _ _
  · rfl

theorem pinned_zero (p : Part) : p.pinned 0 = p.rows := by
  unfold pinned
  split
  · exact Header.pin_of_nonpos _ _ (Int.le_refl 0) _
  · rfl

theorem getElem?_pinned_of_ne (p : Part) {top i : Nat} (hRow : i ≠ top) :
    (p.pinned top)[i]? = p.rows[i]? := by
  unfold pinned
  split
  · exact Header.getElem?_pin_of_ne _ _ (by simpa using hRow) _
  · rfl

/-! ## The rows of several parts -/

theorem shownFrom_zero (parts : List Part) : shownFrom parts 0 = rowsOf parts := by
  induction parts with
  | nil => rfl
  | cons p below ih =>
    rw [shownFrom, p.pinned_zero, Nat.zero_sub, ih, rowsOf_cons]

theorem length_shownFrom (parts : List Part) (top : Nat) :
    (shownFrom parts top).length = (rowsOf parts).length := by
  induction parts generalizing top with
  | nil => rfl
  | cons p below ih =>
    rw [shownFrom, List.length_append, p.length_pinned, ih, rowsOf_cons, List.length_append]

/-- Parts above and parts below do not see each other: each part finds the top row by the heights of
those above it alone. -/
theorem shownFrom_append (above below : List Part) (top : Nat) :
    shownFrom (above ++ below) top =
      shownFrom above top ++ shownFrom below (top - (rowsOf above).length) := by
  induction above generalizing top with
  | nil => rfl
  | cons p above ih =>
    -- the heights of the parts passed on the way down add up
    have hTop : top - p.rows.length - (rowsOf above).length =
        top - (rowsOf (p :: above)).length := by
      rw [rowsOf_cons, List.length_append, Nat.sub_sub]
    rw [List.cons_append, shownFrom, ih, hTop, shownFrom, List.append_assoc]

/-- Parts without sticky headers show their rows, wherever the window starts. -/
theorem shownFrom_of_no_header {parts : List Part} (h : ∀ p ∈ parts, p.header? = none) (top : Nat) :
    shownFrom parts top = rowsOf parts := by
  induction parts generalizing top with
  | nil => rfl
  | cons p below ih =>
    have hPinned : p.pinned top = p.rows := by
      unfold pinned
      rw [h p List.mem_cons_self]
    rw [shownFrom, hPinned, ih (fun q hq => h q (List.mem_cons_of_mem p hq)), rowsOf_cons]

/-! ## Windows -/

/-- A window of parts is the window of those above, in which the rest goes on with the height that is
left and, if it starts inside, with the top that is left. -/
theorem windowOf_append (above below : List Part) (top height : Nat) :
    windowOf (above ++ below) top height =
      windowOf above top height ++
        windowOf below (top - (rowsOf above).length) (height - ((rowsOf above).length - top)) := by
  unfold windowOf
  rw [shownFrom_append, List.drop_append, List.take_append, length_shownFrom, List.length_drop,
    length_shownFrom]

theorem take_windowOf (parts : List Part) (top height : Nat) :
    (windowOf parts top height).take height = windowOf parts top height :=
  List.take_of_length_le (List.length_take_le height _)

theorem length_windowOf (parts : List Part) (top height : Nat) :
    (windowOf parts top height).length = min height ((rowsOf parts).length - top) := by
  rw [windowOf, List.length_take, List.length_drop, length_shownFrom]

theorem windowOf_of_no_header {parts : List Part} (h : ∀ p ∈ parts, p.header? = none)
    (top height : Nat) : windowOf parts top height = ((rowsOf parts).drop top).take height := by
  rw [windowOf, shownFrom_of_no_header h]

/-! ## Single rows -/

/-- Only the row at the top can differ from the full rows. -/
theorem getElem?_shownFrom_of_ne (parts : List Part) {top i : Nat} (hRow : i ≠ top) :
    (shownFrom parts top)[i]? = (rowsOf parts)[i]? := by
  induction parts generalizing top i with
  | nil => rfl
  | cons p below ih =>
    rw [shownFrom, rowsOf_cons]
    by_cases hInside : i < p.rows.length
    · rw [List.getElem?_append_left (by rwa [p.length_pinned]), List.getElem?_append_left hInside]
      exact p.getElem?_pinned_of_ne hRow
    · rw [List.getElem?_append_right (by rw [p.length_pinned]; omega),
        List.getElem?_append_right (by omega), p.length_pinned]
      by_cases hTop : p.rows.length ≤ top
      · exact ih (by omega)
      · -- the top row lies in `p`, so the parts below are shown as they are
        rw [Nat.sub_eq_zero_of_le (by omega), shownFrom_zero]

/-- The row at the top is a row of the part it lies in. -/
theorem getElem?_shownFrom_mid (above : List Part) (p : Part) (below : List Part) {r : Nat}
    (hInside : r < p.rows.length) :
    (shownFrom (above ++ p :: below) ((rowsOf above).length + r))[(rowsOf above).length + r]? =
      (p.pinned r)[r]? := by
  rw [shownFrom_append, Nat.add_sub_cancel_left, shownFrom,
    List.getElem?_append_right (by rw [length_shownFrom]; omega), length_shownFrom,
    Nat.add_sub_cancel_left, List.getElem?_append_left (by rwa [p.length_pinned])]

/-- Every row lies in a part. -/
theorem exists_part_of_lt {parts : List Part} {i : Nat} (h : i < (rowsOf parts).length) :
    ∃ above p below r, parts = above ++ p :: below ∧ i = (rowsOf above).length + r ∧
      r < p.rows.length := by
  induction parts generalizing i with
  | nil => exact absurd h (Nat.not_lt_zero i)
  | cons p below ih =>
    by_cases hInside : i < p.rows.length
    · exact ⟨[], p, below, i, rfl, (Nat.zero_add i).symm, hInside⟩
    · -- the row is one of the parts below, counted from where they start
      have hBelow : i - p.rows.length < (rowsOf below).length := by
        rw [rowsOf_cons, List.length_append] at h
        omega
      obtain ⟨above, q, rest, r, rfl, hRow, hr⟩ := ih hBelow
      refine ⟨p :: above, q, rest, r, rfl, ?_, hr⟩
      rw [rowsOf_cons, List.length_append]
      omega

/-- A pinned header line is shown at the top. -/
theorem getElem?_shownFrom_of_pinned {parts : List Part} {top : Nat} {line : Text}
    (h : PinnedAt parts top line) : (shownFrom parts top)[top]? = some line := by
  cases h with
  | intro above block below hHeader hInside hRow hAbove hLine =>
    rw [getElem?_shownFrom_mid above block below hInside]
    simp only [pinned, hHeader]
    rw [Header.getElem?_pin_of_lt _ _ hRow hAbove hInside, hLine]

/-- Without a pinned header line, the row at the top is shown as it is. -/
theorem getElem?_shownFrom_of_not_pinned {parts : List Part} {top : Nat}
    (h : ∀ line, ¬ PinnedAt parts top line) : (shownFrom parts top)[top]? = (rowsOf parts)[top]? := by
  by_cases hTop : top < (rowsOf parts).length
  · obtain ⟨above, p, below, r, rfl, rfl, hr⟩ := exists_part_of_lt hTop
    have hFull : (rowsOf (above ++ p :: below))[(rowsOf above).length + r]? = p.rows[r]? := by
      rw [rowsOf_append, rowsOf_cons, List.getElem?_append_right (by omega),
        Nat.add_sub_cancel_left, List.getElem?_append_left hr]
    rw [getElem?_shownFrom_mid above p below hr, hFull]
    unfold pinned
    split
    · -- a header of this block that stands above row `r` would be pinned
      next header hHeader =>
      refine header.getElem?_pin_of_not_lt p.rows fun k hk hAbove => ?_
      exact h _ (.intro above p below hHeader hr hk hAbove
        (List.getElem?_eq_getElem hk.lt_length))
    · rfl
  · rw [List.getElem?_eq_none (by rw [length_shownFrom]; omega), List.getElem?_eq_none (by omega)]

/-! ## Windows row by row -/

/-- What a window of some parts holds: the rows inside the viewport, the first of which is the header
line of the block it lies in if that has scrolled away. -/
structure IsWindow (parts : List Part) (v : Viewport) (w : Window) : Prop where
  contentHeight_eq : w.contentHeight = (rowsOf parts).length
  length_eq : w.rows.length = min v.height.toNat ((rowsOf parts).length - v.top.toNat)
  later_row : ∀ i, 1 ≤ i → i < w.rows.length → w.rows[i]? = (rowsOf parts)[v.top.toNat + i]?
  first_row_of_pinned : 0 < w.rows.length → ∀ line, PinnedAt parts v.top.toNat line →
    w.rows[0]? = some line
  first_row_of_not_pinned : 0 < w.rows.length → (∀ line, ¬ PinnedAt parts v.top.toNat line) →
    w.rows[0]? = (rowsOf parts)[v.top.toNat]?

theorem getElem?_windowOf {parts : List Part} {top height i : Nat}
    (hInside : i < (windowOf parts top height).length) :
    (windowOf parts top height)[i]? = (shownFrom parts top)[top + i]? := by
  rw [length_windowOf] at hInside
  rw [windowOf, List.getElem?_take_of_lt (by omega), List.getElem?_drop]

theorem isWindow_windowOf (parts : List Part) (v : Viewport) :
    IsWindow parts v
      { rows := windowOf parts v.top.toNat v.height.toNat
        contentHeight := (rowsOf parts).length } where
  contentHeight_eq := rfl
  length_eq := length_windowOf parts _ _
  later_row i hLater hInside := by
    rw [getElem?_windowOf hInside]
    exact getElem?_shownFrom_of_ne parts (by omega)
  first_row_of_pinned hInside line hPinned := by
    rw [getElem?_windowOf hInside]
    exact getElem?_shownFrom_of_pinned hPinned
  first_row_of_not_pinned hInside hNotPinned := by
    rw [getElem?_windowOf hInside]
    exact getElem?_shownFrom_of_not_pinned hNotPinned

end Part

/-! ## What composed components show -/

namespace Component

variable {σ : Type} {inv : σ → Prop}

/-- A component that draws `parts`, whole or by the window with the header of the block at the top
pinned, in every world with `inv`, and keeps `inv`. -/
structure Shows (inv : σ → Prop) (c : Component σ) (parts : Int → List Part) : Prop where
  render : ∀ width, Answers inv (c.render width) (Part.rowsOf (parts width))
  view : ∀ width v, Answers inv (c.view width v)
    { rows := Part.windowOf (parts width) v.top.toNat v.height.toNat
      contentHeight := (Part.rowsOf (parts width)).length }

/-- What serves rows shows one part without a header. -/
theorem Serves.shows {c : Component σ} {rows : Int → List Text} (h : c.Serves inv rows) :
    c.Shows inv fun width => [{ rows := rows width }] where
  render width := (h.render width).of_eq (List.append_nil _).symm
  view width v := by
    refine (h.view width v).of_eq ?_
    simp [Viewport.window, Viewport.slice, Part.windowOf, Part.shownFrom, Part.pinned]

/-- What shows parts without headers serves their rows. -/
theorem Shows.serves {c : Component σ} {parts : Int → List Part} (h : c.Shows inv parts)
    (hHeader : ∀ width, ∀ p ∈ parts width, p.header? = none) :
    c.Serves inv fun width => Part.rowsOf (parts width) where
  render := h.render
  view width v := by
    refine (h.view width v).of_eq ?_
    rw [Part.windowOf_of_no_header (hHeader width)]
    rfl

/-- A component shows in a larger world what it shows on its own. -/
theorem Shows.within {α : Type} {slot : Slot σ α} {inner : α → Prop}
    (hGet : ∀ world, inv world → inner (slot.get world))
    (hSet : ∀ world content, inv world → inner content → inv (slot.set content world))
    {c : Component α} {parts : Int → List Part} (h : c.Shows inner parts) :
    (c.within slot).Shows inv parts where
  render width := Slot.answers_run hGet hSet (h.render width)
  view width v := by
    rw [view_within]
    exact Slot.answers_run hGet hSet (h.view width v)

/-- The component without rows shows no parts. -/
theorem shows_blank : (blank : Component σ).Shows inv fun _ => [] where
  render _ := Answers.pure []
  view width v := by
    have hServes : (blank : Component σ).Serves inv fun _ => [] :=
      serves_of_render rfl fun _ => Answers.pure []
    exact (hServes.view width v).of_eq (by simp [Viewport.window, Viewport.slice, Part.windowOf,
      Part.shownFrom])

/-- A component whose header sticks shows one block, whatever the parts of the component inside. -/
theorem Shows.withHeader {c : Component σ} {parts : Int → List Part} (h : c.Shows inv parts)
    (header : Header) :
    (c.withHeader header).Shows inv fun width =>
      [{ header? := some header, rows := Part.rowsOf (parts width) }] where
  render width := (h.render width).of_eq (List.append_nil _).symm
  view width v := by
    -- windows that start at or above the first row pin nothing, so a negative top counts as zero
    have hPin : header.pin (Part.rowsOf (parts width)) v.top =
        header.pin (Part.rowsOf (parts width)) v.top.toNat := by
      by_cases hTop : 0 ≤ v.top
      · rw [Int.toNat_of_nonneg hTop]
      · rw [Header.pin_of_nonpos _ _ (by omega), Header.pin_of_nonpos _ _ (by omega)]
    have hLength := v.slice_length_le (header.pin (Part.rowsOf (parts width)) v.top)
    rw [Header.length_pin] at hLength
    have hWindow : Answers inv ((c.withHeader header).view width v)
        { rows := v.slice (header.pin (Part.rowsOf (parts width)) v.top)
          contentHeight := (Part.rowsOf (parts width)).length } :=
      answers_view_of_window rfl ((h.render width).bind (Answers.pure _)) (Int.ofNat_le.mpr hLength)
    refine hWindow.of_eq ?_
    simp [Viewport.slice, Part.windowOf, Part.shownFrom, Part.pinned, hPin]

end Component

/-! ## Stacks -/

namespace Stack

variable {σ ι : Type} {inv : σ → Prop} {child : ι → Component σ} {parts : ι → Int → List Part}

theorem answers_render (width : Int) (handles : List ι)
    (h : ∀ i ∈ handles, (child i).Shows inv (parts i)) :
    Answers inv (render width (handles.map child))
      (Part.rowsOf (handles.flatMap (parts · width))) := by
  induction handles with
  | nil => exact Answers.pure []
  | cons i below ih =>
    have hBelow := ih fun j hj => h j (List.mem_cons_of_mem i hj)
    refine ((h i List.mem_cons_self).render width).bind (hBelow.bind ?_)
    rw [List.flatMap_cons, Part.rowsOf_append]
    exact Answers.pure _

/-- The children that start at row `row` show their part of the window `[top, bottom)`. -/
theorem answers_windowFrom (width top bottom row : Int) (handles : List ι)
    (h : ∀ i ∈ handles, (child i).Shows inv (parts i)) :
    Answers inv (windowFrom width top bottom row (handles.map child))
      { rows := Part.windowOf (handles.flatMap (parts · width)) (max 0 (top - row)).toNat
          (bottom - row - max 0 (top - row)).toNat
        contentHeight := row + (Part.rowsOf (handles.flatMap (parts · width))).length } := by
  induction handles generalizing row with
  | nil =>
    refine (Answers.pure _).of_eq ?_
    simp [Part.windowOf, Part.shownFrom]
  | cons i below ih =>
    -- the children below start where `i` reports to end, whatever part of it is in the window
    have hBelow := fun row => ih row fun j hj => h j (List.mem_cons_of_mem i hj)
    -- the window in the coordinates of the children below, in terms of the window in those of `i`
    have hTop : (max 0 (top - (row + (Part.rowsOf (parts i width)).length))).toNat =
        (max 0 (top - row)).toNat - (Part.rowsOf (parts i width)).length := by omega
    have hHeight : (bottom - (row + (Part.rowsOf (parts i width)).length) -
          max 0 (top - (row + (Part.rowsOf (parts i width)).length))).toNat =
        (bottom - row - max 0 (top - row)).toNat -
          ((Part.rowsOf (parts i width)).length - (max 0 (top - row)).toNat) := by omega
    have hOwn : (max 0 (bottom - row - max 0 (top - row))).toNat =
        (bottom - row - max 0 (top - row)).toNat := by omega
    refine ((h i List.mem_cons_self).view width _).bind ((hBelow _).bind ((Answers.pure _).of_eq ?_))
    simp only [List.flatMap_cons, Part.windowOf_append, Part.rowsOf_append, List.length_append, hTop,
      hHeight, hOwn, Part.take_windowOf, Int.natCast_add, Int.add_assoc]

/-- A stack passes an invalidation on, so it keeps what all its children keep. -/
theorem answers_invalidate (handles : List ι)
    (h : ∀ i ∈ handles, Answers inv (child i).invalidate ()) :
    Answers inv (invalidate (handles.map child)) () := by
  induction handles with
  | nil => exact Answers.pure ()
  | cons i below ih =>
    have hBelow := ih fun j hj => h j (List.mem_cons_of_mem i hj)
    exact (h i List.mem_cons_self).bind hBelow

/-- A stack shows the parts of its children, one child below the other. -/
theorem shows_component (handles : List ι) (h : ∀ i ∈ handles, (child i).Shows inv (parts i)) :
    (component (handles.map child)).Shows inv fun width => handles.flatMap (parts · width) where
  render width := answers_render width handles h
  view width v := by
    have hWindow :=
      answers_windowFrom width (max 0 v.top) (max 0 v.top + max 0 v.height) 0 handles h
    have hTop : (max 0 (max 0 v.top - 0)).toNat = v.top.toNat := by omega
    have hHeight : (max 0 v.top + max 0 v.height - 0 - max 0 (max 0 v.top - 0)).toNat =
        v.height.toNat := by omega
    rw [hTop, hHeight, Int.zero_add] at hWindow
    refine Component.answers_view_of_window rfl hWindow ?_
    show ((Part.windowOf _ _ _).length : Int) ≤ ((Part.rowsOf _).length : Nat)
    rw [Part.length_windowOf]
    omega

end Stack

end ScrollPane
