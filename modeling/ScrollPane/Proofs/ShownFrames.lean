import ScrollPane.Proofs.Parts
import ScrollPane.Proofs.ScrollBounds

/-!
# Frames of shown parts

Where the output of a layout shows known parts, a frame is a function of the layout, of these parts
and of the rows of the fixed part. An output that may pin a header answers differently at a stale
offset than at the settled one, but the height it reports is the same from anywhere. So the first
answer settles the offset for good, and the second one is the window at it.

## Main definitions

- `Layout.OutputWindow.ofParts`: the output window of known parts;
- `Layout.frameOfParts`: the frame of known parts above known rows.

## Main statements

- `Layout.answers_settleOutput_of_shows`: how a frame comes to its output window;
- `Layout.compose_of_shows`: a frame is the frame of the parts shown;
- `Layout.frameOfParts_again`: a frame of the same parts changes nothing.
-/

namespace ScrollPane

variable {σ : Type} {inv : σ → Prop}

/-- Parts that are shown by a component without windows of its own are shown as they are, from
wherever the window starts. -/
theorem Component.Shows.windowOf_eq_slice {c : Component σ} {parts : Int → List Part}
    (h : c.Shows inv parts) (hPlain : c.drawsWindows = false) {world : σ} (hWorld : inv world)
    (width : Int) (v : Viewport) :
    Part.windowOf (parts width) v.top.toNat v.height.toNat = v.slice (Part.rowsOf (parts width)) := by
  have hNone : c.window? = none := by simpa [drawsWindows] using hPlain
  obtain ⟨hShown, -⟩ := h.view width v world hWorld
  obtain ⟨hDrawn, -⟩ := h.render width world hWorld
  simp only [Component.view, hNone, bind_apply, pure_apply, hDrawn] at hShown
  exact (congrArg Window.rows hShown).symm

/-- A scroll state in order is settled: with the heights it is in order for, it stays where it is. -/
theorem Scroll.Valid.settle_eq {s : Scroll} (h : s.Valid) (hEnabled : s.enabled = true) :
    s.settle s.contentHeight s.regionHeight = s.offset := by
  have hNonneg := h.offset_nonneg
  have hLimit : s.offset ≤ limitOf s.contentHeight s.regionHeight := h.offset_le_limit
  unfold settle clamp
  dsimp only
  split
  · next hFollow => exact ((h.follow_iff hEnabled).mp hFollow).symm
  · omega

namespace Layout

/-! ## The output window -/

/-- The window of some parts in a region of a height, at the offset that a layout settles on. -/
def OutputWindow.ofParts (scroll : Scroll) (parts : List Part) (region : Nat) : OutputWindow where
  rows := Part.windowOf parts (scroll.settle (Part.rowsOf parts).length region).toNat region
  offset := scroll.settle (Part.rowsOf parts).length region
  contentHeight := (Part.rowsOf parts).length

variable {output fixed : Component σ} {parts : Int → List Part}

/-- An output that shows parts gives the window of these parts at the settled offset, whether it is
asked for it once, twice, or draws itself in full. -/
theorem answers_settleOutput_of_shows (h : output.Shows inv parts) (scroll : Scroll) (width : Int)
    (height : Nat) :
    Answers inv (settleOutput scroll output width height)
      (.ofParts scroll (parts width) height) := by
  intro world hWorld
  apply settleOutput_cases (motive := fun r => r.1 = _ ∧ inv r.2)
  case full =>
    intro hPlain drawn offset
    obtain ⟨hDrawn, hAfter⟩ := h.render width world hWorld
    refine ⟨?_, hAfter⟩
    have hWindow := h.windowOf_eq_slice hPlain hWorld width { width, height, top := offset }
    simp only [Viewport.slice, Int.toNat_natCast] at hWindow
    simp only [OutputWindow.ofParts, offset, drawn, hDrawn] at hWindow ⊢
    rw [hWindow]
  case settled =>
    intro _ first hOffset
    obtain ⟨hFirst, hAfter⟩ := h.view width { width, height, top := scroll.offset } world hWorld
    refine ⟨?_, hAfter⟩
    simp only [first, hFirst] at hOffset ⊢
    -- the window asked for is the one at the settled offset
    simp only [OutputWindow.ofParts, hOffset, Int.toNat_natCast, Part.take_windowOf]
  case moved =>
    intro _ first offset second _
    obtain ⟨hFirst, hBetween⟩ := h.view width { width, height, top := scroll.offset } world hWorld
    obtain ⟨hSecond, hAfter⟩ := h.view width { width, height, top := offset } _ hBetween
    refine ⟨?_, hAfter⟩
    have hOffset : offset = scroll.settle (Part.rowsOf (parts width)).length height := by
      simp only [offset, first, hFirst]
    -- both answers report the same height, so the offset settled by the first stands
    have hStands : min offset (Scroll.limitOf (Part.rowsOf (parts width)).length height) = offset :=
      Int.min_eq_left (hOffset ▸ scroll.settle_le_limitOf _ _)
    simp only [second, first, hSecond, hStands, Int.toNat_natCast, Part.take_windowOf]
    rw [hOffset]
    rfl

/-- A frame leaves a scroll state in order, so that the same parts are shown from where they are. -/
theorem OutputWindow.ofParts_scroll (scroll : Scroll) (parts : List Part) (region : Nat) :
    let window := OutputWindow.ofParts scroll parts region
    OutputWindow.ofParts (window.scroll true region) parts region = window := by
  intro window
  have hValid : (window.scroll true region).Valid :=
    OutputWindow.valid_scroll (scroll.settle_nonneg _ _) (scroll.settle_le_limitOf _ _)
  have hSettled : (window.scroll true region).settle (Part.rowsOf parts).length region =
      window.offset := hValid.settle_eq rfl
  unfold OutputWindow.ofParts
  rw [hSettled]
  rfl

/-! ## The whole frame -/

/-- The frame around an output window, above the rows of the fixed part. -/
def frameAround (l : Layout) (window : OutputWindow) (fixedRows : List Text) (height : Nat) :
    Outcome (List Text) :=
  let region := height - fixedRows.length
  let visible := padRows window.rows region
  let kept := fixedRows.drop (fixedRows.length - height)
  let scroll := window.scroll l.scroll.enabled region
  let selection? := if window.offset = l.scroll.offset then l.selection? else none
  { result := drawSelection selection? visible ++ kept
    layout :=
      { l with scroll, selection?, visibleOutput := visible, visibleFixed := kept,
               fixedHeight := fixedRows.length }
    notices := followNotices l.scroll scroll }

/-- The frame without scrolling: rows of the output above the rows of the fixed part. -/
def frameStacked (l : Layout) (rows fixedRows : List Text) (contentHeight : Int) :
    Outcome (List Text) where
  result := rows ++ fixedRows
  layout :=
    { l with scroll := { l.scroll with offset := 0, follow := true, contentHeight, regionHeight := 0 }
             visibleOutput := rows
             visibleFixed := fixedRows
             fixedHeight := fixedRows.length }

/-- The frame of some parts above the rows of the fixed part. Without scrolling it holds all rows of
the parts, as far down as a viewport can reach. -/
def frameOfParts (l : Layout) (parts : List Part) (fixedRows : List Text) (height : Nat) :
    Outcome (List Text) :=
  if l.scroll.enabled then
    l.frameAround (.ofParts l.scroll parts (height - fixedRows.length)) fixedRows height
  else
    l.frameStacked ((Part.rowsOf parts).take Viewport.unboundedHeight.toNat) fixedRows
      (Part.rowsOf parts).length

theorem frameOfParts_of_enabled {l : Layout} (h : l.scroll.enabled = true) (parts : List Part)
    (fixedRows : List Text) (height : Nat) :
    l.frameOfParts parts fixedRows height =
      l.frameAround (.ofParts l.scroll parts (height - fixedRows.length)) fixedRows height :=
  if_pos h

theorem frameOfParts_of_disabled {l : Layout} (h : l.scroll.enabled = false) (parts : List Part)
    (fixedRows : List Text) (height : Nat) :
    l.frameOfParts parts fixedRows height =
      l.frameStacked ((Part.rowsOf parts).take Viewport.unboundedHeight.toNat) fixedRows
        (Part.rowsOf parts).length :=
  if_neg (by simp [h])

/-- Over an output that shows parts, a frame is the frame of these parts. The fixed part may be any
component that leaves what the output shows. -/
theorem compose_of_shows (h : output.Shows inv parts) (l : Layout) (width : Int) (height : Nat)
    {world : σ} (hFixed : inv (fixed.render width world).2) :
    let drawn := l.compose output fixed width height world
    drawn.1 = l.frameOfParts (parts width) (fixed.render width world).1 height ∧ inv drawn.2 := by
  intro drawn
  cases hEnabled : l.scroll.enabled with
  | true =>
    obtain ⟨hWindow, hAfter⟩ := answers_settleOutput_of_shows h l.scroll width
      (height - (fixed.render width world).1.length) _ hFixed
    have hDrawn : drawn = _ := compose_of_enabled l hEnabled output fixed width height world
    rw [hDrawn, composeScrolled_apply, frameOfParts_of_enabled hEnabled]
    refine ⟨?_, hAfter⟩
    simp only [hWindow]
    rfl
  | false =>
    obtain ⟨hWindow, hAfter⟩ :=
      h.view width { width, height := Viewport.unboundedHeight } _ hFixed
    have hDrawn : drawn = _ := compose_of_disabled l hEnabled output fixed width height world
    rw [hDrawn, frameOfParts_of_disabled hEnabled]
    refine ⟨?_, hAfter⟩
    -- from the first row on nothing is pinned
    simp only [Part.windowOf, Int.toNat_zero, Part.shownFrom_zero, List.drop_zero] at hWindow
    simp only [composeStacked, bind_apply, pure_apply, hWindow]
    rfl

theorem terminal_frameOfParts (l : Layout) (parts : List Part) (fixedRows : List Text)
    (height : Nat) : (l.frameOfParts parts fixedRows height).layout.terminal = l.terminal := by
  unfold frameOfParts
  split <;> rfl

/-! ## The same frame once more -/

/-- A frame around the same window keeps the selection, and goes on following if it did. -/
theorem frameAround_again (l : Layout) (window : OutputWindow) (fixedRows : List Text)
    (height : Nat) :
    let first := l.frameAround window fixedRows height
    first.layout.frameAround window fixedRows height = { first with notices := [] } := by
  simp [frameAround, OutputWindow.scroll, followNotices]

/-- **A frame of the same parts changes nothing.** A layout that a frame has just left draws the same
rows again, is left as it is, and has nothing to report. -/
theorem frameOfParts_again (l : Layout) (parts : List Part) (fixedRows : List Text) (height : Nat) :
    let first := l.frameOfParts parts fixedRows height
    first.layout.frameOfParts parts fixedRows height = { first with notices := [] } := by
  intro first
  cases hEnabled : l.scroll.enabled with
  | true =>
    let region := height - fixedRows.length
    let window := OutputWindow.ofParts l.scroll parts region
    have hFirst : first = l.frameAround window fixedRows height :=
      frameOfParts_of_enabled hEnabled parts fixedRows height
    have hScroll : first.layout.scroll = window.scroll true region := by
      rw [hFirst, ← hEnabled]
      rfl
    calc first.layout.frameOfParts parts fixedRows height
        = first.layout.frameAround (.ofParts first.layout.scroll parts region) fixedRows height :=
          frameOfParts_of_enabled (by rw [hScroll]; rfl) parts fixedRows height
      _ = first.layout.frameAround window fixedRows height := by
          rw [hScroll, OutputWindow.ofParts_scroll]
      _ = { first with notices := [] } := by
          rw [hFirst, frameAround_again]
  | false =>
    have hFirst : first = _ := frameOfParts_of_disabled hEnabled parts fixedRows height
    have hOff : first.layout.scroll.enabled = false := by
      rw [hFirst]
      exact hEnabled
    rw [frameOfParts_of_disabled hOff, hFirst]
    rfl

end Layout

end ScrollPane
