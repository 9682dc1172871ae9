import ScrollPane.Layout.Frame
import ScrollPane.Proofs.Drawing
import ScrollPane.Proofs.SelectionRows
import Mathlib.Data.List.DropRight

/-!
# Frames

With scrolling on, a frame has the height asked for, whatever the two components answer: the last
rows of the fixed part at the bottom, as many as there is room for, and above them the rows of the
output window, filled up with blank ones, with the selection drawn in them.

## Main statements

- `Layout.settleOutput_cases`: the three ways in which a frame comes to its output window;
- `Layout.composeScrolled_apply`: a frame, given its output window;
- `Layout.frame_rows`: the rows of a frame, for the terminal and for a viewport.
-/

namespace ScrollPane.Layout

variable {σ : Type}

/-! ## The output window -/

/-- The three ways in which a frame comes to its output window: an output that draws itself in full
is sliced at the settled offset; one that draws windows is asked once if its answer leaves the offset
where it was, and a second time if not. -/
theorem settleOutput_cases {motive : OutputWindow × σ → Prop} (scroll : Scroll)
    (output : Component σ) (width : Int) (height : Nat) (world : σ)
    (full : output.drawsWindows = false →
      let drawn := output.render width world
      let offset := scroll.settle drawn.1.length height
      motive (⟨(drawn.1.drop offset.toNat).take height, offset, drawn.1.length⟩, drawn.2))
    (settled : output.drawsWindows = true →
      let first := output.view width { width, height, top := scroll.offset } world
      scroll.settle first.1.contentHeight height = scroll.offset →
      motive (⟨first.1.rows.take height, scroll.offset, first.1.contentHeight⟩, first.2))
    (moved : output.drawsWindows = true →
      let first := output.view width { width, height, top := scroll.offset } world
      let offset := scroll.settle first.1.contentHeight height
      let second := output.view width { width, height, top := offset } first.2
      offset ≠ scroll.offset →
      motive (⟨second.1.rows.take height,
        min offset (Scroll.limitOf second.1.contentHeight height), second.1.contentHeight⟩,
        second.2)) :
    motive (settleOutput scroll output width height world) := by
  unfold settleOutput
  cases hDraws : output.drawsWindows with
  | false => exact full hDraws
  | true =>
    simp only [if_true, bind_apply]
    split
    · next hOffset =>
      rw [hOffset]
      exact settled hDraws hOffset
    · next hOffset => exact moved hDraws hOffset

/-- Whatever the output answers, the offset of a frame lies within the height it reported last. -/
theorem settleOutput_offset_bounds (scroll : Scroll) (output : Component σ) (width : Int)
    (height : Nat) (world : σ) :
    let window := (settleOutput scroll output width height world).1
    0 ≤ window.offset ∧ window.offset ≤ Scroll.limitOf window.contentHeight height := by
  apply settleOutput_cases (motive := fun r =>
    0 ≤ r.1.offset ∧ r.1.offset ≤ Scroll.limitOf r.1.contentHeight height)
  case full =>
    intro _ drawn offset
    exact ⟨scroll.settle_nonneg _ _, scroll.settle_le_limitOf _ _⟩
  case settled =>
    intro _ first hOffset
    -- the offset of the last frame is the one that the answer settles
    rw [← hOffset]
    exact ⟨scroll.settle_nonneg _ _, scroll.settle_le_limitOf _ _⟩
  case moved =>
    intro _ first offset second _
    -- the second answer may be lower than the first, so the offset is cut down to it
    exact ⟨Int.le_min.mpr ⟨scroll.settle_nonneg _ _, Scroll.limitOf_nonneg _ _⟩,
      Int.min_le_right _ _⟩

/-- The output window never holds more rows than the region. -/
theorem length_settleOutput_le (scroll : Scroll) (output : Component σ) (width : Int) (height : Nat)
    (world : σ) : (settleOutput scroll output width height world).1.rows.length ≤ height := by
  apply settleOutput_cases (motive := fun r => r.1.rows.length ≤ height)
  case full => intro _ _ _; exact List.length_take_le height _
  case settled => intro _ _ _; exact List.length_take_le height _
  case moved => intro _ _ _ _ _; exact List.length_take_le height _

/-! ## The whole frame -/

/-- A frame with scrolling on, given its output window. The region is what the fixed part leaves of
the height. -/
theorem composeScrolled_apply (l : Layout) (output : Component σ) (fixedRows : List Text)
    (width : Int) (height : Nat) (world : σ) :
    let region := height - fixedRows.length
    let settled := settleOutput l.scroll output width region world
    let visible := padRows settled.1.rows region
    let kept := fixedRows.drop (fixedRows.length - height)
    let scroll := settled.1.scroll l.scroll.enabled region
    let selection? := if settled.1.offset = l.scroll.offset then l.selection? else none
    l.composeScrolled output fixedRows width height world =
      ({ result := drawSelection selection? visible ++ kept
         layout := { l with scroll, selection?, visibleOutput := visible, visibleFixed := kept }
         notices := followNotices l.scroll scroll }, settled.2) := by
  -- where the fixed part does not fit, what is kept of it fills the frame
  have hRegion : height - (fixedRows.drop (fixedRows.length - height)).length =
      height - fixedRows.length := by
    rw [List.length_drop]
    omega
  simp only [composeScrolled, bind_apply, pure_apply, hRegion]

theorem length_padRows {rows : List Text} {height : Nat} (h : rows.length ≤ height) :
    (padRows rows height).length = height := by
  rw [padRows, List.length_append, List.length_replicate]
  omega

theorem length_drawSelection (selection? : Option Selection) (rows : List Text) :
    (drawSelection selection? rows).length = rows.length := by
  cases selection? with
  | none => rfl
  | some selection => exact selection.length_draw rows

/-- The rows of a frame of a height, drawn by the layout `before`, which it leaves as `after`. -/
structure IsFrame (before after : Layout) (outputRows fixedRows : List Text) (height : Nat)
    (frame : List Text) : Prop where
  /-- The frame has the height asked for. -/
  length_eq : frame.length = height
  /-- The fixed part has the last rows, or as many of its own last rows as there is room for. -/
  fixed_eq :
    frame.rtake (min fixedRows.length height) = fixedRows.rtake (min fixedRows.length height)
  /-- The rows above are the visible output with the selection drawn in it. -/
  output_eq : frame.take (height - fixedRows.length) =
    drawSelection after.selection? after.visibleOutput
  /-- The visible output is the output window, filled up with blank rows. -/
  visible_eq : after.visibleOutput =
    outputRows ++ List.replicate (height - fixedRows.length - outputRows.length) []
  visible_length : after.visibleOutput.length = height - fixedRows.length
  /-- A frame at another offset has dropped the selection; all others draw it. -/
  selection_eq : after.selection? =
    if after.scroll.offset = before.scroll.offset then before.selection? else none
  /-- Drawing the selection reads visible rows only. -/
  selection_inside : ∀ selection, after.selection? = some selection →
    selection.sweep after.visibleOutput = some (selection.draw after.visibleOutput)

/-- The visible output, the selection and the fixed rows determine a frame of a height. -/
theorem IsFrame.frame_eq {before after : Layout} {outputRows fixedRows : List Text} {height : Nat}
    {frame : List Text} (h : IsFrame before after outputRows fixedRows height frame) :
    frame = drawSelection after.selection? after.visibleOutput ++
      fixedRows.rtake (min fixedRows.length height) := by
  have hFixed : frame.drop (height - fixedRows.length) =
      fixedRows.rtake (min fixedRows.length height) := by
    rw [← h.fixed_eq, List.rtake, h.length_eq]
    congr 1
    omega
  rw [← h.output_eq, ← hFixed, List.take_append_drop]

/-- The output region and the kept fixed rows make up a frame. -/
theorem isFrame_composeScrolled (l : Layout) (output : Component σ) (fixedRows : List Text)
    (width : Int) (height : Nat) (world : σ) :
    let outputRows := (settleOutput l.scroll output width (height - fixedRows.length) world).1.rows
    let o := (l.composeScrolled output fixedRows width height world).1
    IsFrame l o.layout outputRows fixedRows height o.result := by
  intro outputRows o
  have hVisible : (padRows outputRows (height - fixedRows.length)).length =
      height - fixedRows.length :=
    length_padRows (length_settleOutput_le l.scroll output width _ world)
  have hDrawn : ∀ selection?, (drawSelection selection?
      (padRows outputRows (height - fixedRows.length))).length = height - fixedRows.length :=
    fun selection? => (length_drawSelection selection? _).trans hVisible
  have hKept :
      (fixedRows.drop (fixedRows.length - height)).length = min fixedRows.length height := by
    rw [List.length_drop]
    omega
  simp only [o, composeScrolled_apply]
  exact {
    length_eq := by
      rw [List.length_append, hDrawn, hKept]
      omega
    fixed_eq := by
      rw [List.rtake, List.rtake, List.length_append, hDrawn, hKept, Nat.add_sub_cancel,
        List.drop_left' (hDrawn _)]
      congr 1
      omega
    output_eq := List.take_left' (hDrawn _)
    visible_eq := rfl
    visible_length := hVisible
    selection_eq := rfl
    selection_inside := fun selection _ => selection.sweep_eq_draw _ }

/-- A frame drawn with scrolling on is composed of its two parts. -/
theorem compose_of_enabled (l : Layout) (h : l.scroll.enabled = true) (output fixed : Component σ)
    (width : Int) (height : Nat) (world : σ) :
    l.compose output fixed width height world =
      let drawn := fixed.render width world
      composeScrolled { l with fixedHeight := drawn.1.length } output drawn.1 width height drawn.2 := by
  simp only [compose, bind_apply, h, if_true]

/-- A frame drawn with scrolling off is the two parts stacked. -/
theorem compose_of_disabled (l : Layout) (h : l.scroll.enabled = false) (output fixed : Component σ)
    (width : Int) (height : Nat) (world : σ) :
    l.compose output fixed width height world =
      let drawn := fixed.render width world
      composeStacked { l with fixedHeight := drawn.1.length } output drawn.1 width drawn.2 := by
  simp only [compose, bind_apply, h, Bool.false_eq_true, if_false]

/-- With scrolling on, a viewport is given the whole frame. -/
theorem renderViewport_rows_of_enabled (l : Layout) (h : l.scroll.enabled = true)
    (output fixed : Component σ) (width : Int) (v : Viewport) (world : σ) :
    (l.renderViewport output fixed width v world).1.result.rows =
      (l.compose output fixed width v.height.toNat world).1.result := by
  -- the frame's own layout decides how it is cut, and drawing does not switch scrolling off
  have hStays :
      (l.compose output fixed width v.height.toNat world).1.layout.scroll.enabled = true := by
    rw [compose_of_enabled l h, composeScrolled_apply]
    exact h
  simp only [renderViewport, bind_apply, pure_apply, Outcome.map, hStays, if_true]

/-- **The rows of a frame.** With scrolling on, a frame for the terminal has as many rows as the
terminal, and one for a viewport as many as the viewport, none if that is negative. In either case
the last rows are the last rows of the fixed part, word for word, and those above are the visible
output with the selection drawn in it, whatever the two components answer. -/
theorem frame_rows (output fixed : Component σ) (l : Layout) (hEnabled : l.scroll.enabled = true)
    (width : Int) (world : σ) :
    let drawn := fixed.render width world
    let outputRows (height : Nat) :=
      (settleOutput l.scroll output width (height - drawn.1.length) drawn.2).1.rows
    let rendered := (l.render output fixed width world).1
    let viewed (v : Viewport) := (l.renderViewport output fixed width v world).1
    IsFrame l rendered.layout (outputRows l.terminal.rows.toNat) drawn.1 l.terminal.rows.toNat
        rendered.result ∧
      ∀ v, IsFrame l (viewed v).layout (outputRows v.height.toNat) drawn.1 v.height.toNat
        (viewed v).result.rows := by
  intro drawn outputRows rendered viewed
  have hFrame : ∀ height,
      let o := (l.compose output fixed width height world).1
      IsFrame l o.layout (outputRows height) drawn.1 height o.result := fun height => by
    have hScrolled := isFrame_composeScrolled { l with fixedHeight := drawn.1.length } output drawn.1
      width height drawn.2
    intro o
    simp only [o, compose_of_enabled l hEnabled]
    exact { hScrolled with }
  refine ⟨hFrame _, fun v => ?_⟩
  rw [show (viewed v).result.rows = _ from renderViewport_rows_of_enabled l hEnabled ..]
  exact hFrame v.height.toNat

/-- A component that answers four rows to whatever viewport it is given, of a content whose height it
reports as negative. -/
def unruly : Component Unit where
  render _ := pure []
  window? := some fun _ _ => pure { rows := [['a'], ['b'], ['c'], ['d']], contentHeight := -1 }

/-- A fixed part of one line. -/
def footer : Component Unit where
  render _ := pure [['f']]

/-- Five rows, of which the unruly output has the first four; the selection runs from beyond them
back to above them. -/
theorem frame_rows_unruly :
    let l := (create { rows := 5 } { scrollEnabled := true }).select (some ⟨9, -7, -1, 5⟩)
    let drawn := (l.render unruly footer 80 ()).1
    l.scroll.enabled = true ∧
      IsFrame l drawn.layout [['a'], ['b'], ['c'], ['d']] [['f']] 5 drawn.result ∧
      drawn.result = ["\x1b[7ma\x1b[0m".toList, "\x1b[7mb\x1b[0m".toList,
        "\x1b[7mc\x1b[0m".toList, "\x1b[7md\x1b[0m".toList, ['f']] :=
  ⟨by decide +kernel,
    (frame_rows unruly footer
      ((create { rows := 5 } { scrollEnabled := true }).select (some ⟨9, -7, -1, 5⟩))
      (by decide +kernel) 80 ()).1,
    by decide +kernel⟩

end ScrollPane.Layout
