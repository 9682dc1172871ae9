import ScrollPane.Layout.Run
import ScrollPane.Proofs.Frames

/-!
# Bounds of the scroll state

The scroll state of a layout is in order at all times: the offset lies between zero and the limit
that the last frame's heights set, and the layout follows the output exactly when it is at that
limit. With scrolling off it stands at the first row and follows.

Frames put the state in order by themselves, from any state and whatever the output answers. All
other operations keep it in order.

## Main statements

- `Layout.compose_scroll_valid`: a frame leaves a valid scroll state;
- `Layout.step_scroll_valid`: every command keeps the scroll state valid;
- `Layout.run_scroll_valid`: so it is valid after every command of every run.
-/

namespace ScrollPane

/-! ## Valid scroll states -/

/-- A scroll state whose offset and follow mode agree with its heights. -/
structure Scroll.Valid (s : Scroll) : Prop where
  offset_nonneg : 0 ≤ s.offset
  offset_le_limit : s.offset ≤ s.limit
  follow_iff : s.enabled = true → (s.follow = true ↔ s.offset = s.limit)
  disabled : s.enabled = false → s.offset = 0 ∧ s.follow = true

namespace Scroll

/-- A new scroll state has no content, so its only offset is the limit. -/
theorem valid_new (enabled : Bool) : Valid { enabled } where
  offset_nonneg := Int.le_refl 0
  offset_le_limit := limitOf_nonneg 0 0
  follow_iff _ := iff_of_true rfl rfl
  disabled _ := ⟨rfl, rfl⟩

/-- Moving puts the state in order, wherever it was. -/
theorem valid_moveTo {s : Scroll} (h : s.enabled = true) (offset : Int) :
    (s.moveTo offset).Valid where
  offset_nonneg := le_clamp offset 0 _
  offset_le_limit := clamp_le (limitOf_nonneg s.contentHeight s.regionHeight) offset
  follow_iff _ := beq_iff_eq
  disabled hOff := by
    have hOn : (s.moveTo offset).enabled = true := h
    simp [hOn] at hOff

theorem valid_toBottom (s : Scroll) : s.toBottom.Valid := by
  have hLimit : 0 ≤ s.limit := limitOf_nonneg s.contentHeight s.regionHeight
  cases hEnabled : s.enabled with
  | true =>
    have hOffset : s.toBottom.offset = s.limit := by simp [toBottom, hEnabled]
    exact {
      offset_nonneg := hOffset ▸ hLimit
      offset_le_limit := Int.le_of_eq hOffset
      follow_iff := fun _ => iff_of_true rfl hOffset
      disabled := fun hOff => by simp [toBottom, hEnabled] at hOff }
  | false =>
    have hOffset : s.toBottom.offset = 0 := by simp [toBottom, hEnabled]
    exact {
      offset_nonneg := Int.le_of_eq hOffset.symm
      offset_le_limit := hOffset ▸ hLimit
      follow_iff := fun hOn => by simp [toBottom, hEnabled] at hOn
      disabled := fun _ => ⟨hOffset, rfl⟩ }

end Scroll

namespace Layout

variable {σ : Type}

/-! ## Frames -/

/-- The scroll state that a frame makes of an output window within bounds is valid. -/
theorem OutputWindow.valid_scroll {window : OutputWindow} {height : Nat} (hNonneg : 0 ≤ window.offset)
    (hLimit : window.offset ≤ Scroll.limitOf window.contentHeight height) :
    (window.scroll true height).Valid where
  offset_nonneg := hNonneg
  offset_le_limit := hLimit
  follow_iff _ := beq_iff_eq
  disabled hOff := by simp [OutputWindow.scroll] at hOff

/-- A frame leaves a valid scroll state, whatever the state was before and whatever the components
answer. -/
theorem compose_scroll_valid (l : Layout) (output fixed : Component σ) (width : Int) (height : Nat)
    (world : σ) : (l.compose output fixed width height world).1.layout.scroll.Valid := by
  cases hEnabled : l.scroll.enabled with
  | true =>
    -- the state before does not have to be valid: settling clamps any offset
    rw [compose_of_enabled l hEnabled]
    simp only [composeScrolled_apply, hEnabled]
    obtain ⟨hNonneg, hLimit⟩ := settleOutput_offset_bounds l.scroll output width
      (height - (fixed.render width world).1.length) (fixed.render width world).2
    exact OutputWindow.valid_scroll hNonneg hLimit
  | false =>
    -- nothing scrolls, and the heights of this frame leave no offset but zero
    simp only [compose, bind_apply, hEnabled, Bool.false_eq_true, if_false, composeStacked,
      pure_apply]
    exact {
      offset_nonneg := Int.le_refl 0
      offset_le_limit := Scroll.limitOf_nonneg _ _
      follow_iff := fun hOn => absurd hOn Bool.false_ne_true
      disabled := fun _ => ⟨rfl, rfl⟩ }

/-! ## Commands -/

theorem setEnabled_scroll_valid {l : Layout} (h : l.scroll.Valid) (enabled : Bool) :
    (l.setEnabled enabled).scroll.Valid := by
  unfold setEnabled
  split
  · exact h
  · exact Scroll.valid_new enabled

theorem scrollBy_scroll_valid {l : Layout} (h : l.scroll.Valid) (rows : Int) :
    (l.scrollBy rows).scroll.Valid := by
  unfold scrollBy
  split
  · next hMoves => exact Scroll.valid_moveTo hMoves.1 _
  · exact h

theorem scrollToTop_scroll_valid {l : Layout} (h : l.scroll.Valid) : l.scrollToTop.scroll.Valid := by
  unfold scrollToTop
  split
  · next hEnabled => exact Scroll.valid_moveTo hEnabled 0
  · exact h

theorem input_scroll_valid {l : Layout} (h : l.scroll.Valid) (chunk : Mouse.Chunk) :
    (l.input chunk).scroll.Valid := by
  unfold input
  split
  · exact scrollBy_scroll_valid h _
  · exact h

/-- Every command keeps the scroll state valid. -/
theorem step_scroll_valid (output fixed : Component σ) {l : Layout} (h : l.scroll.Valid)
    (c : Command) (world : σ) : (l.step output fixed c world).1.layout.scroll.Valid := by
  cases c with
  | setEnabled enabled => exact setEnabled_scroll_valid h enabled
  | scrollBy rows => exact scrollBy_scroll_valid h rows
  | scrollByPage pages => exact scrollBy_scroll_valid h _
  | scrollToTop => exact scrollToTop_scroll_valid h
  | scrollToBottom => exact l.scroll.valid_toBottom
  | input chunk => exact input_scroll_valid h chunk
  | render width => exact compose_scroll_valid l output fixed width _ world
  | renderViewport width v => exact compose_scroll_valid l output fixed width _ world
  -- all other commands leave the scroll state alone
  | _ => exact h

/-! ## Runs -/

theorem create_scroll_valid (terminal : Terminal) (settings : Settings) :
    (create terminal settings).scroll.Valid :=
  setEnabled_scroll_valid (Scroll.valid_new false) settings.scrollEnabled

/-- A run from a valid scroll state passes through valid scroll states only. -/
theorem run_scroll_valid_of_valid (output fixed : σ → Component σ) {l : Layout}
    (h : l.scroll.Valid) (events : List (Event σ)) (world : σ) :
    ∀ o ∈ (run output fixed l events world).1, o.layout.scroll.Valid := by
  induction events generalizing l world with
  | nil => simp [run]
  | cons event events ih =>
    cases event with
    | command c =>
      have hStep := step_scroll_valid (output world) (fixed world) h c world
      intro o ho
      simp only [run, bind_apply, get_apply, pure_apply, List.mem_cons] at ho
      rcases ho with rfl | hLater
      · exact hStep
      · exact ih hStep _ o hLater
    -- the scroll state is no part of the world
    | change f => exact ih h (f world)

/-- **The scroll state is in order at all times**: when the layout is new, and after every command of
every run, whatever its two components answer and however the world changes meanwhile. -/
theorem run_scroll_valid (output fixed : σ → Component σ) (terminal : Terminal)
    (settings : Settings) (events : List (Event σ)) (world : σ) :
    (create terminal settings).scroll.Valid ∧
      ∀ o ∈ (run output fixed (create terminal settings) events world).1, o.layout.scroll.Valid :=
  ⟨create_scroll_valid terminal settings,
    run_scroll_valid_of_valid output fixed (create_scroll_valid terminal settings) events world⟩

end Layout

end ScrollPane
