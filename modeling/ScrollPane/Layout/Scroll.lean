/-!
# Scroll state

Which part of the output a layout shows. The offset is the output row at the top of the region. The
two heights are those of the last frame; they bound explicit scrolling until the next frame looks
again. The state is plain data: what holds of the states that a layout can reach is a theorem about
its operations.
-/

namespace ScrollPane

/-- The nearest integer to `value` in a range; the lower end wins if the range is empty. -/
def clamp (value low high : Int) : Int := max low (min value high)

theorem le_clamp (value low high : Int) : low ≤ clamp value low high :=
  Int.le_max_left low _

theorem clamp_le {low high : Int} (h : low ≤ high) (value : Int) : clamp value low high ≤ high :=
  Int.max_le.mpr ⟨h, Int.min_le_right value high⟩

/-- Which part of the output is shown. -/
structure Scroll where
  /-- Whether the output scrolls at all, instead of being shown in full. -/
  enabled : Bool := false
  /-- The output row at the top of the region. -/
  offset : Int := 0
  /-- Whether the region stays at the newest output as more comes in. -/
  follow : Bool := true
  /-- The height of the whole output in the last frame. -/
  contentHeight : Int := 0
  /-- The height of the output region in the last frame. -/
  regionHeight : Int := 0
deriving DecidableEq, Repr

namespace Scroll

/-- The largest offset at which a region of a height is filled by a content of a height. -/
def limitOf (contentHeight regionHeight : Int) : Int := max 0 (contentHeight - regionHeight)

theorem limitOf_nonneg (contentHeight regionHeight : Int) : 0 ≤ limitOf contentHeight regionHeight :=
  Int.le_max_left 0 _

/-- The largest offset, by the heights of the last frame. -/
def limit (s : Scroll) : Int := limitOf s.contentHeight s.regionHeight

/-- Whether the newest output is in view. -/
def atBottom (s : Scroll) : Bool := s.offset == s.limit

/-- Moves to an offset as far as the last frame's heights allow. Reaching the end resumes
following. -/
def moveTo (s : Scroll) (offset : Int) : Scroll :=
  let offset := clamp offset 0 s.limit
  { s with offset, follow := offset == s.limit }

/-- Moves to the newest output and follows it. -/
def toBottom (s : Scroll) : Scroll :=
  { s with offset := if s.enabled then s.limit else 0, follow := true }

/-- The rows that one page moves: the region less one row, so that pages overlap. -/
def pageSize (s : Scroll) : Int := max 1 (s.regionHeight - 1)

/-- The offset at which the next frame shows a content of a height in a region of a height: at the
end while following, and otherwise where it is, as far as the content allows. -/
def settle (s : Scroll) (contentHeight regionHeight : Int) : Int :=
  let limit := limitOf contentHeight regionHeight
  if s.follow then limit else clamp s.offset 0 limit

theorem settle_nonneg (s : Scroll) (contentHeight regionHeight : Int) :
    0 ≤ s.settle contentHeight regionHeight := by
  unfold settle
  split
  · exact limitOf_nonneg contentHeight regionHeight
  · exact le_clamp s.offset 0 _

theorem settle_le_limitOf (s : Scroll) (contentHeight regionHeight : Int) :
    s.settle contentHeight regionHeight ≤ limitOf contentHeight regionHeight := by
  unfold settle
  split
  · exact Int.le_refl _
  · exact clamp_le (limitOf_nonneg contentHeight regionHeight) s.offset

end Scroll

end ScrollPane
