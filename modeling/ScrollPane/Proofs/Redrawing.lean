import ScrollPane.Proofs.Histories
import ScrollPane.Proofs.SceneTree
import ScrollPane.Proofs.ShownFrames

/-!
# Drawing a layout again

Drawing a frame changes a layout, and it changes what the components behind it remember. Where both
components are trees without layouts, nothing of that is ever seen: they show the same parts again,
even if they share nodes, and the frame has settled all that the layout decides anew. So one frame is
enough to come to rest, from whatever state and at whatever height.

## Main statements

- `Scene.compose_trees`: a frame over trees of a scene;
- `Scene.render_again`: a frame drawn twice.
-/

namespace ScrollPane.Scene

open Layout (Moment)

variable {γ : Type} {guestComponent : γ → Component γ}

/-- A frame over two trees of a scene is the frame of the parts of the one above the rows of the other,
and makes no visible difference to the scene. -/
theorem compose_trees {s : Scene γ} {output fixed : Handle}
    (hOutput : s.Everywhere (Node.Steady guestComponent) output)
    (hFixed : s.Everywhere (Node.Steady guestComponent) fixed) (l : Layout) (width : Int)
    (height : Nat) :
    let drawn := l.compose (s.component guestComponent output) (s.component guestComponent fixed)
      width height s
    drawn.1 = l.frameOfParts (s.parts guestComponent output width)
        (Part.rowsOf (s.parts guestComponent fixed width)) height ∧
      s.Alike guestComponent drawn.2 := by
  intro drawn
  obtain ⟨hRows, hAlike⟩ := (component_shows hFixed).render width s (Alike.refl s)
  obtain ⟨hFrame, hAfter⟩ :=
    Layout.compose_of_shows (component_shows hOutput) l width height hAlike
  rw [hRows] at hFrame
  exact ⟨hFrame, hAfter⟩

/-- **Drawing a frame twice is drawing it once.** A layout over two trees of a scene, in any state and
on a terminal of any height, answers two renderings at the same width with the same rows. The second
one leaves the layout as the first has left it, scroll state, selection and visible rows included, and
reports nothing. -/
theorem render_again (guestComponent : γ → Component γ) (s : Scene γ) (output fixed : Handle)
    (hOutput : s.Everywhere (Node.Steady guestComponent) output)
    (hFixed : s.Everywhere (Node.Steady guestComponent) fixed) (l : Layout) (width : Int) :
    let tree (h : Handle) (s : Scene γ) := s.component guestComponent h
    let first := Moment.of (tree output) (tree fixed) l s (.render width)
    let second := Moment.of (tree output) (tree fixed) first.after first.worldAfter (.render width)
    second.outcome.result = first.outcome.result ∧ second.after = first.after ∧
      second.outcome.notices = [] := by
  intro tree first second
  let height := l.terminal.rows.toNat
  let frame := l.frameOfParts (s.parts guestComponent output width)
    (Part.rowsOf (s.parts guestComponent fixed width)) height
  obtain ⟨hDrawn, hWorld⟩ := compose_trees hOutput hFixed l width height
  have hFirst : first.outcome = frame.map .frame := congrArg (Outcome.map Layout.Reply.frame) hDrawn
  have hAfter : first.after = frame.layout := congrArg Outcome.layout hDrawn
  have hHeight : first.after.terminal.rows.toNat = height := by
    rw [hAfter, Layout.terminal_frameOfParts]
  -- the trees are looked up anew, in the scene that the first frame has left
  have hAlike : s.Alike guestComponent first.worldAfter := hWorld
  obtain ⟨hDrawnAgain, -⟩ := compose_trees
    (hAlike.everywhere (fun _ _ => Node.Alike.steady) hOutput)
    (hAlike.everywhere (fun _ _ => Node.Alike.steady) hFixed) first.after width
    first.after.terminal.rows.toNat
  rw [hHeight, hAfter, hAlike.parts_eq, hAlike.parts_eq, Layout.frameOfParts_again] at hDrawnAgain
  have hSecond : second.outcome = Outcome.map .frame { frame with notices := [] } := by
    rw [← hDrawnAgain, ← hHeight, ← hAfter]
    rfl
  unfold Moment.after
  rw [hSecond, hFirst]
  exact ⟨rfl, rfl, rfl⟩

/-- A layout that was scrolled far back in an output of fifty rows, with the first of its rows
selected. -/
def farBack : Layout :=
  { Layout.create { rows := 6 } { scrollEnabled := true } with
    scroll :=
      { enabled := true, offset := 40, follow := false, contentHeight := 50, regionHeight := 5 }
    selection? := some ⟨0, 0, 0, 1⟩ }

/-- The output has shrunk to nine rows, of which the last four are in view. The first of these is a row
of a block, and has the block's header in its place. The label around the block is the fixed part as
well. -/
theorem render_again_farBack :
    let tree (h : Handle) (s : Scene Sheet) := s.component sheetGuest h
    let first := Moment.of (tree 5) (tree 0) farBack sample (.render 80)
    let second := Moment.of (tree 5) (tree 0) first.after first.worldAfter (.render 80)
    (second.outcome.result = first.outcome.result ∧ second.after = first.after ∧
        second.outcome.notices = []) ∧
      first.outcome.result = .frame [['h'], ['a'], ['b'], ['g'], ['a'], ['b']] ∧
      first.outcome.notices = [.followMode true 5 5] := by
  have hLabel : sample.Everywhere (Node.Steady sheetGuest) 0 := by
    simp [Everywhere, EverywhereTo, sample, node?, Node.Steady, Node.children]
  exact ⟨render_again sheetGuest sample 5 0 sample_steady hLabel farBack 80,
    by decide +kernel, by decide +kernel⟩

end ScrollPane.Scene
