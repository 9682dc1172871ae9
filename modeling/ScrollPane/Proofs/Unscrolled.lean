import ScrollPane.Proofs.Histories
import ScrollPane.Proofs.ShownFrames
import ScrollPane.Proofs.Twins

/-!
# Layouts that do not scroll

With scrolling off a layout is as good as absent: it draws its output above its fixed part, each in
full, and a viewport shows the rows of that which it asks for. The output is drawn by a viewport all
the same, one that starts at the first row and has no lower end. No header is pinned from there, so
this is the output in full, however deep its sticky blocks are nested. Nothing that earlier frames
have left shows, and what asks to scroll is ignored.

## Main definitions

- `Layout.Command.AsksToScroll`: the commands that scroll, and the wheel.

## Main statements

- `Layout.render_of_disabled`: frames without scrolling;
- `Layout.step_of_disabled`: commands that are ignored;
- `Layout.unscrolled_is_stack`: both for an output that is a tree.
-/

namespace ScrollPane.Layout

variable {σ γ φ : Type} {inv : σ → Prop} {output fixed : Component σ} {parts : Int → List Part}

/-! ## Frames -/

/-- Without scrolling, a frame of an output that shows parts is the output in full above the fixed
part, and a viewport shows its rows of that. -/
theorem render_of_disabled (h : output.Shows inv parts) {l : Layout}
    (hOff : l.scroll.enabled = false) {world : σ} (hWorld : inv world) (width : Int)
    (hFixed : inv (fixed.render width world).2)
    (hReach : ((output.render width world).1.length : Int) ≤ Viewport.unboundedHeight) :
    let full := (output.render width world).1 ++ (fixed.render width world).1
    (l.render output fixed width world).1.result = full ∧
      ∀ v, (l.renderViewport output fixed width v world).1.result = v.window full := by
  intro full
  obtain ⟨hRows, -⟩ := h.render width world hWorld
  -- the viewport that the output is drawn by reaches down to its last row
  have hWhole : (output.render width world).1.take Viewport.unboundedHeight.toNat =
      (output.render width world).1 := List.take_of_length_le (by omega)
  have hFrame : ∀ height, (l.compose output fixed width height world).1 =
      l.frameStacked (output.render width world).1 (fixed.render width world).1
        (output.render width world).1.length := fun height => by
    obtain ⟨hDrawn, -⟩ := compose_of_shows h l width height hFixed
    rw [hDrawn, frameOfParts_of_disabled hOff, ← hRows, hWhole]
  refine ⟨congrArg Outcome.result (hFrame _), fun v => ?_⟩
  simp only [renderViewport, bind_apply, pure_apply, hFrame, frameStacked, Outcome.map, hOff,
    Bool.false_eq_true, if_false, Viewport.window, full, List.length_append, Int.natCast_add]

/-! ## Commands that are ignored -/

/-- The command asks to scroll: by rows, by pages, to the top, or with the wheel. -/
inductive Command.AsksToScroll : Command → Prop where
  | scrollBy (rows : Int) : AsksToScroll (.scrollBy rows)
  | scrollByPage (pages : Int) : AsksToScroll (.scrollByPage pages)
  | scrollToTop : AsksToScroll .scrollToTop
  | wheel {chunk : Mouse.Chunk} {direction : Mouse.Direction} {x y : Nat}
      {modifiers : Mouse.Modifiers}
      (h : Mouse.Event.ofChunk? chunk = some (.wheel direction x y modifiers)) :
      AsksToScroll (.input chunk)

/-- Without scrolling, a command that asks to scroll changes nothing and is not logged. -/
theorem step_of_disabled {l : Layout} (hOff : l.scroll.enabled = false) {c : Command}
    (hScrolls : c.AsksToScroll) (output fixed : Component σ) (world : σ) :
    let done := l.step output fixed c world
    done.1.layout = l ∧ done.1.notices = [] ∧ done.2 = world := by
  cases hScrolls with
  | scrollBy rows => exact ⟨scrollBy_of_disabled hOff rows, rfl, rfl⟩
  | scrollByPage pages => exact ⟨scrollBy_of_disabled hOff _, rfl, rfl⟩
  | scrollToTop => exact ⟨if_neg (by simp [hOff]), rfl, rfl⟩
  | @wheel chunk _ _ _ _ hWheel =>
    refine ⟨input_of_disabled hOff chunk, ?_, rfl⟩
    -- only dropped button events are logged
    show l.decoder.notices chunk = []
    simp only [Mouse.Decoder.notices, hWheel]

/-! ## Outputs that are trees -/

variable {guestComponent : γ → Component γ} {h : Handle}

/-- An output that is a tree shows its parts in a world that has its scene in it. -/
theorem treeOutput_shows {world : Scene γ × φ}
    (hSteady : world.1.Everywhere (Node.Steady guestComponent) h) :
    (treeOutput guestComponent h world).Shows (fun w => world.1.Alike guestComponent w.1)
      (world.1.parts guestComponent h) := by
  refine (Scene.component_shows hSteady).within ?_ ?_
  · intro w hAlike
    exact hAlike
  · intro w scene _ hAlike
    exact hAlike

/-- **A layout that does not scroll is a stack of its two parts.** Whatever its state, it draws the
output in full above the fixed part, and a viewport shows its rows of that with the height of the
whole. What asks to scroll changes neither the layout nor the world. The output is a tree whose rows
a viewport can reach, and the fixed part any component that leaves it what it shows, such as one with
a state of its own. -/
theorem unscrolled_is_stack (guestComponent : γ → Component γ) (h : Handle)
    (fixed : Scene γ × φ → Component (Scene γ × φ)) (l : Layout) (world : Scene γ × φ)
    (hOff : l.scroll.enabled = false)
    (hSteady : world.1.Everywhere (Node.Steady guestComponent) h)
    (hFixed : ∀ width, world.1.Alike guestComponent ((fixed world).render width world).2.1) :
    let output := treeOutput guestComponent h
    let moment := Moment.of output fixed l world
    (∀ width, (((output world).render width world).1.length : Int) < Viewport.unboundedHeight →
        let full := ((output world).render width world).1 ++ ((fixed world).render width world).1
        (moment (.render width)).outcome.result = .frame full ∧
          ∀ v, (moment (.renderViewport width v)).outcome.result =
            .window {
              rows := (full.drop v.top.toNat).take v.height.toNat
              contentHeight := full.length }) ∧
      ∀ c, c.AsksToScroll →
        (moment c).after = l ∧ (moment c).outcome.notices = [] ∧ (moment c).worldAfter = world := by
  intro output moment
  refine ⟨fun width hReach => ?_, fun c hScrolls => step_of_disabled hOff hScrolls _ _ world⟩
  intro full
  obtain ⟨hRender, hView⟩ := render_of_disabled (treeOutput_shows hSteady) hOff
    (Scene.Alike.refl world.1) width (hFixed width) (Int.le_of_lt hReach)
  exact ⟨congrArg Reply.frame hRender, fun v => congrArg Reply.window (hView v)⟩

/-- A turn of the wheel towards the oldest output. -/
def turnUp : Mouse.Chunk := .text "\x1b[<64;1;1M".toList

/-- A layout on a terminal of one row that has been switched off. Since then a selection has been
set, of all rows there are. -/
def switchedOff : Layout :=
  ((create { rows := 1 } { scrollEnabled := true }).setEnabled false).select (some ⟨0, 0, 20, 0⟩)

/-- All rows of the sample are drawn above a label, and a viewport may start inside the block with the
header without the header being pinned there. -/
theorem unscrolled_is_stack_sample :
    let fixed := fun _ : Scene Sheet × Label => Label.component.within .fixed
    let moment := Moment.of (treeOutput Scene.sheetGuest 5) fixed switchedOff
      (Scene.sample, { lines := [['f']] })
    (moment (.render 80)).outcome.result =
        .frame [['a'], ['b'], [], ['h'], ['x'], ['y'], ['a'], ['b'], ['g'], ['f']] ∧
      (moment (.renderViewport 80 { width := 80, height := 3, top := 5 })).outcome.result =
        .window { rows := [['y'], ['a'], ['b']], contentHeight := 10 } ∧
      (moment (.input turnUp)).after = switchedOff := by
  intro fixed moment
  obtain ⟨hDraws, hScrolls⟩ := unscrolled_is_stack Scene.sheetGuest 5 fixed switchedOff
    (Scene.sample, { lines := [['f']] }) rfl Scene.sample_steady fun _ => Scene.Alike.refl _
  obtain ⟨hRender, hView⟩ := hDraws 80 (by decide +kernel)
  have hWheel : Mouse.Event.ofChunk? turnUp = some (.wheel .up 0 0 {}) := by decide +kernel
  refine ⟨hRender.trans (by decide +kernel), (hView _).trans (by decide +kernel), ?_⟩
  exact (hScrolls _ (.wheel hWheel)).1

end ScrollPane.Layout
