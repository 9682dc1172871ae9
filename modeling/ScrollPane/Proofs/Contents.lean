import ScrollPane.Proofs.Histories
import ScrollPane.Proofs.Twins

/-!
# The content of a layout

Where the output of a layout serves its rows, these rows are all that a frame depends on. A content
says what they are: it reads them off the world, and they stay what they are while anything is
drawn. `Layout.frameOf` is the frame of given rows above a given fixed part. It asks no component
for anything, so what is true of frames can be read off it.

## Main definitions

- `Layout.Content`: the rows of an output that serves its rows;
- `Layout.frameOf`: the frame of known rows;
- `Layout.transcriptContent`, `Layout.treeContent`: outputs that serve their rows.

## Main statements

- `Layout.compose_of_content`: a frame is the frame of the content;
- `Layout.Moment.of_draws`: the same for a moment of a run.
-/

namespace ScrollPane

variable {σ γ φ : Type}

namespace Layout

/-! ## Contents -/

/-- What an output holds, as far as the world tells. In the worlds that are `served` it serves
`rows`, and drawing, be it the output or the fixed part, leads only to worlds with the same rows. -/
structure Content (output fixed : σ → Component σ) where
  served : σ → Prop
  rows : σ → Sheet
  /-- The worlds that drawing may make of a world. -/
  drawn : σ → σ → Prop
  drawn_refl : ∀ {world}, served world → drawn world world
  served_of_drawn : ∀ {world w}, served world → drawn world w → served w
  rows_of_drawn : ∀ {world w}, served world → drawn world w → rows w = rows world
  output_serves : ∀ {world}, served world → (output world).Serves (drawn world) (rows world)
  fixed_draws : ∀ {world w} (width), served world → drawn world w →
    drawn world ((fixed world).render width w).2

/-- The window of some rows in a region of a height, at the offset that a layout settles on. -/
def OutputWindow.ofContent (scroll : Scroll) (content : List Text) (region : Nat) :
    OutputWindow where
  rows := (content.drop (scroll.settle content.length region).toNat).take region
  offset := scroll.settle content.length region
  contentHeight := content.length

/-- The frame of some rows above the rows of the fixed part. -/
def frameOf (l : Layout) (content fixedRows : List Text) (height : Nat) : Outcome (List Text) :=
  let region := height - fixedRows.length
  let window := OutputWindow.ofContent l.scroll content region
  let visible := padRows window.rows region
  let kept := fixedRows.drop (fixedRows.length - height)
  let scroll := window.scroll l.scroll.enabled region
  let selection? := if window.offset = l.scroll.offset then l.selection? else none
  { result := drawSelection selection? visible ++ kept
    layout :=
      { l with scroll, selection?, visibleOutput := visible, visibleFixed := kept,
               fixedHeight := fixedRows.length }
    notices := followNotices l.scroll scroll }

variable {output fixed : σ → Component σ}

/-- Over an output that serves its rows, a frame is the frame of these rows. -/
theorem compose_of_content (C : Content output fixed) {l : Layout} {world : σ}
    (hServed : C.served world) (hEnabled : l.scroll.enabled = true) (width : Int) (height : Nat) :
    let fixedRows := ((fixed world).render width world).1
    let region := height - fixedRows.length
    let content := C.rows world width
    let drawn := l.compose (output world) (fixed world) width height world
    drawn.1 = l.frameOf content fixedRows height ∧ C.drawn world drawn.2 ∧
      IsFrame l drawn.1.layout (OutputWindow.ofContent l.scroll content region).rows fixedRows
        height drawn.1.result := by
  intro fixedRows region content drawn
  have hFixed : C.drawn world ((fixed world).render width world).2 :=
    C.fixed_draws width hServed (C.drawn_refl hServed)
  obtain ⟨hAnswer, hAfter⟩ :=
    answers_settleOutput (C.output_serves hServed) l.scroll width region _ hFixed
  have hWindow : (settleOutput l.scroll (output world) width (height - fixedRows.length)
      ((fixed world).render width world).2).1 = .ofContent l.scroll content region := hAnswer
  have hFrame := isFrame_composeScrolled { l with fixedHeight := fixedRows.length } (output world)
    fixedRows width height ((fixed world).render width world).2
  have hDrawn : drawn = composeScrolled { l with fixedHeight := fixedRows.length } (output world)
      fixedRows width height ((fixed world).render width world).2 :=
    compose_of_enabled l hEnabled _ _ width height world
  rw [← hDrawn] at hFrame
  refine ⟨?_, ?_, ?_⟩
  · rw [hDrawn, composeScrolled_apply]
    simp only [hWindow]
    rfl
  · rw [hDrawn, composeScrolled_apply]
    exact hAfter
  · simp only [hWindow] at hFrame
    exact { hFrame with }

/-- The same at a moment of a run. -/
theorem Moment.of_draws (C : Content output fixed) {l : Layout} {world : σ} {c : Command}
    (hServed : C.served world) (hEnabled : l.scroll.enabled = true) {width : Int} {height : Nat}
    {fixedRows : List Text}
    (hDraws : (Moment.of output fixed l world c).Draws fixed width height fixedRows) :
    let m := Moment.of output fixed l world c
    let content := C.rows world width
    let frame := l.frameOf content fixedRows height
    m.after = frame.layout ∧ m.outcome.result = c.answer frame ∧ C.drawn world m.worldAfter ∧
      IsFrame l m.after
        (OutputWindow.ofContent l.scroll content (height - fixedRows.length)).rows fixedRows height
        m.outcome.result.rows := by
  intro m content frame
  have hFrame : c.frame? l = some (width, height) := hDraws.frame_eq
  obtain rfl : ((fixed world).render width world).1 = fixedRows := hDraws.fixedRows_eq
  obtain ⟨hAfter, hWorld, hAnswer⟩ := Moment.of_frame hFrame output fixed world
  obtain ⟨hComposed, hDrawn, hIsFrame⟩ := compose_of_content C hServed hEnabled width height
  have hAnswer : m.outcome.result = _ := hAnswer hEnabled
  have hAfter : m.after = _ := hAfter
  refine ⟨hAfter.trans (congrArg Outcome.layout hComposed), ?_, hWorld ▸ hDrawn, ?_⟩
  · rw [hAnswer, hComposed]
  · rw [hAnswer, c.rows_answer, hAfter]
    exact hIsFrame

/-! ## Outputs that serve their rows -/

/-- The content of a transcript, beside a fixed part with a state of its own. -/
def transcriptContent (fixed : φ → Component φ) :
    Content (fun _ => Transcript.component.within .output)
      (fun world : Transcript × φ => (fixed world.2).within .fixed) where
  served _ := True
  rows world := fun width => world.1.lines.map (Text.clip · width)
  drawn world w := w.1.lines = world.1.lines
  drawn_refl _ := rfl
  served_of_drawn _ _ := trivial
  rows_of_drawn _ hLines := by rw [hLines]
  output_serves {world} _ := by
    refine (Transcript.serves world.1.lines).within ?_ ?_
    · intro w hLines
      exact hLines
    · intro w t _ hLines
      exact hLines
  fixed_draws _ _ hLines := hLines

/-- The content of a tree of a scene, beside a fixed part with a state of its own. -/
def treeContent (guestComponent : γ → Component γ) (h : Handle) (fixed : φ → Component φ) :
    Content (treeOutput guestComponent h)
      (fun world : Scene γ × φ => (fixed world.2).within .fixed) where
  served world := world.1.Serving guestComponent h
  rows world := world.1.sheet guestComponent h
  drawn world w := world.1.Alike guestComponent w.1
  drawn_refl _ := Scene.Alike.refl _
  served_of_drawn hServing hAlike := hServing.of_alike hAlike
  rows_of_drawn hServing hAlike := hAlike.sheet_eq hServing.steady
  output_serves {world} hServing := by
    refine (Scene.component_serves hServing.steady hServing.notSticky).within ?_ ?_
    · intro w hAlike
      exact hAlike
    · intro w scene _ hAlike
      exact hAlike
  fixed_draws _ _ hAlike := hAlike

end Layout

end ScrollPane
