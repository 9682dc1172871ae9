import ScrollPane.Component.Label
import ScrollPane.Component.Transcript

/-!
# Drawing in a world

Drawing is an action on a world, so a statement about it says what the action answers and what it
leaves of the world. `Answers` is that statement for an action whose answer is known as long as some
property of the world holds, where the action keeps the property. It is closed under sequencing, so
what a component answers follows from what its parts answer.

A component *serves* rows when it draws just these rows in full, and just the slice of them that a
viewport asks for. A component may well change its state while it draws, as a transcript does with
the rows it remembers; serving says that this is never seen.

## Main definitions

- `Answers`: what an action answers in all worlds with a property;
- `Component.Serves`: drawing rows in full and by exact windows.
-/

namespace ScrollPane

variable {σ α β : Type}

/-! ## Running an action -/

@[simp]
theorem bind_apply (action : StateM σ α) (next : α → StateM σ β) (world : σ) :
    (action >>= next) world = next (action world).1 (action world).2 := rfl

@[simp]
theorem pure_apply (a : α) (world : σ) : (pure a : StateM σ α) world = (a, world) := rfl

@[simp]
theorem get_apply (world : σ) : (get : StateM σ σ) world = (world, world) := rfl

/-- In every world with `inv`, the action answers `a` and leaves a world with `inv`. -/
def Answers (inv : σ → Prop) (action : StateM σ α) (a : α) : Prop :=
  ∀ world, inv world → (action world).1 = a ∧ inv (action world).2

namespace Answers

variable {inv : σ → Prop}

protected theorem pure (a : α) : Answers inv (pure a) a :=
  fun _ hInv => ⟨rfl, hInv⟩

protected theorem bind {action : StateM σ α} {next : α → StateM σ β} {a : α} {b : β}
    (hAction : Answers inv action a) (hNext : Answers inv (next a) b) :
    Answers inv (action >>= next) b := by
  intro world hInv
  obtain ⟨hAnswer, hAfter⟩ := hAction world hInv
  -- the second action starts in the world that the first has left, which has `inv` again
  rw [bind_apply, hAnswer]
  exact hNext _ hAfter

/-- An answer may be replaced by one that is equal to it. -/
theorem of_eq {action : StateM σ α} {a a' : α} (h : Answers inv action a) (hEq : a = a') :
    Answers inv action a' :=
  hEq ▸ h

end Answers

/-- An action on the content of a slot answers in the larger world what it answers on its own. -/
theorem Slot.answers_run {slot : Slot σ α} {inv : σ → Prop} {inner : α → Prop}
    (hGet : ∀ world, inv world → inner (slot.get world))
    (hSet : ∀ world content, inv world → inner content → inv (slot.set content world))
    {action : StateM α β} {b : β} (h : Answers inner action b) :
    Answers inv (slot.run action) b := by
  intro world hInv
  obtain ⟨hAnswer, hAfter⟩ := h _ (hGet world hInv)
  exact ⟨hAnswer, hSet world _ hInv hAfter⟩

/-! ## Windows of rows -/

theorem Viewport.slice_length (v : Viewport) (rows : List Text) :
    (v.slice rows).length = min v.height.toNat (rows.length - v.top.toNat) := by
  simp [Viewport.slice]

theorem Viewport.slice_length_le (v : Viewport) (rows : List Text) :
    (v.slice rows).length ≤ rows.length := by
  rw [v.slice_length rows]
  omega

/-- The window of some rows that a viewport shows. -/
def Viewport.window (v : Viewport) (rows : List Text) : Window where
  rows := v.slice rows
  contentHeight := rows.length

/-! ## Components that serve rows -/

namespace Component

/-- A component that draws `rows`, whole or by the window, in every world with `inv`, and keeps
`inv`. -/
structure Serves (inv : σ → Prop) (c : Component σ) (rows : Int → List Text) : Prop where
  render : ∀ width, Answers inv (c.render width) (rows width)
  view : ∀ width v, Answers inv (c.view width v) (v.window (rows width))

/-- Drawing a window of a component that draws windows only passes the window on, up to a height
that is lower than the rows drawn. -/
theorem answers_view_of_window {inv : σ → Prop} {c : Component σ} {width : Int} {v : Viewport}
    {window : Int → Viewport → StateM σ Window} {w : Window} (hWindow : c.window? = some window)
    (h : Answers inv (window width v) w) (hHeight : w.rows.length ≤ w.contentHeight) :
    Answers inv (c.view width v) w := by
  -- an answer is corrected only where it reports less than it gives
  have hMax : max w.contentHeight w.rows.length = w.contentHeight := Int.max_eq_left hHeight
  simp only [Component.view, hWindow]
  refine h.bind ?_
  simp only [hMax]
  exact Answers.pure w

/-- A component that only draws itself in full serves what it draws. -/
theorem serves_of_render {inv : σ → Prop} {c : Component σ} {rows : Int → List Text}
    (hPlain : c.window? = none) (h : ∀ width, Answers inv (c.render width) (rows width)) :
    c.Serves inv rows where
  render := h
  view width v := by
    simp only [Component.view, hPlain]
    exact (h width).bind (Answers.pure _)

theorem view_within (c : Component α) (slot : Slot σ α) (width : Int) (v : Viewport) :
    (c.within slot).view width v = slot.run (c.view width v) := by
  unfold Component.view Component.within
  cases c.window? <;> rfl

/-- A component serves in a larger world what it serves on its own. -/
theorem Serves.within {slot : Slot σ α} {inv : σ → Prop} {inner : α → Prop}
    (hGet : ∀ world, inv world → inner (slot.get world))
    (hSet : ∀ world content, inv world → inner content → inv (slot.set content world))
    {c : Component α} {rows : Int → List Text} (h : c.Serves inner rows) :
    (c.within slot).Serves inv rows where
  render width := Slot.answers_run hGet hSet (h.render width)
  view width v := by
    rw [view_within]
    exact Slot.answers_run hGet hSet (h.view width v)

end Component

/-! ## Leaves -/

/-- A label serves its lines, clipped. -/
theorem Label.serves (label : Label) :
    Label.component.Serves (· = label) fun width => label.lines.map (Text.clip · width) := by
  refine Component.serves_of_render rfl fun width world hWorld => ?_
  subst hWorld
  exact ⟨rfl, rfl⟩

/-- Drawing a transcript shows its lines, clipped, whatever rows it remembers. -/
theorem Transcript.answers_draw (lines : List Text) (width : Int) :
    Answers (fun t : Transcript => t.lines = lines) (Transcript.draw width)
      (lines.map (Text.clip · width)) := by
  intro t hLines
  have hWidth : (t.rowsAt width).width = width := by
    unfold rowsAt
    split
    · split
      · next hSame => exact hSame
      · rfl
    · rfl
  refine ⟨?_, hLines⟩
  -- the remembered rows are those of the current lines by their type
  show (t.rowsAt width).rows = _
  rw [(t.rowsAt width).rows_eq, hWidth, hLines]

/-- A transcript serves its lines, clipped. -/
theorem Transcript.serves (lines : List Text) :
    Transcript.component.Serves (fun t => t.lines = lines)
      fun width => lines.map (Text.clip · width) where
  render := Transcript.answers_draw lines
  view width v := by
    refine Component.answers_view_of_window rfl
      ((Transcript.answers_draw lines width).bind (Answers.pure _)) ?_
    exact Int.ofNat_le.mpr (v.slice_length_le _)

/-- Rows given for every width, which are only ever drawn in full. -/
abbrev Sheet := Int → List Text

/-- A sheet as a component. -/
def Sheet.component : Component Sheet where
  render width := do
    let sheet ← get
    return sheet width

/-- A sheet serves its rows. -/
theorem Sheet.serves (sheet : Sheet) : Sheet.component.Serves (· = sheet) sheet := by
  refine Component.serves_of_render rfl fun width world hWorld => ?_
  subst hWorld
  exact ⟨rfl, rfl⟩

end ScrollPane
