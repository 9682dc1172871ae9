import ScrollPane.Text.Basic

/-!
# Components

A component draws rows of text. It may keep state, and components may share state, so drawing is an
action on a *world* `σ` that holds whatever the components of a program remember. Nothing is assumed
of `σ`: a component is free to answer anything, and to change the world as it answers.

Every component can draw itself in full. Some can also draw just the rows inside a viewport; `view`
uses that where it is offered and otherwise draws in full and slices, so callers need not care.

## Main definitions

- `Viewport`, `Window`: the rows asked for, and the rows answered with the full content height;
- `Component`: what can be drawn;
- `Component.view`: the rows of any component inside a viewport;
- `Slot`, `Component.within`: a component whose state has a place in a larger world.
-/

namespace ScrollPane

/-- The rows `[top, top + height)` of some content, drawn `width` columns wide. A negative `top` or
`height` counts as zero. -/
structure Viewport where
  width : Int
  height : Int
  top : Int := 0
deriving DecidableEq, Repr

/-- The height that stands for a viewport without a lower end: the largest signed 64-bit integer. It is
meant for content that ends by itself. Lists have any length here, but no memory has room for a frame
that fills such a viewport, so a program that has one drawn runs out of it. -/
def Viewport.unboundedHeight : Int := 0x7FFFFFFFFFFFFFFF

/-- The rows of `rows` inside a viewport. -/
def Viewport.slice (v : Viewport) (rows : List Text) : List Text :=
  (rows.drop v.top.toNat).take v.height.toNat

/-- The rows drawn for a viewport, and the height of the whole content. -/
structure Window where
  rows : List Text := []
  contentHeight : Int := 0
deriving DecidableEq, Repr

/-- Something that can be drawn in a world `σ`. -/
structure Component (σ : Type) where
  /-- Draws all rows at a width. -/
  render : Int → StateM σ (List Text)
  /-- Draws the rows inside a viewport, where the component can do that itself. -/
  window? : Option (Int → Viewport → StateM σ Window) := none
  /-- Drops what has been remembered from earlier drawing. -/
  invalidate : StateM σ Unit := pure ()

namespace Component

variable {σ : Type}

/-- The component without rows. -/
def blank : Component σ where
  render _ := pure []

/-- Whether a component draws viewports itself. -/
def drawsWindows (c : Component σ) : Bool := c.window?.isSome

/-- Draws the rows inside a viewport. The content is never reported lower than the rows given. -/
def view (c : Component σ) (width : Int) (v : Viewport) : StateM σ Window :=
  match c.window? with
  | some window => do
    let w ← window width v
    return { w with contentHeight := max w.contentHeight w.rows.length }
  | none => do
    let rows ← c.render width
    return { rows := v.slice rows, contentHeight := rows.length }

end Component

/-! ## State inside a larger world -/

/-- A place for an `α` in a world `σ`. -/
structure Slot (σ α : Type) where
  get : σ → α
  set : α → σ → σ

/-- Runs an action on the content of a slot. -/
def Slot.run {σ α β : Type} (slot : Slot σ α) (action : StateM α β) : StateM σ β := fun world =>
  let (result, content) := action.run (slot.get world)
  (result, slot.set content world)

/-- The component `c`, with its state kept in a slot of a larger world. -/
def Component.within {σ α : Type} (c : Component α) (slot : Slot σ α) : Component σ where
  render width := slot.run (c.render width)
  window? := c.window?.map fun window width v => slot.run (window width v)
  invalidate := slot.run c.invalidate

end ScrollPane
