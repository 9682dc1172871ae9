import ScrollPane.Layout.Command

/-!
# Layouts as components

A layout can be drawn inside other components, and inside other layouts. Its state then has a slot in
the world, next to the state of the components it draws.
-/

namespace ScrollPane.Layout

variable {σ : Type}

/-- Performs an operation on the layout in a slot, and hands its notices to `report`. What the
components that it draws report comes first. -/
def perform {α : Type} (slot : Slot σ Layout) (report : List Notice → σ → σ)
    (operation : Layout → StateM σ (Outcome α)) : StateM σ α := do
  let outcome ← operation (slot.get (← get))
  modify fun world => report outcome.notices (slot.set outcome.layout world)
  return outcome.result

/-- The layout in a slot as a component. -/
def component (slot : Slot σ Layout) (report : List Notice → σ → σ) (output fixed : Component σ) :
    Component σ where
  render width := perform slot report fun l => l.render output fixed width
  window? := some fun width v =>
    perform slot report fun l => l.renderViewport output fixed width v
  invalidate := do
    output.invalidate
    fixed.invalidate

end ScrollPane.Layout
