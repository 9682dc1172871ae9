import ScrollPane.Layout.Frame

/-!
# Commands

All operations on a layout as one type, with one step function. A run of a layout is a list of
commands, so a statement about everything that can happen to a layout is a statement about `step`.
-/

namespace ScrollPane.Layout

variable {σ : Type}

/-- An operation on a layout. -/
inductive Command where
  | setEnabled (enabled : Bool)
  | setMouseTracking (buttons : Bool)
  | resize (rows : Int)
  | scrollBy (rows : Int)
  | scrollByPage (pages : Int)
  | scrollToTop
  | scrollToBottom
  | select (selection? : Option Selection)
  | input (chunk : Mouse.Chunk)
  | decode (chunk : Mouse.Chunk)
  | invalidate
  | render (width : Int)
  | renderViewport (width : Int) (viewport : Viewport)
deriving DecidableEq, Repr

/-- What an operation answers. -/
inductive Reply where
  | done
  /-- Whether input was consumed. -/
  | consumed (consumed : Bool)
  /-- The event that a chunk was decoded to. -/
  | event (event? : Option Mouse.Event)
  | frame (rows : List Text)
  | window (window : Window)
deriving DecidableEq, Repr

/-- Performs one command with the given output and fixed part. -/
def step (output fixed : Component σ) (l : Layout) : Command → StateM σ (Outcome Reply)
  | .setEnabled enabled =>
    pure { result := .done, layout := l.setEnabled enabled, notices := l.setEnabledNotices enabled }
  | .setMouseTracking buttons => pure { result := .done, layout := l.setMouseTracking buttons }
  | .resize rows => pure { result := .done, layout := l.resize rows }
  | .scrollBy rows => pure { result := .done, layout := l.scrollBy rows }
  | .scrollByPage pages => pure { result := .done, layout := l.scrollByPage pages }
  | .scrollToTop => pure { result := .done, layout := l.scrollToTop }
  | .scrollToBottom => pure { result := .done, layout := l.scrollToBottom }
  | .select selection? => pure { result := .done, layout := l.select selection? }
  | .input chunk =>
    pure {
      result := .consumed (l.consumes chunk)
      layout := l.input chunk
      notices := l.decoder.notices chunk }
  | .decode chunk =>
    pure {
      result := .event (l.decoder.decode chunk)
      layout := l
      notices := l.decoder.notices chunk }
  | .invalidate => do
    output.invalidate
    fixed.invalidate
    return { result := .done, layout := l }
  | .render width => return (← l.render output fixed width).map .frame
  | .renderViewport width viewport =>
    return (← l.renderViewport output fixed width viewport).map .window

end ScrollPane.Layout
