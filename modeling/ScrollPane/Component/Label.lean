import ScrollPane.Component.Basic
import ScrollPane.Text.Cut

/-!
# Labels

A label is a short list of lines, drawn in full and clipped to the width asked for.
-/

namespace ScrollPane

/-- A list of lines to be shown as they are. -/
structure Label where
  lines : List Text := []
deriving DecidableEq, Repr

/-- A label as a component. -/
def Label.component : Component Label where
  render width := do
    let label ← get
    return label.lines.map (Text.clip · width)

end ScrollPane
