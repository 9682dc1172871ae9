import ScrollPane.Mouse.Event

/-!
# Notices

What the library tells a log about its decisions. Operations return their notices as values; the
surrounding program decides where they go.
-/

namespace ScrollPane

/-- A decision worth a line in a log. -/
inductive Notice where
  /-- A button event was dropped because only the wheel is being listened to. -/
  | buttonDiscarded (button : Mouse.Button) (action : Mouse.Action)
  /-- Scrolling was switched on or off. -/
  | scrollMode (enabled : Bool)
  /-- A frame reached the newest output, or was found away from it. -/
  | followMode (following : Bool) (offset limit : Int)
deriving DecidableEq, Repr

namespace Notice

/-- The part of the library that a notice comes from. -/
inductive Source where
  | mouse
  | layout
deriving DecidableEq, Repr

/-- Where a notice comes from. -/
def source : Notice → Source
  | .buttonDiscarded .. => .mouse
  | .scrollMode .. | .followMode .. => .layout

/-- The text of a notice. -/
def message : Notice → String
  | .buttonDiscarded button action =>
    s!"discarding {button.name} {action.name} event in restricted mode"
  | .scrollMode true => "scroll mode enabled"
  | .scrollMode false => "scroll mode disabled"
  | .followMode following offset limit =>
    let mode := if following then "on" else "off"
    s!"follow mode {mode} at offset {offset}/{limit}"

end Notice

end ScrollPane
