import ScrollPane.Mouse.Tracking

/-!
# The terminal

All that the library needs of a terminal: its size, which may change between frames, and a place to
write control sequences to.
-/

namespace ScrollPane

/-- A terminal: its size, and what has been written to it, oldest first. -/
structure Terminal where
  columns : Int := 80
  rows : Int
  written : List Text := []
deriving DecidableEq, Repr

namespace Terminal

/-- Writes one control sequence. -/
def write (t : Terminal) (sequence : Text) : Terminal :=
  { t with written := t.written ++ [sequence] }

/-- Switches mouse reports on or off. -/
def setMouseTracking (t : Terminal) (enabled : Bool) (buttons : Bool := false) : Terminal :=
  t.write (Mouse.trackingSequence enabled buttons)

end Terminal

end ScrollPane
