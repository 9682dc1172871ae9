/-!
# Mouse events

What a mouse report means once decoded: a turn of the wheel, or a button pressed, released or
dragged, with the cell it happened in and the modifier keys held. Cells count from zero.
-/

namespace ScrollPane.Mouse

/-- The modifier keys held during an event. -/
structure Modifiers where
  shift : Bool := false
  alt : Bool := false
  ctrl : Bool := false
deriving DecidableEq, Repr

/-- A direction in which the wheel turns. -/
inductive Direction where
  | up
  | down
deriving DecidableEq, Repr

/-- The sign of a direction: up is negative. -/
def Direction.delta : Direction → Int
  | .up => -1
  | .down => 1

/-- A mouse button. -/
inductive Button where
  | left
  | middle
  | right
deriving DecidableEq, Repr

/-- The name of a button. -/
def Button.name : Button → String
  | .left => "left"
  | .middle => "middle"
  | .right => "right"

/-- What happened to a button. A drag is a motion with the button held. -/
inductive Action where
  | press
  | release
  | drag
deriving DecidableEq, Repr

/-- The name of an action. -/
def Action.name : Action → String
  | .press => "press"
  | .release => "release"
  | .drag => "drag"

/-- A decoded mouse event. -/
inductive Event where
  | wheel (direction : Direction) (x y : Nat) (modifiers : Modifiers)
  | button (action : Action) (button : Button) (x y : Nat) (modifiers : Modifiers)
deriving DecidableEq, Repr

end ScrollPane.Mouse
