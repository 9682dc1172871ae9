import ScrollPane.Text.Basic

/-!
# Switching mouse reports on and off

Terminals report the mouse in private modes: 1000 for buttons and the wheel, 1002 for motion with a
button held, 1006 for the report format of `ScrollPane.Mouse.Report`. Modes are reset in the reverse
order of setting them.
-/

namespace ScrollPane.Mouse

/-- The private modes in use, in the order of setting them. Only the full mode reports drags. -/
def trackingModes (buttons : Bool) : List Nat :=
  if buttons then [1000, 1002, 1006] else [1000, 1006]

/-- The sequence that sets or resets one private mode. -/
def modeSwitch (enable : Bool) (mode : Nat) : Text :=
  ['\x1b', '[', '?'] ++ Nat.toDigits 10 mode ++ [if enable then 'h' else 'l']

/-- The sequence that switches mouse reports on or off. -/
def trackingSequence (enable : Bool) (buttons : Bool := false) : Text :=
  let modes := trackingModes buttons
  (if enable then modes else modes.reverse).flatMap (modeSwitch enable)

end ScrollPane.Mouse
