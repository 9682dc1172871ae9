import ScrollPane.Mouse.Event
import ScrollPane.Text.Basic

/-!
# Mouse reports

The wire format of mouse events (SGR extended coordinates): `ESC [ <`, a button code, a column and a
row separated by semicolons, then `M`, or `m` for a release. Columns and rows count from one. In the
code, the two lowest bits number the button or the direction of the wheel, bits 2 to 4 are the
modifier keys, bit 5 marks a motion and bit 6 the wheel.

## Main definitions

- `Report.ofText?` and `Report.toText`: reading and writing the format;
- `Event.ofReport?` and `Event.report`: the event a report stands for, and the report of an event;
- `isReportShaped`: the looser shape by which mouse input is told from keys.
-/

namespace ScrollPane.Mouse

/-- The fields of a mouse report. -/
structure Report where
  code : Nat
  x : Nat
  y : Nat
  /-- Whether the report ends in `m`. -/
  released : Bool
deriving DecidableEq, Repr

/-! ## Reading and writing -/

/-- The most digits a field may have; a longer one is out of range. -/
def fieldDigits : Nat := 9

/-- The number that a list of decimal digits denotes. -/
def decimalValue (digits : Text) : Nat :=
  digits.foldl (fun n c => 10 * n + (c.toNat - '0'.toNat)) 0

/-- Reads the digits at the head of a text as one field, and gives the rest. -/
def field? (t : Text) : Option (Nat × Text) :=
  let digits := t.takeWhile Char.isDigit
  if 1 ≤ digits.length ∧ digits.length ≤ fieldDigits then
    some (decimalValue digits, t.dropWhile Char.isDigit)
  else none

/-- Reads a report. The whole text has to be one. -/
def Report.ofText? (t : Text) : Option Report := do
  let '\x1b' :: '[' :: '<' :: t := t | none
  let (code, ';' :: t) ← field? t | none
  let (x, ';' :: t) ← field? t | none
  let (y, [final]) ← field? t | none
  if final = 'M' then some { code, x, y, released := false }
  else if final = 'm' then some { code, x, y, released := true }
  else none

/-- Writes a report. -/
def Report.toText (r : Report) : Text :=
  ['\x1b', '[', '<'] ++ Nat.toDigits 10 r.code ++ ';' :: Nat.toDigits 10 r.x ++
    ';' :: Nat.toDigits 10 r.y ++ [if r.released then 'm' else 'M']

/-- Whether a text looks like a report: the opening, then anything up to the only `m` or `M`, which
ends it. -/
def isReportShaped : Text → Bool
  | '\x1b' :: '[' :: '<' :: rest =>
    (rest.dropWhile fun c => c != 'm' && c != 'M').length == 1
  | _ => false

/-! ## Meaning -/

/-- The modifier keys in a button code. -/
def Modifiers.ofCode (code : Nat) : Modifiers where
  shift := code.testBit 2
  alt := code.testBit 3
  ctrl := code.testBit 4

/-- The button that the two lowest bits of a code number, if they number one. -/
def Button.ofCode? (code : Nat) : Option Button :=
  match code % 4 with
  | 0 => some .left
  | 1 => some .middle
  | 2 => some .right
  | _ => none

/-- The direction that the two lowest bits of a wheel code number, if they number one. -/
def Direction.ofCode? (code : Nat) : Option Direction :=
  match code % 4 with
  | 0 => some .up
  | 1 => some .down
  | _ => none

/-- The action of a button report: any motion is a drag, whatever the report ends in. -/
def Action.ofReport (r : Report) : Action :=
  if r.code.testBit 5 then .drag else if r.released then .release else .press

/-- The event a report stands for, unless its code means nothing. A coordinate of zero, which no
terminal sends, counts as one. -/
def Event.ofReport? (r : Report) : Option Event :=
  let modifiers := Modifiers.ofCode r.code
  if r.code.testBit 6 then
    (Direction.ofCode? r.code).map fun direction =>
      .wheel direction (r.x - 1) (r.y - 1) modifiers
  else
    (Button.ofCode? r.code).map fun pressed =>
      .button (Action.ofReport r) pressed (r.x - 1) (r.y - 1) modifiers

/-- The bits of a code that stand for modifier keys. -/
def Modifiers.bits (m : Modifiers) : Nat :=
  (if m.shift then 4 else 0) + (if m.alt then 8 else 0) + (if m.ctrl then 16 else 0)

/-- The two lowest bits of a code for a button. -/
def Button.bits : Button → Nat
  | .left => 0
  | .middle => 1
  | .right => 2

/-- The two lowest bits of a code for a direction of the wheel. -/
def Direction.bits : Direction → Nat
  | .up => 0
  | .down => 1

/-- The report of an event. -/
def Event.report : Event → Report
  | .wheel direction x y modifiers =>
    { code := 64 + modifiers.bits + direction.bits, x := x + 1, y := y + 1, released := false }
  | .button action pressed x y modifiers =>
    { code := (if action = .drag then 32 else 0) + modifiers.bits + pressed.bits
      x := x + 1
      y := y + 1
      released := decide (action = .release) }

end ScrollPane.Mouse
