import ScrollPane.Numeral
import ScrollPane.Unicode.Blank

/-!
# Settings

The switches that the surrounding program passes to a layout, and how they are read from the
environment. Reading never fails: a value that makes no sense counts as absent.
-/

namespace ScrollPane

/-- The values of the environment's variables, by name. -/
abbrev Environment := String → Option Text

/-- The rows that one turn of the wheel scrolls unless told otherwise. -/
def defaultWheelLines : Int := 3

/-- The settings of a layout. -/
structure Settings where
  /-- Whether the layout starts with scrolling switched on. -/
  scrollEnabled : Bool := false
  /-- Whether button events are decoded as well as the wheel. -/
  mouseTracking : Bool := false
  /-- The rows that one turn of the wheel scrolls. -/
  wheelLines : Int := defaultWheelLines
deriving DecidableEq, Repr

namespace Settings

/-- Whether a value switches a flag on: `1`, `true` or `yes`, in letters of either case. -/
def isYes (value : Text) : Bool :=
  [['1'], "true".toList, "yes".toList].contains (value.map Char.toLower)

/-- Whether the flag of this name is on. An absent variable is off. -/
def flag (env : Environment) (name : String) : Bool :=
  match env name with
  | some value => isYes value
  | none => false

/-- The wheel step that a value asks for: a positive numeral with any white space around it. -/
def wheelLines? (value : Text) : Option Int :=
  (Numeral.int? (value.trim Unicode.isBlank)).filter (1 ≤ ·)

/-- The settings in an environment. -/
def ofEnvironment (env : Environment) : Settings where
  scrollEnabled := flag env "PI_SCROLL_MODE"
  mouseTracking := flag env "PI_MOUSE_TRACKING"
  wheelLines := ((env "PI_SCROLL_WHEEL_LINES").bind wheelLines?).getD defaultWheelLines

end Settings

end ScrollPane
