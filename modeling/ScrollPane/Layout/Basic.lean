import ScrollPane.Layout.Selection
import ScrollPane.Mouse.Decoder
import ScrollPane.Settings
import ScrollPane.Terminal

/-!
# Layouts

A layout divides the screen between an *output* that grows and scrolls and a *fixed* part that stays
in full at the bottom. This module holds its state and the operations on it that draw nothing; frames
are in `ScrollPane.Layout.Frame`.

The state does not hold the two components: they live in the world that frames are drawn in, and the
operations here do not need them.
-/

namespace ScrollPane

/-- The state of a layout. -/
structure Layout where
  terminal : Terminal
  /-- The rows that one turn of the wheel scrolls. -/
  wheelLines : Int
  decoder : Mouse.Decoder
  scroll : Scroll := {}
  selection? : Option Selection := none
  /-- The output rows of the last frame, before the selection is drawn. -/
  visibleOutput : List Text := []
  /-- The fixed rows of the last frame. -/
  visibleFixed : List Text := []
  /-- The rows that the fixed part had in the last frame, whether or not all were shown. -/
  fixedHeight : Nat := 0
deriving DecidableEq, Repr

namespace Layout

/-! ## Configuration -/

/-- Switches scrolling on or off. Either way the layout starts over at the newest output without a
selection; asking for the present mode changes nothing. -/
def setEnabled (l : Layout) (enabled : Bool) : Layout :=
  if l.scroll.enabled = enabled then l
  else { l with scroll := { enabled }, selection? := none }

/-- What switching scrolling leaves in the log. -/
def setEnabledNotices (l : Layout) (enabled : Bool) : List Notice :=
  if l.scroll.enabled = enabled then [] else [.scrollMode enabled]

/-- A layout on a terminal before any setting has switched scrolling on. -/
def ofSettings (terminal : Terminal) (settings : Settings) : Layout where
  terminal
  wheelLines := max 1 settings.wheelLines
  decoder := { buttons := settings.mouseTracking }

/-- A new layout on a terminal. -/
def create (terminal : Terminal) (settings : Settings) : Layout :=
  (ofSettings terminal settings).setEnabled settings.scrollEnabled

/-- What creating a layout leaves in the log. -/
def createNotices (terminal : Terminal) (settings : Settings) : List Notice :=
  (ofSettings terminal settings).setEnabledNotices settings.scrollEnabled

/-- Decodes button events as well (`true`), or the wheel alone. -/
def setMouseTracking (l : Layout) (buttons : Bool) : Layout :=
  { l with decoder := { buttons } }

/-- Follows a change of the terminal's number of rows. -/
def resize (l : Layout) (rows : Int) : Layout :=
  { l with terminal := { l.terminal with rows } }

/-! ## Scrolling -/

/-- Moves to an offset, as far as the last frame's heights allow, and drops the selection. -/
def scrollTo (l : Layout) (offset : Int) : Layout :=
  { l with scroll := l.scroll.moveTo offset, selection? := none }

/-- Scrolls back by a number of rows, or forward if it is negative. Scrolling by nothing keeps the
selection. -/
def scrollBy (l : Layout) (rows : Int) : Layout :=
  if l.scroll.enabled ∧ rows ≠ 0 then l.scrollTo (l.scroll.offset - rows) else l

/-- Scrolls back by a number of pages, or forward if it is negative. -/
def scrollByPage (l : Layout) (pages : Int) : Layout := l.scrollBy (pages * l.scroll.pageSize)

/-- Scrolls to the oldest output. -/
def scrollToTop (l : Layout) : Layout := if l.scroll.enabled then l.scrollTo 0 else l

/-- Goes to the newest output and follows it from then on. -/
def scrollToBottom (l : Layout) : Layout :=
  { l with scroll := l.scroll.toBottom, selection? := none }

/-! ## Selection and input -/

/-- Sets or removes the selection. -/
def select (l : Layout) (selection? : Option Selection) : Layout := { l with selection? }

/-- The layout after a chunk of input: the wheel scrolls, all else is left to others. -/
def input (l : Layout) (chunk : Mouse.Chunk) : Layout :=
  match l.decoder.decode chunk with
  | some (.wheel direction ..) => l.scrollBy (-direction.delta * l.wheelLines)
  | _ => l

/-- Whether a chunk of input was meant for the layout. Button events go to whoever handles
selections, but a report that the decoder rejects is still no key press. -/
def consumes (l : Layout) (chunk : Mouse.Chunk) : Bool :=
  match l.decoder.decode chunk with
  | some (.wheel ..) => true
  | some (.button ..) => false
  | none => chunk.isMouse

end Layout

end ScrollPane
