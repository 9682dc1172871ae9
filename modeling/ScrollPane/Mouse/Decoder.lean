import ScrollPane.Mouse.Report
import ScrollPane.Notice

/-!
# Decoding input chunks

A chunk is one read of terminal input. The decoder has two modes: the full one reports all mouse
events, the restricted one only the wheel, because listening to buttons takes over the terminal's own
text selection.
-/

namespace ScrollPane.Mouse

/-- One read of terminal input, as text or as raw bytes. -/
inductive Chunk where
  | text (chars : Text)
  | bytes (raw : List UInt8)
deriving DecidableEq, Repr

/-- The characters of a chunk. A raw byte stands for the code point of its value (Latin-1), so every
sequence of bytes has a reading. -/
def Chunk.chars : Chunk → Text
  | .text chars => chars
  | .bytes raw => raw.map Char.ofUInt8

/-- Whether a chunk looks like a mouse report, and so is no key press even if it means nothing. -/
def Chunk.isMouse (chunk : Chunk) : Bool := isReportShaped chunk.chars

/-- The mouse event of a chunk that is one complete report. -/
def Event.ofChunk? (chunk : Chunk) : Option Event :=
  (Report.ofText? chunk.chars).bind Event.ofReport?

/-- A decoder of mouse input. -/
structure Decoder where
  /-- Whether button events are passed on, and not the wheel alone. -/
  buttons : Bool := false
deriving DecidableEq, Repr

namespace Decoder

/-- Whether the decoder passes an event on. -/
def accepts (d : Decoder) : Event → Bool
  | .wheel .. => true
  | .button .. => d.buttons

/-- The event of a chunk, if the decoder passes it on. -/
def decode (d : Decoder) (chunk : Chunk) : Option Event :=
  (Event.ofChunk? chunk).filter d.accepts

/-- In either mode the decoder passes on what the chunk means, or nothing. -/
theorem ofChunk?_of_decode {d : Decoder} {chunk : Chunk} {e : Event}
    (h : d.decode chunk = some e) : Event.ofChunk? chunk = some e :=
  (Option.filter_eq_some_iff.mp h).1

theorem decode_of_event {chunk : Chunk} {e : Event} (h : Event.ofChunk? chunk = some e)
    (d : Decoder) : d.decode chunk = if d.accepts e then some e else none := by
  rw [decode, h, Option.filter_some]

/-- What decoding a chunk leaves in the log: the button event that the restricted mode drops. -/
def notices (d : Decoder) (chunk : Chunk) : List Notice :=
  match Event.ofChunk? chunk with
  | some (.button action button ..) =>
    if d.buttons then [] else [.buttonDiscarded button action]
  | _ => []

end Decoder

end ScrollPane.Mouse
