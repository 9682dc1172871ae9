import ScrollPane.Component.Basic
import ScrollPane.Text.Cut

/-!
# Transcripts

A transcript is an append-only log of lines, drawn clipped to the width asked for. The clipped lines
are remembered for the last width, and lines added later are clipped on their own and added to them,
so that drawing a growing transcript clips each line once. That the remembered rows are those of the
current lines is part of their type.
-/

namespace ScrollPane

/-- The rows of some lines, clipped to one width. -/
structure ClippedRows (lines : List Text) where
  width : Int
  rows : List Text
  rows_eq : rows = lines.map (Text.clip · width)

/-- The lines, clipped to a width. -/
def ClippedRows.ofWidth (lines : List Text) (width : Int) : ClippedRows lines where
  width
  rows := lines.map (Text.clip · width)
  rows_eq := rfl

/-- The rows after more lines have come in: only those are clipped. -/
def ClippedRows.append {lines : List Text} (clipped : ClippedRows lines) (more : List Text) :
    ClippedRows (lines ++ more) where
  width := clipped.width
  rows := clipped.rows ++ more.map (Text.clip · clipped.width)
  rows_eq := by rw [List.map_append, clipped.rows_eq]

/-- An append-only log of lines. -/
structure Transcript where
  lines : List Text := []
  /-- The rows drawn last, while they are still of use. -/
  clipped? : Option (ClippedRows lines) := none

namespace Transcript

/-- A transcript that starts with some lines. -/
def ofLines (lines : List Text) : Transcript where
  lines

instance : Inhabited Transcript := ⟨ofLines []⟩

/-- The number of lines. -/
def size (t : Transcript) : Nat := t.lines.length

/-- Adds lines at the end. -/
def appendLines (t : Transcript) (more : List Text) : Transcript where
  lines := t.lines ++ more
  clipped? := t.clipped?.map (·.append more)

/-- Adds a text at the end, one line for each stretch between newlines. -/
def append (t : Transcript) (text : Text) : Transcript := t.appendLines text.lines

/-- Removes all lines. -/
def clear (_ : Transcript) : Transcript := ofLines []

/-- Forgets the rows drawn last. -/
def invalidate (t : Transcript) : Transcript := ofLines t.lines

/-- The rows at a width: those drawn last if they have that width, or else drawn anew. -/
def rowsAt (t : Transcript) (width : Int) : ClippedRows t.lines :=
  match t.clipped? with
  | some clipped => if clipped.width = width then clipped else .ofWidth t.lines width
  | none => .ofWidth t.lines width

/-- Draws the lines at a width, and remembers the rows. -/
def draw (width : Int) : StateM Transcript (List Text) := fun t =>
  let clipped := t.rowsAt width
  (clipped.rows, { t with clipped? := some clipped })

/-- A transcript as a component. -/
def component : Component Transcript where
  render := draw
  window? := some fun width v => do
    let rows ← draw width
    return { rows := v.slice rows, contentHeight := rows.length }
  invalidate := modify invalidate

end Transcript

end ScrollPane
