import ScrollPane.Layout.Command

/-!
# Runs

What can happen while a layout is in use: it is given commands, and between two commands the world
that its components live in may change. A run keeps the outcome of every command, so the frames, the
answers and the states of a layout over its whole life can be read off it.
-/

namespace ScrollPane.Layout

variable {σ : Type}

/-- What happens while a layout is in use. -/
inductive Event (σ : Type) where
  /-- The layout is given a command. -/
  | command (c : Command)
  /-- The world changes: output comes in, the fixed part is edited, a component is replaced. -/
  | change (f : σ → σ)

/-- Lets events happen to a layout one after the other, and keeps the outcomes of the commands. The
output and the fixed part are looked up in the world as each command finds it. -/
def run (output fixed : σ → Component σ) : Layout → List (Event σ) → StateM σ (List (Outcome Reply))
  | _, [] => pure []
  | l, .command c :: events => do
    let world ← get
    let outcome ← l.step (output world) (fixed world) c
    let later ← run output fixed outcome.layout events
    return outcome :: later
  | l, .change f :: events => do
    modify f
    run output fixed l events

end ScrollPane.Layout
