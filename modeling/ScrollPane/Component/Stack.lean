import ScrollPane.Component.Basic

/-!
# Stacks

A stack draws components one below the other. Drawing a viewport of a stack asks each child only for
the rows that fall inside, in the child's own coordinates, so a nested block knows which of its rows
is at the top of the screen. The heights that earlier children report place the later ones.
-/

namespace ScrollPane

/-- What a stack holds: its children from top to bottom. The same child may occur twice. -/
structure Stack (ι : Type) where
  children : List ι := []
deriving DecidableEq, Repr

namespace Stack

/-! ## Children -/

variable {ι : Type}

/-- Adds a child at the bottom. -/
def add (s : Stack ι) (child : ι) : Stack ι := { children := s.children ++ [child] }

/-- Removes the topmost occurrence of a child, if there is one. -/
def remove [BEq ι] (s : Stack ι) (child : ι) : Stack ι := { children := s.children.erase child }

/-- Removes all children. -/
def clear (_ : Stack ι) : Stack ι := {}

/-! ## Drawing -/

variable {σ : Type}

/-- Draws the children in full, one after the other. -/
def render (width : Int) : List (Component σ) → StateM σ (List Text)
  | [] => pure []
  | child :: below => do
    let rows ← child.render width
    let more ← render width below
    return rows ++ more

/-- Draws the part of the children inside the rows `[top, bottom)` of the stack, the first child
starting at `row`. Every child is asked, even one that lies outside. -/
def windowFrom (width top bottom row : Int) : List (Component σ) → StateM σ Window
  | [] => pure { rows := [], contentHeight := row }
  | child :: below => do
    let childTop := max 0 (top - row)
    let childHeight := max 0 (bottom - row - childTop)
    let w ← child.view width { width, height := childHeight, top := childTop }
    let more ← windowFrom width top bottom (row + w.contentHeight) below
    return { more with rows := w.rows.take childHeight.toNat ++ more.rows }

/-- Draws the rows of the stack inside a viewport. -/
def window (children : List (Component σ)) (width : Int) (v : Viewport) : StateM σ Window :=
  let top := max 0 v.top
  windowFrom width top (top + max 0 v.height) 0 children

/-- Passes an invalidation on to each child. -/
def invalidate : List (Component σ) → StateM σ Unit
  | [] => pure ()
  | child :: below => do
    child.invalidate
    invalidate below

/-- The children as one component. -/
def component (children : List (Component σ)) : Component σ where
  render width := render width children
  window? := some (window children)
  invalidate := invalidate children

end Stack

end ScrollPane
