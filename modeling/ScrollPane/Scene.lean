import ScrollPane.Component.Header
import ScrollPane.Component.Label
import ScrollPane.Component.Stack
import ScrollPane.Component.Transcript
import ScrollPane.Layout.Component

/-!
# Scenes

A scene holds the components of a program under handles. Components name one another by handle, so one
component may be drawn in several places and keeps a single state. A program adds components of its
own as *guests*.

A handle is turned into a component by following handles downwards. No path without a repetition is
longer than the scene has nodes, so that many levels draw every scene in which no component contains
itself; below that a component without rows is drawn.
-/

namespace ScrollPane

/-- The name of a component in a scene. -/
abbrev Handle := Nat

/-- A component as a scene holds it: its state, and the handles of the components it draws. -/
inductive Node (γ : Type) where
  | transcript (transcript : Transcript)
  | label (label : Label)
  | stack (stack : Stack Handle)
  | sticky (header : Header) (child : Handle)
  | layout (layout : Layout) (output fixed : Handle)
  | guest (guest : γ)

/-- The components of a program, and the notices not yet taken to its log. -/
structure Scene (γ : Type) where
  nodes : Array (Node γ) := #[]
  notices : List Notice := []

namespace Scene

variable {γ : Type}

/-! ## Nodes and their state -/

/-- Adds a component; its handle is the number of components before it. -/
def add (s : Scene γ) (node : Node γ) : Scene γ := { s with nodes := s.nodes.push node }

/-- The component under a handle. -/
def node? (s : Scene γ) (h : Handle) : Option (Node γ) := s.nodes[h]?

/-- Changes the component under a handle. -/
def modifyNode (h : Handle) (f : Node γ → Node γ) (s : Scene γ) : Scene γ :=
  { s with nodes := s.nodes.modify h f }

/-- Adds notices after those already there. -/
def report (notices : List Notice) (s : Scene γ) : Scene γ :=
  { s with notices := s.notices ++ notices }

/-- The place of a transcript. -/
def transcriptSlot (h : Handle) (absent : Transcript) : Slot (Scene γ) Transcript where
  get s :=
    match s.node? h with
    | some (.transcript transcript) => transcript
    | _ => absent
  set transcript := modifyNode h fun _ => .transcript transcript

/-- The place of a label. -/
def labelSlot (h : Handle) (absent : Label) : Slot (Scene γ) Label where
  get s :=
    match s.node? h with
    | some (.label label) => label
    | _ => absent
  set label := modifyNode h fun _ => .label label

/-- The place of a layout's state. -/
def layoutSlot (h output fixed : Handle) (absent : Layout) : Slot (Scene γ) Layout where
  get s :=
    match s.node? h with
    | some (.layout layout ..) => layout
    | _ => absent
  set layout := modifyNode h fun _ => .layout layout output fixed

/-- The place of a guest. -/
def guestSlot (h : Handle) (absent : γ) : Slot (Scene γ) γ where
  get s :=
    match s.node? h with
    | some (.guest guest) => guest
    | _ => absent
  set guest := modifyNode h fun _ => .guest guest

/-! ## Drawing -/

/-- The component under a handle, as deep as `depth` levels. -/
def componentAt (guestComponent : γ → Component γ) (s : Scene γ) :
    Nat → Handle → Component (Scene γ)
  | 0, _ => .blank
  | depth + 1, h =>
    let inner := componentAt guestComponent s depth
    match s.node? h with
    | none => .blank
    | some (.transcript transcript) => Transcript.component.within (transcriptSlot h transcript)
    | some (.label label) => Label.component.within (labelSlot h label)
    | some (.stack stack) => Stack.component (stack.children.map inner)
    | some (.sticky header child) => (inner child).withHeader header
    | some (.layout layout output fixed) =>
      Layout.component (layoutSlot h output fixed layout) report (inner output) (inner fixed)
    | some (.guest guest) => (guestComponent guest).within (guestSlot h guest)

/-- The component under a handle. -/
def component (guestComponent : γ → Component γ) (s : Scene γ) (h : Handle) :
    Component (Scene γ) :=
  s.componentAt guestComponent (s.nodes.size + 1) h

/-- Performs a command on the layout under a handle. Without a layout there, nothing happens. -/
def command (guestComponent : γ → Component γ) (h : Handle) (c : Layout.Command) :
    StateM (Scene γ) Layout.Reply := do
  let s ← get
  match s.node? h with
  | some (.layout layout output fixed) =>
    let slot := layoutSlot h output fixed layout
    Layout.perform slot report fun l =>
      l.step (s.component guestComponent output) (s.component guestComponent fixed) c
  | _ => return .done

end Scene

end ScrollPane
