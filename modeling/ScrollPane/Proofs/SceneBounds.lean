import ScrollPane.Proofs.SceneFrames

/-!
# Bounds of windows in a scene

All components of a scene but one kind answer with rows inside their content: they draw all their
rows, or have their parts drawn, and slice that. A layout with scrolling on does not. It fills the
viewport from wherever it has been scrolled to, so it gives the rows of a whole viewport also where
only its last rows were asked for. A stack takes these for rows of the content there, and goes on
with the next child as if there was still room.

So the window of a stack is as tall as asked for, or less, if it starts at the first row or if no
layout that is reached through stacks alone scrolls. What else the scene holds does not matter: a
block with a sticky header and a layout that does not scroll slice whatever is drawn inside them.
But whatever is drawn there has to be drawn first, so no layout may ask one that scrolls for a window
without a lower end.

## Main statements

- `Scene.length_view_stack_le`: when the window of a stack is not taller than asked for;
- `Scene.length_view_stack_gt`: a stack whose window is, and one in which a frame is without end.
-/

namespace ScrollPane

variable {γ : Type}

/-! ## Leaves -/

theorem Label.ensures_view (width : Int) (v : Viewport) :
    Ensures (fun _ => True) (Label.component.view width v) (Window.Inside v) := by
  intro label _
  rw [(label.serves.view width v label rfl).1]
  exact ⟨v.inside_slice (Int.le_refl _), trivial⟩

theorem Transcript.ensures_view (width : Int) (v : Viewport) :
    Ensures (fun _ => True) (Transcript.component.view width v) (Window.Inside v) := by
  intro transcript _
  rw [((Transcript.serves transcript.lines).view width v transcript rfl).1]
  exact ⟨v.inside_slice (Int.le_refl _), trivial⟩

/-- A node whose answers stay inside its content: layouts that do not scroll, guests of which this is
known, and all else. -/
def Node.Inside (guestComponent : γ → Component γ) : Node γ → Prop
  | .layout l .. => l.scroll.enabled = false
  | .guest g => ∀ width v,
      Ensures (fun _ => True) ((guestComponent g).view width v) (Window.Inside v)
  | _ => True

namespace Scene

variable {guestComponent : γ → Component γ} {limit : Nat} {s : Scene γ}

/-! ## Windows -/

/-- Where every node that is reached through stacks alone answers inside its content, so does the
whole. -/
theorem ensures_view_of_throughStacks (hFirst : s.FramesWithin limit) {depth : Nat} {h : Handle}
    (hDepth : depth ≤ s.nodes.size + 1) (hAsks : s.EverywhereTo s.AsksBounded depth h)
    (hThrough : s.ThroughStacksTo (Node.Inside guestComponent) depth h) (width : Int)
    {v : Viewport} (hHeight : v.height.toNat ≤ limit) :
    Ensures (s.DrawnWithin limit) ((s.componentAt guestComponent depth h).view width v)
      (Window.Inside v) := by
  induction depth generalizing h v with
  | zero => exact Component.ensures_view_blank width v
  | succ depth ih =>
    have hLess : depth ≤ s.nodes.size + 1 := Nat.le_of_succ_le hDepth
    unfold componentAt
    cases hNode : s.node? h with
    | none => exact Component.ensures_view_blank width v
    | some node =>
      obtain ⟨hHere, hChildren⟩ := hThrough node hNode
      obtain ⟨hAsksHere, hBelow⟩ := hAsks node hNode
      have hKeeps : ∀ child ∈ node.children,
          (s.componentAt guestComponent depth child).KeepsUpTo (s.DrawnWithin limit) limit :=
        fun child hChild =>
          componentAt_keepsUpTo hFirst hLess (hBelow child hChild) (.inl (Nat.le_refl limit))
      cases node with
      | transcript transcript =>
        exact Component.ensures_view_within
          (fun s' content hDrawn => hDrawn.modifyNode hNode (by simp) trivial)
          (Transcript.ensures_view width v)
      | label label =>
        exact Component.ensures_view_within
          (fun s' content hDrawn => hDrawn.modifyNode hNode (by simp) trivial)
          (Label.ensures_view width v)
      | guest guest =>
        exact Component.ensures_view_within
          (fun s' content hDrawn => hDrawn.modifyNode hNode (by simp) trivial) (hHere width v)
      | stack stack =>
        refine (Stack.ensures_window ?_).mono fun w hw => hw.2
        rintro child hChild v' - hLower
        obtain ⟨k, hMem, rfl⟩ := List.mem_map.mp hChild
        exact ih hLess (hBelow k hMem) (hChildren k hMem) (hLower.trans hHeight)
      -- what is drawn inside a block is drawn in full, so nothing needs to be known of its windows
      | sticky header child =>
        exact Component.ensures_view_withHeader ((hKeeps child List.mem_cons_self).render width)
          header v
      | layout layout output fixed =>
        have hOutput := hBelow output List.mem_cons_self
        have hParts : s.OutputKeeps limit layout (s.componentAt guestComponent depth output)
            (s.componentAt guestComponent depth fixed) :=
          { fixed := (hKeeps fixed (List.mem_cons_of_mem _ List.mem_cons_self)).render
            scrolled := fun _ => hKeeps output List.mem_cons_self
            stacked := fun hOff =>
              componentAt_keepsUpTo hFirst hLess hOutput (.inr ((hAsksHere hOff).mono hLess)) }
        exact (ensures_view_layout hFirst hNode hParts width fun _ => hHeight).mono
          fun w hInside => hInside hHere

/-- **The window of a stack in a scene is not taller than asked for**, if it starts at the first row
or if no layout that is reached through stacks alone scrolls, provided that no layout of the tree asks
one that scrolls for a window without a lower end. Then no frame in the tree is without end, either:
any limit that the layouts of the scene keep within, and the window too, they also keep within when
the window has been drawn. -/
theorem length_view_stack_le (guestComponent : γ → Component γ) (s : Scene γ) (h : Handle)
    (stack : Stack Handle) (width : Int) (v : Viewport) (hNode : s.node? h = some (.stack stack))
    (hAsks : s.Everywhere s.AsksBounded h)
    (hWindow : v.top ≤ 0 ∨ s.ThroughStacks (Node.Inside guestComponent) h) :
    let drawn := (s.component guestComponent h).view width v s
    (drawn.1.rows.length : Int) ≤ max 0 v.height ∧
      ∀ limit : Nat, v.height ≤ limit → s.FramesWithin limit → drawn.2.FramesWithin limit := by
  have hStack : s.component guestComponent h =
      Stack.component (stack.children.map (s.componentAt guestComponent s.nodes.size)) := by
    simp only [component, componentAt, hNode]
  constructor
  · rw [hStack]
    rcases hWindow with hTop | hThrough
    -- from the first row on, nothing needs to be known of the children
    · have hChildren : ∀ child ∈ stack.children.map (s.componentAt guestComponent s.nodes.size),
          ∀ v' : Viewport, v'.top ≤ max 0 v.top → v'.height.toNat ≤ v.height.toNat →
            Ensures (fun _ => True) (child.view width v') (Window.Inside v') :=
        fun child _ v' hTop' _ => child.ensures_view_of_top_nonpos width (by omega)
      obtain ⟨⟨hLength, -⟩, -⟩ := Stack.ensures_window hChildren s trivial
      omega
    · obtain ⟨limit, hHeight, hFirst⟩ := s.exists_framesWithin v.height.toNat
      have hChildren : ∀ child ∈ stack.children.map (s.componentAt guestComponent s.nodes.size),
          ∀ v' : Viewport, v'.top ≤ max 0 v.top → v'.height.toNat ≤ v.height.toNat →
            Ensures (s.DrawnWithin limit) (child.view width v') (Window.Inside v') := by
        rintro child hChild v' - hLower
        obtain ⟨k, hMem, rfl⟩ := List.mem_map.mp hChild
        exact ensures_view_of_throughStacks hFirst (Nat.le_succ _) ((hAsks _ hNode).2 k hMem)
          ((hThrough _ hNode).2 k hMem) width (hLower.trans hHeight)
      obtain ⟨⟨hLength, -⟩, -⟩ := Stack.ensures_window hChildren s (.refl hFirst)
      omega
  · intro limit hHeight hFirst
    have hKeeps : (s.component guestComponent h).KeepsUpTo (s.DrawnWithin limit) limit :=
      componentAt_keepsUpTo hFirst (Nat.le_refl _) hAsks (.inl (Nat.le_refl limit))
    exact (hKeeps.view width v (Int.toNat_le.mpr hHeight) s (.refl hFirst)).2.framesWithin

/-- Two lines of notes below a layout over one line of output. -/
def paneAndNotes (scrollEnabled : Bool) : Scene Sheet where
  nodes := #[
    .transcript (.ofLines [['a']]),
    .label {},
    .layout (.create { rows := 3 } { scrollEnabled }) 0 1,
    .label { lines := [['x'], ['y']] },
    .stack { children := [2, 3] }]

/-- Without scrolling the window holds two rows wherever it starts, with scrolling from the top. -/
theorem length_view_stack_le_paneAndNotes :
    let view (s : Scene Sheet) (v : Viewport) := (s.component sheetGuest 4).view 80 v s
    let below : Viewport := { width := 80, height := 2, top := 1 }
    let first : Viewport := { width := 80, height := 2 }
    (((view (paneAndNotes false) below).1.rows.length : Int) ≤ max 0 below.height ∧
        ((view (paneAndNotes true) first).1.rows.length : Int) ≤ max 0 first.height) ∧
      (view (paneAndNotes false) below).1 = { rows := [['x'], ['y']], contentHeight := 3 } ∧
      (view (paneAndNotes true) first).1 = { rows := [['a'], []], contentHeight := 4 } ∧
      (paneAndNotes true).FramesWithin 3 ∧ (view (paneAndNotes true) first).2.FramesWithin 3 := by
  intro view below first
  have hInside : (paneAndNotes false).ThroughStacks (Node.Inside sheetGuest) 4 := by
    refine (everywhere_of_forall ?_ 4).throughStacksTo
    simp [paneAndNotes, Node.Inside, Layout.create, Layout.setEnabled, Layout.ofSettings]
  have hAsks : ∀ scrollEnabled, (paneAndNotes scrollEnabled).Everywhere
      (paneAndNotes scrollEnabled).AsksBounded 4 := by
    intro scrollEnabled
    refine everywhere_of_forall ?_ 4
    suffices (Layout.create { rows := 3 } { scrollEnabled }).scroll.enabled = false →
        (paneAndNotes scrollEnabled).ThroughStacks (fun node => ¬node.Scrolls) 0 by
      simpa [paneAndNotes, AsksBounded] using this
    intro hOff
    refine (everywhere_of_forall ?_ 0).throughStacksTo
    simpa [paneAndNotes, Node.Scrolls] using hOff
  have hFirst : (paneAndNotes true).FramesWithin 3 := by
    rw [framesWithin_iff]
    simp [paneAndNotes, Node.FrameWithin, Layout.FrameWithin, Layout.create, Layout.setEnabled,
      Layout.ofSettings]
  have hBelow := length_view_stack_le sheetGuest (paneAndNotes false) 4 { children := [2, 3] } 80
    below rfl (hAsks false) (.inr hInside)
  have hTop := length_view_stack_le sheetGuest (paneAndNotes true) 4 { children := [2, 3] } 80
    first rfl (hAsks true) (.inl (Int.le_refl 0))
  refine ⟨⟨?_, ?_⟩, by decide +kernel, by decide +kernel, hFirst, hTop.2 3 (by decide) hFirst⟩
  · simp only [view]
    exact hBelow.1
  · simp only [view]
    exact hTop.1

/-- A layout that scrolls, as the output of one that does not. -/
def paneInPane : Scene Sheet where
  nodes := #[
    .transcript (.ofLines [['a']]),
    .label {},
    .layout (.create { rows := 3 } { scrollEnabled := true }) 0 1,
    .layout (.create { rows := 3 } {}) 2 1,
    .stack { children := [3] }]

/-- With scrolling, a window of two rows from the third row on holds four: the layout has drawn a
frame of two rows of its own, and has reported that its content is above the window. And a window of
two rows from the first row on has a layout inside a layout draw a frame without end. -/
theorem length_view_stack_gt :
    (let v : Viewport := { width := 80, height := 2, top := 2 }
      let w := (((paneAndNotes true).component sheetGuest 4).view 80 v (paneAndNotes true)).1
      w = { rows := [['a'], [], ['x'], ['y']], contentHeight := 4 } ∧
        ¬ (w.rows.length : Int) ≤ max 0 v.height) ∧
      let drawn := ((paneInPane.component sheetGuest 4).view 80 { width := 80, height := 2 } paneInPane).2
      ((layoutSlot 2 0 1 (.create { rows := 3 } {})).get drawn).scroll.regionHeight =
        Viewport.unboundedHeight := by
  decide +kernel

end Scene

end ScrollPane
