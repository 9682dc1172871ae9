import ScrollPane.Proofs.Frames
import ScrollPane.Proofs.SceneTree
import ScrollPane.Proofs.StackBounds

/-!
# The heights of frames in a scene

A layout that scrolls fills the window it is asked for, however tall that is. A layout that does not
scroll asks its output for a window without a lower end, so as to have all of it, and a stack hands
that on to its children. Where it comes to a layout that scrolls, that layout draws a frame that no
memory holds.

Nothing else asks for more rows than it is asked for itself, and drawing switches no scrolling on or
off. So if no layout asks another one in that way, every layout that scrolls is drawn as tall as the
window of the whole or as its own terminal at most.

## Main definitions

- `Scene.ThroughStacks`: a property of the nodes that are reached through stacks alone;
- `Scene.AsksBounded`: a node asks no layout that scrolls for a window without a lower end;
- `Scene.FramesWithin`: no layout that scrolls is taller than a limit.

## Main statements

- `Scene.componentAt_keepsUpTo`: drawing a tree keeps its layouts within a limit.
-/

namespace ScrollPane

variable {σ γ : Type}

/-! ## Layouts -/

namespace Layout

/-- If the layout scrolls, then its region and its terminal have at most `limit` rows. -/
def FrameWithin (limit : Nat) (l : Layout) : Prop :=
  l.scroll.enabled = true → l.scroll.regionHeight ≤ limit ∧ l.terminal.rows ≤ limit

/-- What drawing at a height leaves of a layout. -/
structure DrawnAt (height : Nat) (before after : Layout) : Prop where
  enabled_eq : after.scroll.enabled = before.scroll.enabled
  terminal_eq : after.terminal = before.terminal
  regionHeight_le : after.scroll.regionHeight ≤ height

theorem DrawnAt.frameWithin {height limit : Nat} {before after : Layout}
    (h : DrawnAt height before after) (hBefore : before.FrameWithin limit)
    (hHeight : before.scroll.enabled = true → height ≤ limit) : after.FrameWithin limit := by
  intro hEnabled
  have hScrolls : before.scroll.enabled = true := h.enabled_eq.symm.trans hEnabled
  have hFits := hHeight hScrolls
  have hRegion := h.regionHeight_le
  obtain ⟨-, hRows⟩ := hBefore hScrolls
  refine ⟨by omega, ?_⟩
  rw [h.terminal_eq]
  exact hRows

variable {inv : σ → Prop} {output fixed : Component σ}

theorem keeps_settleOutput {height : Nat} (hOutput : output.KeepsUpTo inv height) (scroll : Scroll)
    (width : Int) : Ensures inv (settleOutput scroll output width height) fun _ => True := by
  have hView : ∀ top, Ensures inv (output.view width { width, height, top }) fun _ => True :=
    fun top => hOutput.view width _ (Nat.le_of_eq (Int.toNat_natCast height))
  unfold settleOutput
  split
  · refine (hView _).bind fun first _ => ?_
    dsimp only
    split
    · exact Ensures.pure trivial
    · exact (hView _).bind fun second _ => Ensures.pure trivial
  · exact (hOutput.render width).bind fun rows _ => Ensures.pure trivial

/-- A frame of a height asks its output for no more rows than that if the layout scrolls, and for a
window without a lower end if it does not. In that case its rows are no more than the height it
reports. -/
theorem ensures_compose (l : Layout) {height : Nat}
    (hFixed : ∀ width, Ensures inv (fixed.render width) fun _ => True)
    (hScrolled : l.scroll.enabled = true → output.KeepsUpTo inv height)
    (hStacked : l.scroll.enabled = false → output.KeepsUpTo inv Viewport.unboundedHeight.toNat)
    (width : Int) :
    Ensures inv (l.compose output fixed width height) fun o =>
      DrawnAt height l o.layout ∧ (l.scroll.enabled = false →
        (o.result.length : Int) ≤ o.layout.scroll.contentHeight + o.layout.fixedHeight) := by
  unfold compose
  refine (hFixed width).bind fun fixedRows _ => ?_
  dsimp only
  split
  · next hEnabled =>
    -- the fixed rows only take from the height, so the region is no taller than the frame
    have hRegion := (hScrolled hEnabled).mono
      (Nat.sub_le height (fixedRows.drop (fixedRows.length - height)).length)
    refine (keeps_settleOutput hRegion _ width).bind fun window _ => Ensures.pure ⟨?_, ?_⟩
    · exact {
        enabled_eq := rfl
        terminal_eq := rfl
        regionHeight_le := Int.ofNat_le.mpr (Nat.sub_le height _) }
    · intro hOff
      rw [hOff] at hEnabled
      cases hEnabled
  · next hEnabled =>
    -- the content height is the one that the output reports, which its rows do not exceed
    have hOutput := hStacked (Bool.eq_false_iff.mpr hEnabled)
    refine (hOutput.ensures_view width (Nat.le_refl _)).bind fun window hHeight =>
      Ensures.pure ⟨?_, fun _ => ?_⟩
    · exact { enabled_eq := rfl, terminal_eq := rfl, regionHeight_le := Int.natCast_nonneg height }
    · simp only [List.length_append]
      omega

theorem ensures_renderViewport (l : Layout) (v : Viewport)
    (hFixed : ∀ width, Ensures inv (fixed.render width) fun _ => True)
    (hScrolled : l.scroll.enabled = true → output.KeepsUpTo inv v.height.toNat)
    (hStacked : l.scroll.enabled = false → output.KeepsUpTo inv Viewport.unboundedHeight.toNat)
    (width : Int) :
    Ensures inv (l.renderViewport output fixed width v) fun o =>
      DrawnAt v.height.toNat l o.layout ∧ (l.scroll.enabled = false → o.result.Inside v) := by
  refine (l.ensures_compose hFixed hScrolled hStacked width).bind fun frame hFrame =>
    Ensures.pure ?_
  obtain ⟨hDrawn, hLength⟩ := hFrame
  refine ⟨hDrawn, fun hOff => ?_⟩
  have hStaysOff : frame.layout.scroll.enabled = false := hDrawn.enabled_eq.trans hOff
  simp only [Outcome.map, hStaysOff, Bool.false_eq_true, if_false]
  exact v.inside_slice (hLength hOff)

end Layout

/-! ## Nodes reached through stacks -/

/-- The handles of the components that a stack hands windows on to. -/
def Node.stacked : Node γ → List Handle
  | .stack children => children.children
  | _ => []

/-- The node is a layout that scrolls. -/
def Node.Scrolls : Node γ → Prop
  | .layout l .. => l.scroll.enabled = true
  | _ => False

/-- If the node is a layout that scrolls, then its region and its terminal have at most `limit`
rows. -/
def Node.FrameWithin (limit : Nat) : Node γ → Prop
  | .layout l .. => l.FrameWithin limit
  | _ => True

theorem Node.FrameWithin.mono {node : Node γ} {limit more : Nat} (h : node.FrameWithin limit)
    (hMore : limit ≤ more) : node.FrameWithin more := by
  cases node with
  | layout l output fixed =>
    intro hScrolls
    obtain ⟨hRegion, hRows⟩ := h hScrolls
    exact ⟨by omega, by omega⟩
  | _ => trivial

theorem Node.exists_frameWithin (node : Node γ) : ∃ limit, node.FrameWithin limit := by
  cases node with
  | layout l output fixed =>
    refine ⟨max l.scroll.regionHeight.toNat l.terminal.rows.toNat, fun _ => ⟨?_, ?_⟩⟩
    · omega
    · omega
  | _ => exact ⟨0, trivial⟩

namespace Scene

variable {guestComponent : γ → Component γ}

/-- All nodes that are reached from a handle through stacks alone have a property, as deep as `depth`
levels. -/
def ThroughStacksTo (P : Node γ → Prop) (s : Scene γ) : Nat → Handle → Prop
  | 0, _ => True
  | depth + 1, h =>
    ∀ node, s.node? h = some node → P node ∧ ∀ child ∈ node.stacked, ThroughStacksTo P s depth child

/-- All nodes that are reached from a handle through stacks alone have a property. -/
def ThroughStacks (P : Node γ → Prop) (s : Scene γ) (h : Handle) : Prop :=
  s.ThroughStacksTo P (s.nodes.size + 1) h

theorem ThroughStacksTo.mono {P : Node γ → Prop} {s : Scene γ} {depth less : Nat} {h : Handle}
    (hThrough : s.ThroughStacksTo P depth h) (hLess : less ≤ depth) : s.ThroughStacksTo P less h := by
  induction less generalizing depth h with
  | zero => trivial
  | succ less ih =>
    obtain ⟨depth, rfl⟩ : ∃ d, depth = d + 1 := Nat.exists_eq_add_of_le' (Nat.le_of_add_left_le hLess)
    intro node hNode
    obtain ⟨hHere, hBelow⟩ := hThrough node hNode
    exact ⟨hHere, fun child hChild => ih (hBelow child hChild) (Nat.le_of_succ_le_succ hLess)⟩

theorem mem_of_node? {s : Scene γ} {h : Handle} {node : Node γ} (hNode : s.node? h = some node) :
    node ∈ s.nodes.toList :=
  Array.mem_toList_iff.mpr (Array.mem_of_getElem? hNode)

/-- What holds of all nodes of a scene holds everywhere under a handle. -/
theorem everywhere_of_forall {P : Node γ → Prop} {s : Scene γ} (hAll : ∀ node ∈ s.nodes.toList, P node)
    (h : Handle) : s.Everywhere P h := by
  have hTo : ∀ depth k, s.EverywhereTo P depth k := by
    intro depth
    induction depth with
    | zero => exact fun _ => trivial
    | succ depth ih =>
      exact fun k node hNode => ⟨hAll node (mem_of_node? hNode), fun child _ => ih child⟩
  exact hTo _ h

/-- What holds everywhere under a handle holds of what is reached through stacks. -/
theorem EverywhereTo.throughStacksTo {P : Node γ → Prop} {s : Scene γ} {depth : Nat} {h : Handle}
    (hEverywhere : s.EverywhereTo P depth h) : s.ThroughStacksTo P depth h := by
  induction depth generalizing h with
  | zero => trivial
  | succ depth ih =>
    intro node hNode
    obtain ⟨hHere, hBelow⟩ := hEverywhere node hNode
    refine ⟨hHere, fun child hChild => ih (hBelow child ?_)⟩
    cases node with
    | stack stack => exact hChild
    | _ => cases hChild

/-- The node is no layout that asks one that scrolls for a window without a lower end: if it is a
layout that does not scroll, then none that scrolls is reached from its output through stacks
alone. -/
def AsksBounded (s : Scene γ) : Node γ → Prop
  | .layout l output _ =>
    l.scroll.enabled = false → s.ThroughStacks (fun node => ¬node.Scrolls) output
  | _ => True

/-- No layout that scrolls has a region or a terminal of more than `limit` rows. -/
def FramesWithin (limit : Nat) (s : Scene γ) : Prop :=
  ∀ h node, s.node? h = some node → node.FrameWithin limit

theorem framesWithin_iff {limit : Nat} {s : Scene γ} :
    s.FramesWithin limit ↔ ∀ node ∈ s.nodes.toList, node.FrameWithin limit := by
  constructor
  · intro hWithin node hMem
    obtain ⟨h, hNode⟩ := Array.mem_iff_getElem?.mp (Array.mem_toList_iff.mp hMem)
    exact hWithin h node hNode
  · intro hWithin h node hNode
    exact hWithin node (mem_of_node? hNode)

/-- The layouts of a scene keep within some limit, which may be as large as one likes. -/
theorem exists_framesWithin (s : Scene γ) (least : Nat) :
    ∃ limit, least ≤ limit ∧ s.FramesWithin limit := by
  have hNodes : ∀ nodes : List (Node γ), ∃ limit, least ≤ limit ∧
      ∀ node ∈ nodes, node.FrameWithin limit := by
    intro nodes
    induction nodes with
    | nil => exact ⟨least, Nat.le_refl least, by simp⟩
    | cons node nodes ih =>
      obtain ⟨limit, hLeast, hRest⟩ := ih
      obtain ⟨own, hOwn⟩ := node.exists_frameWithin
      refine ⟨max own limit, by omega, List.forall_mem_cons.mpr ⟨?_, fun other hOther => ?_⟩⟩
      · exact hOwn.mono (Nat.le_max_left own limit)
      · exact (hRest other hOther).mono (Nat.le_max_right own limit)
  obtain ⟨limit, hLeast, hWithin⟩ := hNodes s.nodes.toList
  exact ⟨limit, hLeast, framesWithin_iff.mpr hWithin⟩

theorem FramesWithin.modifyNode {limit : Nat} {s : Scene γ} (hWithin : s.FramesWithin limit)
    {node : Node γ} (hNode : node.FrameWithin limit) (h : Handle) :
    (s.modifyNode h fun _ => node).FramesWithin limit := by
  intro k other hOther
  rw [node?_modifyNode] at hOther
  split at hOther
  · obtain ⟨-, -, rfl⟩ := Option.map_eq_some_iff.mp hOther
    exact hNode
  · exact hWithin k other hOther

/-! ## Scenes after drawing -/

/-- The layouts of the first scene scroll in the second just if they do in the first. -/
def SameModes (s s' : Scene γ) : Prop :=
  ∀ h layout output fixed, s.node? h = some (.layout layout output fixed) →
    ((layoutSlot h output fixed layout).get s').scroll.enabled = layout.scroll.enabled

/-- What drawing may make of a scene whose layouts keep within a limit. -/
structure DrawnWithin (limit : Nat) (s s' : Scene γ) : Prop where
  sameModes : s.SameModes s'
  framesWithin : s'.FramesWithin limit

namespace DrawnWithin

variable {limit : Nat} {s s' : Scene γ} {h : Handle} {layout : Layout} {output fixed : Handle}

theorem refl (hFirst : s.FramesWithin limit) : s.DrawnWithin limit s where
  sameModes k layout output fixed hNode := by
    simp only [layoutSlot, hNode]
  framesWithin := hFirst

/-- The layout in its place, where that has not been lost. -/
theorem get (hDrawn : s.DrawnWithin limit s') (hFirst : s.FramesWithin limit)
    (hNode : s.node? h = some (.layout layout output fixed)) :
    let l := (layoutSlot h output fixed layout).get s'
    l.scroll.enabled = layout.scroll.enabled ∧ l.FrameWithin limit := by
  refine ⟨hDrawn.sameModes h layout output fixed hNode, ?_⟩
  simp only [layoutSlot]
  split
  · next hNow => exact hDrawn.framesWithin h _ hNow
  · exact hFirst h _ hNode

/-- A node that is no layout may be replaced by another one. -/
theorem modifyNode (hDrawn : s.DrawnWithin limit s') {node node' : Node γ}
    (hNode : s.node? h = some node) (hOther : ∀ layout output fixed, node ≠ .layout layout output fixed)
    (hFrame : node'.FrameWithin limit) :
    s.DrawnWithin limit (s'.modifyNode h fun _ => node') where
  sameModes k layout output fixed hLayout := by
    have hElsewhere : h ≠ k := by
      rintro rfl
      exact hOther _ _ _ (Option.some.inj (hNode.symm.trans hLayout))
    have hKept := hDrawn.sameModes k layout output fixed hLayout
    simpa only [layoutSlot, node?_modifyNode, if_neg hElsewhere] using hKept
  framesWithin := hDrawn.framesWithin.modifyNode hFrame h

/-- A layout may be replaced by one that scrolls just if it does. -/
theorem setLayout (hDrawn : s.DrawnWithin limit s')
    (hNode : s.node? h = some (.layout layout output fixed)) {layout' : Layout}
    (hEnabled : layout'.scroll.enabled = layout.scroll.enabled)
    (hFrame : layout'.FrameWithin limit) :
    s.DrawnWithin limit ((layoutSlot h output fixed layout).set layout' s') where
  sameModes k other output' fixed' hOther := by
    have hKept := hDrawn.sameModes k other output' fixed' hOther
    by_cases hHere : h = k
    · subst hHere
      obtain ⟨rfl, rfl, rfl⟩ := Node.layout.inj (Option.some.inj (hNode.symm.trans hOther))
      simp only [layoutSlot, node?_modifyNode, if_true]
      -- where the node is gone, the layout counts as the first scene has it
      cases s'.node? h with
      | none => rfl
      | some node => exact hEnabled
    · simpa only [layoutSlot, node?_modifyNode, if_neg hHere] using hKept
  framesWithin := by
    have hNew : (Node.layout layout' output fixed : Node γ).FrameWithin limit := hFrame
    exact hDrawn.framesWithin.modifyNode hNew h

/-- What goes to the log concerns no layout. -/
theorem report (hDrawn : s.DrawnWithin limit s') (notices : List Notice) :
    s.DrawnWithin limit (s'.report notices) where
  sameModes := hDrawn.sameModes
  framesWithin := hDrawn.framesWithin

end DrawnWithin

/-! ## Drawing -/

section

variable {limit : Nat} {s : Scene γ} {h : Handle} {layout : Layout} {output fixed : Handle}

/-- An operation may be performed on a layout of the scene if it leaves it within the limit, and
switches scrolling neither on nor off. -/
theorem ensures_perform {α : Type} (hFirst : s.FramesWithin limit)
    (hNode : s.node? h = some (.layout layout output fixed))
    {operation : Layout → StateM (Scene γ) (Outcome α)} {post : α → Prop}
    (hOperation : ∀ l : Layout, l.scroll.enabled = layout.scroll.enabled → l.FrameWithin limit →
      Ensures (s.DrawnWithin limit) (operation l) fun o =>
        (o.layout.scroll.enabled = l.scroll.enabled ∧ o.layout.FrameWithin limit) ∧ post o.result) :
    Ensures (s.DrawnWithin limit)
      (Layout.perform (layoutSlot h output fixed layout) report operation) post := by
  intro s' hDrawn
  obtain ⟨hEnabled, hFrame⟩ := hDrawn.get hFirst hNode
  obtain ⟨⟨⟨hKept, hWithin⟩, hPost⟩, hAfter⟩ := hOperation _ hEnabled hFrame s' hDrawn
  -- the operation may draw the very layout it works on; its own outcome is what is kept of that
  exact ⟨hPost, (hAfter.setLayout hNode (hKept.trans hEnabled) hWithin).report _⟩

variable {outputTree fixedTree : Component (Scene γ)} {tall : Nat}

/-- A layout that scrolls asks its output for no more rows than it is asked for, one that does not
asks for all of them. -/
structure OutputKeeps (s : Scene γ) (limit : Nat) (layout : Layout)
    (outputTree fixedTree : Component (Scene γ)) : Prop where
  fixed : ∀ width, Ensures (s.DrawnWithin limit) (fixedTree.render width) fun _ => True
  scrolled : layout.scroll.enabled = true → outputTree.KeepsUpTo (s.DrawnWithin limit) limit
  stacked : layout.scroll.enabled = false →
    outputTree.KeepsUpTo (s.DrawnWithin limit) Viewport.unboundedHeight.toNat

/-- The window of a layout, which is no taller than the limit if it scrolls, and inside its content if
it does not. -/
theorem ensures_view_layout (hFirst : s.FramesWithin limit)
    (hNode : s.node? h = some (.layout layout output fixed))
    (hParts : s.OutputKeeps limit layout outputTree fixedTree) (width : Int) {v : Viewport}
    (hHeight : layout.scroll.enabled = true → v.height.toNat ≤ limit) :
    Ensures (s.DrawnWithin limit)
      ((Layout.component (layoutSlot h output fixed layout) report outputTree fixedTree).view width v)
      fun w => layout.scroll.enabled = false → w.Inside v := by
  have hDrawn : Ensures (s.DrawnWithin limit)
      (Layout.perform (layoutSlot h output fixed layout) report fun l =>
        l.renderViewport outputTree fixedTree width v)
      fun w => layout.scroll.enabled = false → w.Inside v := by
    refine ensures_perform hFirst hNode fun l hMode hFrame => ?_
    have hScrolled : l.scroll.enabled = true →
        outputTree.KeepsUpTo (s.DrawnWithin limit) v.height.toNat := fun hOn =>
      (hParts.scrolled (hMode.symm.trans hOn)).mono (hHeight (hMode.symm.trans hOn))
    have hStacked := fun hOff => hParts.stacked (hMode.symm.trans hOff)
    refine (l.ensures_renderViewport v hParts.fixed hScrolled hStacked width).mono fun o hOutcome => ?_
    obtain ⟨hAt, hInside⟩ := hOutcome
    refine ⟨⟨hAt.enabled_eq, hAt.frameWithin hFrame fun hOn => hHeight (hMode.symm.trans hOn)⟩, ?_⟩
    exact fun hOff => hInside (hMode.trans hOff)
  exact Component.ensures_view_of_window rfl hDrawn fun w hInside hOff =>
    Component.inside_max (hInside hOff).length_le_rest

theorem keepsUpTo_layout (hFirst : s.FramesWithin limit)
    (hNode : s.node? h = some (.layout layout output fixed))
    (hParts : s.OutputKeeps limit layout outputTree fixedTree)
    (hTall : layout.scroll.enabled = true → tall ≤ limit) :
    (Layout.component (layoutSlot h output fixed layout) report outputTree fixedTree).KeepsUpTo
      (s.DrawnWithin limit) tall where
  render width := by
    have hDrawn : Ensures (s.DrawnWithin limit)
        (Layout.perform (layoutSlot h output fixed layout) report fun l =>
          l.render outputTree fixedTree width) fun _ => True := by
      refine ensures_perform hFirst hNode fun l hMode hFrame => ?_
      -- the frame is as tall as the terminal, which is within the limit, too
      have hRows : l.scroll.enabled = true → l.terminal.rows.toNat ≤ limit := fun hOn =>
        Int.toNat_le.mpr (hFrame hOn).2
      have hScrolled : l.scroll.enabled = true →
          outputTree.KeepsUpTo (s.DrawnWithin limit) l.terminal.rows.toNat := fun hOn =>
        (hParts.scrolled (hMode.symm.trans hOn)).mono (hRows hOn)
      have hStacked := fun hOff => hParts.stacked (hMode.symm.trans hOff)
      refine (l.ensures_compose hParts.fixed hScrolled hStacked width).mono fun o hOutcome => ?_
      obtain ⟨hAt, -⟩ := hOutcome
      exact ⟨⟨hAt.enabled_eq, hAt.frameWithin hFrame hRows⟩, trivial⟩
    exact hDrawn
  view width v hHeight :=
    (ensures_view_layout hFirst hNode hParts width fun hOn => hHeight.trans (hTall hOn)).mono
      fun _ _ => trivial

end

/-- **Drawing a tree keeps its layouts within a limit**, in full or in a window that is within the
limit as well. A taller window does so, too, where no layout that scrolls is reached through stacks
alone. -/
theorem componentAt_keepsUpTo {limit : Nat} {s : Scene γ} (hFirst : s.FramesWithin limit)
    {depth : Nat} {h : Handle} (hDepth : depth ≤ s.nodes.size + 1)
    (hAsks : s.EverywhereTo s.AsksBounded depth h) {tall : Nat}
    (hTall : tall ≤ limit ∨ s.ThroughStacksTo (fun node => ¬node.Scrolls) depth h) :
    (s.componentAt guestComponent depth h).KeepsUpTo (s.DrawnWithin limit) tall := by
  -- for all heights at once: below a layout that does not scroll they are beyond the limit
  induction depth generalizing h tall with
  | zero => exact Component.keepsUpTo_blank tall
  | succ depth ih =>
    have hLess : depth ≤ s.nodes.size + 1 := Nat.le_of_succ_le hDepth
    unfold componentAt
    cases hNode : s.node? h with
    | none => exact Component.keepsUpTo_blank tall
    | some node =>
      obtain ⟨hHere, hBelow⟩ := hAsks node hNode
      cases node with
      | transcript transcript =>
        exact .within (fun s' content hDrawn => hDrawn.modifyNode hNode (by simp) trivial) tall
      | label label =>
        exact .within (fun s' content hDrawn => hDrawn.modifyNode hNode (by simp) trivial) tall
      | guest guest =>
        exact .within (fun s' content hDrawn => hDrawn.modifyNode hNode (by simp) trivial) tall
      -- a stack is the only one to hand on a window that may be taller than the limit
      | stack stack =>
        refine Stack.keepsUpTo_component fun child hChild => ?_
        obtain ⟨k, hMem, rfl⟩ := List.mem_map.mp hChild
        exact ih hLess (hBelow k hMem) (hTall.imp_right fun hThrough => (hThrough _ hNode).2 k hMem)
      | sticky header child =>
        exact (ih hLess (hBelow child List.mem_cons_self) (.inl (Nat.le_refl limit))).withHeader
          header tall
      | layout layout output fixed =>
        have hOutput := hBelow output List.mem_cons_self
        have hFixed := hBelow fixed (List.mem_cons_of_mem _ List.mem_cons_self)
        -- what a layout asks its parts for is its own matter, so the window it is asked for does not
        -- count below it
        refine keepsUpTo_layout hFirst hNode
          { fixed := (ih hLess hFixed (.inl (Nat.le_refl limit))).render
            scrolled := fun _ => ih hLess hOutput (.inl (Nat.le_refl limit))
            stacked := fun hOff => ih hLess hOutput (.inr ((hHere hOff).mono hLess)) } fun hOn => ?_
        exact hTall.resolve_right fun hThrough => (hThrough _ hNode).1 hOn

end Scene

end ScrollPane
