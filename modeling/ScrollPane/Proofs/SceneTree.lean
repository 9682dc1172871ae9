import ScrollPane.Proofs.Parts
import ScrollPane.Scene

/-!
# Trees of a scene

The components under a handle of a scene form a tree, in which a component that is named twice occurs
twice. Where the tree holds no layout and its guests are steady, drawing any of it changes only what
transcripts remember and what guests keep to themselves, never a row that anything shows. So the tree
shows its parts: as often as it is drawn, in full or by the window, and from wherever it is drawn.

## Main definitions

- `Scene.Everywhere`: a property of all nodes of a tree;
- `Scene.parts`: the parts of a tree;
- `Scene.Alike`: scenes between which drawing makes no visible difference.

## Main statements

- `Scene.component_shows`: a tree shows its parts;
- `Scene.component_serves`: without sticky headers, it serves all its rows;
- `Scene.componentAt_invalidate`: what it drops when told to was never seen;
- `Scene.Alike.sheet_eq`: drawing does not change what a tree shows;
- `Scene.view_isWindow`: the rows in a window of a tree, against its full rows.
-/

namespace ScrollPane

variable {γ : Type}

/-! ## Steady components -/

/-- Two states of a guest between which drawing makes no visible difference: both belong to a set of
states in which the guest serves the same rows, and which drawing does not leave. -/
def GuestsAlike (guestComponent : γ → Component γ) (a b : γ) : Prop :=
  ∃ (inv : γ → Prop) (rows : Int → List Text),
    (∀ guest, inv guest → (guestComponent guest).Serves inv rows) ∧ inv a ∧ inv b

/-- A guest serves, in every state that drawing may bring it to, the rows that it draws at first. -/
theorem serves_guestsAlike (guestComponent : γ → Component γ) (a : γ) :
    (guestComponent a).Serves (GuestsAlike guestComponent a)
      fun width => ((guestComponent a).render width a).1 where
  render width b := by
    rintro ⟨inv, rows, hServes, ha, hb⟩
    obtain ⟨hAnswer, hAfter⟩ := (hServes a ha).render width b hb
    obtain ⟨hFirst, -⟩ := (hServes a ha).render width a ha
    exact ⟨hAnswer.trans hFirst.symm, inv, rows, hServes, ha, hAfter⟩
  view width v b := by
    rintro ⟨inv, rows, hServes, ha, hb⟩
    obtain ⟨hAnswer, hAfter⟩ := (hServes a ha).view width v b hb
    obtain ⟨hFirst, -⟩ := (hServes a ha).render width a ha
    refine ⟨?_, inv, rows, hServes, ha, hAfter⟩
    rw [hAnswer, hFirst]

/-- A node whose rows are not changed by drawing it. Layouts scroll as they are drawn, so they are
not steady. -/
def Node.Steady (guestComponent : γ → Component γ) : Node γ → Prop
  | .layout .. => False
  | .guest g => GuestsAlike guestComponent g g
  | _ => True

/-- The node is no block with a sticky header. -/
def Node.NotSticky : Node γ → Prop
  | .sticky .. => False
  | _ => True

/-- The handles of the components that a node draws. -/
def Node.children : Node γ → List Handle
  | .stack children => children.children
  | .sticky _ child => [child]
  | .layout _ output fixed => [output, fixed]
  | _ => []

/-- What drawing may make of a node. -/
inductive Node.Alike (guestComponent : γ → Component γ) : Node γ → Node γ → Prop where
  | refl (node : Node γ) : Alike guestComponent node node
  | transcript {t t' : Transcript} (hLines : t'.lines = t.lines) :
      Alike guestComponent (.transcript t) (.transcript t')
  | guest {a b : γ} (h : GuestsAlike guestComponent a b) :
      Alike guestComponent (.guest a) (.guest b)

section

variable {guestComponent : γ → Component γ}

theorem GuestsAlike.steady {a b : γ} (h : GuestsAlike guestComponent a b) :
    GuestsAlike guestComponent b b := by
  obtain ⟨inv, rows, hServes, -, hb⟩ := h
  exact ⟨inv, rows, hServes, hb, hb⟩

theorem GuestsAlike.render_eq {a b : γ} (h : GuestsAlike guestComponent a b) (width : Int) :
    ((guestComponent b).render width b).1 = ((guestComponent a).render width a).1 := by
  obtain ⟨inv, rows, hServes, ha, hb⟩ := h
  exact ((hServes b hb).render width b hb).1.trans ((hServes a ha).render width a ha).1.symm

theorem Node.Alike.steady {node node' : Node γ} (hRel : Node.Alike guestComponent node node')
    (hSteady : node.Steady guestComponent) : node'.Steady guestComponent := by
  cases hRel with
  | refl => exact hSteady
  | transcript _ => trivial
  | guest h => exact h.steady

theorem Node.Alike.notSticky {node node' : Node γ} (hRel : Node.Alike guestComponent node node')
    (hPlain : node.NotSticky) : node'.NotSticky := by
  cases hRel with
  | refl => exact hPlain
  | _ => trivial

theorem Node.Alike.children_eq {node node' : Node γ} (hRel : Node.Alike guestComponent node node') :
    node'.children = node.children := by
  cases hRel <;> rfl

end

namespace Scene

variable {guestComponent : γ → Component γ}

/-! ## Trees -/

/-- All nodes under a handle have a property, as deep as `depth` levels. -/
def EverywhereTo (P : Node γ → Prop) (s : Scene γ) : Nat → Handle → Prop
  | 0, _ => True
  | depth + 1, h =>
    ∀ node, s.node? h = some node → P node ∧ ∀ child ∈ node.children, EverywhereTo P s depth child

/-- All nodes under a handle have a property. -/
def Everywhere (P : Node γ → Prop) (s : Scene γ) (h : Handle) : Prop :=
  s.EverywhereTo P (s.nodes.size + 1) h

/-- The parts of the tree under a handle, as deep as `depth` levels. Stacks are taken apart, blocks
with a sticky header are not. -/
def partsTo (guestComponent : γ → Component γ) (s : Scene γ) : Nat → Handle → Int → List Part
  | 0, _ => fun _ => []
  | depth + 1, h =>
    let inner := partsTo guestComponent s depth
    match s.node? h with
    | none | some (.layout ..) => fun _ => []
    | some (.transcript transcript) => fun width =>
      [{ rows := transcript.lines.map (Text.clip · width) }]
    | some (.label label) => fun width => [{ rows := label.lines.map (Text.clip · width) }]
    | some (.stack stack) => fun width => stack.children.flatMap (inner · width)
    | some (.sticky header child) => fun width =>
      [{ header? := some header, rows := Part.rowsOf (inner child width) }]
    | some (.guest guest) => fun width => [{ rows := ((guestComponent guest).render width guest).1 }]

/-- The parts of the tree under a handle. -/
def parts (guestComponent : γ → Component γ) (s : Scene γ) (h : Handle) (width : Int) : List Part :=
  s.partsTo guestComponent (s.nodes.size + 1) h width

/-! ## Scenes that look alike -/

theorem node?_modifyNode (s : Scene γ) (h k : Handle) (f : Node γ → Node γ) :
    (s.modifyNode h f).node? k = if h = k then (s.node? k).map f else s.node? k := by
  simp [modifyNode, node?, Array.getElem?_modify]

/-- Drawing may make the second scene of the first. -/
structure Alike (guestComponent : γ → Component γ) (s s' : Scene γ) : Prop where
  size_eq : s'.nodes.size = s.nodes.size
  node : ∀ h node, s.node? h = some node →
    ∃ node', s'.node? h = some node' ∧ Node.Alike guestComponent node node'

namespace Alike

theorem refl (s : Scene γ) : s.Alike guestComponent s where
  size_eq := rfl
  node _ node hNode := ⟨node, hNode, .refl node⟩

theorem node?_none {s s' : Scene γ} (hAlike : s.Alike guestComponent s') {h : Handle}
    (hNode : s.node? h = none) : s'.node? h = none := by
  unfold node? at *
  rw [Array.getElem?_eq_none_iff] at *
  rw [hAlike.size_eq]
  exact hNode

/-- A node may be replaced by one that drawing may make of it. -/
theorem modifyNode {s s' : Scene γ} (hAlike : s.Alike guestComponent s') {h : Handle}
    {node node' : Node γ} (hNode : s.node? h = some node)
    (hAfter : Node.Alike guestComponent node node') :
    s.Alike guestComponent (s'.modifyNode h fun _ => node') where
  size_eq := by
    rw [← hAlike.size_eq]
    exact Array.size_modify
  node k other hOther := by
    obtain ⟨other', hOther', hRel⟩ := hAlike.node k other hOther
    rw [node?_modifyNode, hOther']
    -- one handle is given the new node; all others keep what drawing has made of theirs so far
    split
    · next hSame =>
      subst hSame
      obtain rfl := Option.some.inj (hNode.symm.trans hOther)
      exact ⟨node', rfl, hAfter⟩
    · exact ⟨other', rfl, hRel⟩

end Alike

/-! ## Leaves in their places -/

section

variable {s s' : Scene γ} {h : Handle}

theorem Alike.get_transcript (hAlike : s.Alike guestComponent s') {t : Transcript}
    (hNode : s.node? h = some (.transcript t)) : ((transcriptSlot h t).get s').lines = t.lines := by
  obtain ⟨node', hNode', hRel⟩ := hAlike.node h _ hNode
  simp only [transcriptSlot, hNode']
  cases hRel with
  | refl => rfl
  | transcript hLines => exact hLines

theorem Alike.set_transcript (hAlike : s.Alike guestComponent s') {t t' : Transcript}
    (hNode : s.node? h = some (.transcript t)) (hLines : t'.lines = t.lines) :
    s.Alike guestComponent ((transcriptSlot h t).set t' s') :=
  hAlike.modifyNode hNode (.transcript hLines)

theorem Alike.get_label (hAlike : s.Alike guestComponent s') {label : Label}
    (hNode : s.node? h = some (.label label)) : (labelSlot h label).get s' = label := by
  obtain ⟨node', hNode', hRel⟩ := hAlike.node h _ hNode
  cases hRel
  simp only [labelSlot, hNode']

theorem Alike.set_label (hAlike : s.Alike guestComponent s') {label : Label}
    (hNode : s.node? h = some (.label label)) :
    s.Alike guestComponent ((labelSlot h label).set label s') :=
  hAlike.modifyNode hNode (.refl _)

theorem Alike.get_guest (hAlike : s.Alike guestComponent s') {guest : γ}
    (hNode : s.node? h = some (.guest guest)) (hSteady : GuestsAlike guestComponent guest guest) :
    GuestsAlike guestComponent guest ((guestSlot h guest).get s') := by
  obtain ⟨node', hNode', hRel⟩ := hAlike.node h _ hNode
  simp only [guestSlot, hNode']
  cases hRel with
  | refl => exact hSteady
  | guest hAfter => exact hAfter

theorem Alike.set_guest (hAlike : s.Alike guestComponent s') {guest guest' : γ}
    (hNode : s.node? h = some (.guest guest)) (hAfter : GuestsAlike guestComponent guest guest') :
    s.Alike guestComponent ((guestSlot h guest).set guest' s') :=
  hAlike.modifyNode hNode (.guest hAfter)

theorem transcript_shows {t : Transcript} (hNode : s.node? h = some (.transcript t)) :
    (Transcript.component.within (transcriptSlot h t)).Serves (s.Alike guestComponent)
      fun width => t.lines.map (Text.clip · width) := by
  refine (Transcript.serves t.lines).within ?_ ?_
  · intro s' hAlike
    exact hAlike.get_transcript hNode
  · intro s' t' hAlike hLines
    exact hAlike.set_transcript hNode hLines

theorem label_shows {label : Label} (hNode : s.node? h = some (.label label)) :
    (Label.component.within (labelSlot h label)).Serves (s.Alike guestComponent)
      fun width => label.lines.map (Text.clip · width) := by
  refine label.serves.within ?_ ?_
  · intro s' hAlike
    exact hAlike.get_label hNode
  · rintro s' _ hAlike rfl
    exact hAlike.set_label hNode

theorem guest_shows {guest : γ} (hNode : s.node? h = some (.guest guest))
    (hSteady : GuestsAlike guestComponent guest guest) :
    ((guestComponent guest).within (guestSlot h guest)).Serves (s.Alike guestComponent)
      fun width => ((guestComponent guest).render width guest).1 := by
  -- the guest may have been drawn already; it is then another one, but alike
  refine (serves_guestsAlike guestComponent guest).within ?_ ?_
  · intro s' hAlike
    exact hAlike.get_guest hNode hSteady
  · intro s' guest' hAlike hAfter
    exact hAlike.set_guest hNode hAfter

end

/-! ## Drawing a tree -/

/-- A tree of steady nodes shows its parts in all scenes that drawing may make of its own. -/
theorem componentAt_shows {s : Scene γ} {depth : Nat} {h : Handle}
    (hSteady : s.EverywhereTo (Node.Steady guestComponent) depth h) :
    (s.componentAt guestComponent depth h).Shows (s.Alike guestComponent)
      (s.partsTo guestComponent depth h) := by
  -- The worlds are the scenes alike to `s` all the way down: a child is drawn in a world that its
  -- siblings have changed already, and has to show the same there.
  induction depth generalizing h with
  | zero => exact Component.shows_blank
  | succ depth ih =>
    unfold componentAt partsTo
    cases hNode : s.node? h with
    | none => exact Component.shows_blank
    | some node =>
      obtain ⟨hHere, hBelow⟩ := hSteady node hNode
      cases node with
      | transcript t => exact (transcript_shows hNode).shows
      | label label => exact (label_shows hNode).shows
      | stack stack =>
        exact Stack.shows_component stack.children fun child hChild => ih (hBelow child hChild)
      | sticky header child => exact (ih (hBelow child List.mem_cons_self)).withHeader header
      | layout layout output fixed => exact hHere.elim
      | guest guest => exact (guest_shows hNode hHere).shows

/-- A tree of steady nodes shows its parts, as often as any of it is drawn. -/
theorem component_shows {s : Scene γ} {h : Handle}
    (hSteady : s.Everywhere (Node.Steady guestComponent) h) :
    (s.component guestComponent h).Shows (s.Alike guestComponent) (s.parts guestComponent h) :=
  componentAt_shows hSteady

/-- What the tree under a handle shows in full, at each width. -/
def sheet (guestComponent : γ → Component γ) (s : Scene γ) (h : Handle) : Sheet := fun width =>
  ((s.component guestComponent h).render width s).1

theorem sheet_eq_rowsOf {s : Scene γ} {h : Handle}
    (hSteady : s.Everywhere (Node.Steady guestComponent) h) :
    s.sheet guestComponent h = fun width => Part.rowsOf (s.parts guestComponent h width) :=
  funext fun width => ((component_shows hSteady).render width s (Alike.refl s)).1

/-- A tree without sticky headers has no part with a header. -/
theorem partsTo_no_header {s : Scene γ} {depth : Nat} {h : Handle}
    (hPlain : s.EverywhereTo Node.NotSticky depth h) (width : Int) :
    ∀ p ∈ s.partsTo guestComponent depth h width, p.header? = none := by
  induction depth generalizing h with
  | zero => intro p hp; exact absurd hp List.not_mem_nil
  | succ depth ih =>
    intro p hp
    unfold partsTo at hp
    cases hNode : s.node? h with
    | none => simp [hNode] at hp
    | some node =>
      obtain ⟨hHere, hBelow⟩ := hPlain node hNode
      cases node with
      | stack stack =>
        simp only [hNode, List.mem_flatMap] at hp
        obtain ⟨child, hChild, hp⟩ := hp
        exact ih (hBelow child hChild) p hp
      | sticky header child => exact hHere.elim
      | layout layout output fixed => simp [hNode] at hp
      | _ =>
        simp only [hNode, List.mem_singleton] at hp
        rw [hp]

/-- A tree of steady nodes without sticky headers serves what it shows in full. -/
theorem component_serves {s : Scene γ} {h : Handle}
    (hSteady : s.Everywhere (Node.Steady guestComponent) h) (hPlain : s.Everywhere Node.NotSticky h) :
    (s.component guestComponent h).Serves (s.Alike guestComponent) (s.sheet guestComponent h) := by
  rw [sheet_eq_rowsOf hSteady]
  exact (component_shows hSteady).serves fun width => partsTo_no_header hPlain width

/-! ## Invalidating a tree -/

/-- What guests drop when they are told to is nothing that they show. -/
def GuestsDropUnseen (guestComponent : γ → Component γ) : Prop :=
  ∀ a b, GuestsAlike guestComponent a b →
    GuestsAlike guestComponent a ((guestComponent a).invalidate b).2

/-- Telling a tree of steady nodes to drop what it remembers makes no visible difference. -/
theorem componentAt_invalidate (hGuests : GuestsDropUnseen guestComponent) {s : Scene γ} {depth : Nat}
    {h : Handle} (hSteady : s.EverywhereTo (Node.Steady guestComponent) depth h) :
    Answers (s.Alike guestComponent) (s.componentAt guestComponent depth h).invalidate () := by
  induction depth generalizing h with
  | zero => exact Answers.pure ()
  | succ depth ih =>
    unfold componentAt
    cases hNode : s.node? h with
    | none => exact Answers.pure ()
    | some node =>
      obtain ⟨hHere, hBelow⟩ := hSteady node hNode
      cases node with
      | transcript t =>
        intro s' hAlike
        exact ⟨rfl, hAlike.set_transcript hNode (hAlike.get_transcript hNode)⟩
      | label label =>
        intro s' hAlike
        have hLabel := hAlike.get_label hNode
        refine ⟨rfl, ?_⟩
        show s.Alike guestComponent ((labelSlot h label).set ((labelSlot h label).get s') s')
        rw [hLabel]
        exact hAlike.set_label hNode
      | stack stack =>
        exact Stack.answers_invalidate stack.children fun child hChild => ih (hBelow child hChild)
      | sticky header child => exact ih (hBelow child List.mem_cons_self)
      | layout layout output fixed => exact hHere.elim
      | guest guest =>
        intro s' hAlike
        exact ⟨rfl, hAlike.set_guest hNode (hGuests _ _ (hAlike.get_guest hNode hHere))⟩

/-! ## After drawing -/

/-- A property of nodes that drawing keeps holds of a tree after drawing if it did before. -/
theorem Alike.everywhereTo {P : Node γ → Prop} {s s' : Scene γ} (hAlike : s.Alike guestComponent s')
    (hKeeps : ∀ node node', Node.Alike guestComponent node node' → P node → P node') {depth : Nat}
    {h : Handle} (hBefore : s.EverywhereTo P depth h) : s'.EverywhereTo P depth h := by
  induction depth generalizing h with
  | zero => trivial
  | succ depth ih =>
    intro node' hNode'
    cases hNode : s.node? h with
    | none => rw [hAlike.node?_none hNode] at hNode'; cases hNode'
    | some node =>
      obtain ⟨hHere, hBelow⟩ := hBefore node hNode
      obtain ⟨drawn, hDrawn, hRel⟩ := hAlike.node h node hNode
      obtain rfl := Option.some.inj (hDrawn.symm.trans hNode')
      -- drawing rewires nothing, so the children are the same
      refine ⟨hKeeps node drawn hRel hHere, fun child hChild => ih (hBelow child ?_)⟩
      rwa [hRel.children_eq] at hChild

theorem Alike.everywhere {P : Node γ → Prop} {s s' : Scene γ} (hAlike : s.Alike guestComponent s')
    (hKeeps : ∀ node node', Node.Alike guestComponent node node' → P node → P node') {h : Handle}
    (hBefore : s.Everywhere P h) : s'.Everywhere P h := by
  unfold Everywhere
  rw [hAlike.size_eq]
  exact hAlike.everywhereTo hKeeps hBefore

/-- Drawing does not change the parts of a tree. -/
theorem Alike.partsTo_eq {s s' : Scene γ} (hAlike : s.Alike guestComponent s') (depth : Nat)
    (h : Handle) : s'.partsTo guestComponent depth h = s.partsTo guestComponent depth h := by
  induction depth generalizing h with
  | zero => rfl
  | succ depth ih =>
    unfold partsTo
    have hInner : s'.partsTo guestComponent depth = s.partsTo guestComponent depth := funext ih
    rw [hInner]
    cases hNode : s.node? h with
    | none => rw [hAlike.node?_none hNode]
    | some node =>
      obtain ⟨node', hNode', hRel⟩ := hAlike.node h node hNode
      rw [hNode']
      cases hRel with
      | refl => rfl
      | transcript hLines => simp only [hLines]
      | guest hGuests =>
        simp only [hGuests.render_eq]

theorem Alike.parts_eq {s s' : Scene γ} (hAlike : s.Alike guestComponent s') (h : Handle) :
    s'.parts guestComponent h = s.parts guestComponent h := by
  unfold parts
  rw [hAlike.size_eq, hAlike.partsTo_eq]

theorem Alike.sheet_eq {s s' : Scene γ} {h : Handle} (hAlike : s.Alike guestComponent s')
    (hSteady : s.Everywhere (Node.Steady guestComponent) h) :
    s'.sheet guestComponent h = s.sheet guestComponent h := by
  have hSteady' := hAlike.everywhere (fun _ _ => Node.Alike.steady) hSteady
  rw [sheet_eq_rowsOf hSteady', sheet_eq_rowsOf hSteady, hAlike.parts_eq]

/-! ## Windows -/

/-- **Windows of a tree.** The rows of a tree's window are those of the full rendering inside the
viewport, apart from a header pinned in the first of them; where no header can be pinned, they are
just those rows. It makes no difference whether the tree has been drawn in full before. -/
theorem view_isWindow (guestComponent : γ → Component γ) (s : Scene γ) (h : Handle) (width : Int)
    (v : Viewport) (hSteady : s.Everywhere (Node.Steady guestComponent) h) :
    let tree := s.component guestComponent h
    let full := (tree.render width s).1
    let parts := s.parts guestComponent h width
    full = Part.rowsOf parts ∧
      ∀ s' ∈ [s, (tree.render width s).2],
        Part.IsWindow parts v (tree.view width v s').1 ∧
          (s.Everywhere Node.NotSticky h →
            (tree.view width v s').1.rows = (full.drop v.top.toNat).take v.height.toNat) := by
  intro tree full parts
  have hShows := component_shows hSteady
  obtain ⟨hFull, hDrawn⟩ := hShows.render width s (Alike.refl s)
  refine ⟨hFull, fun s' hMem => ?_⟩
  have hAlike : s.Alike guestComponent s' := by
    simp only [List.mem_cons, List.not_mem_nil, or_false] at hMem
    rcases hMem with rfl | rfl
    · exact Alike.refl s'
    · exact hDrawn
  obtain ⟨hWindow, -⟩ := hShows.view width v s' hAlike
  refine ⟨?_, fun hPlain => ?_⟩
  · -- each row of the window is found from the parts
    rw [hWindow]
    exact Part.isWindow_windowOf parts v
  · rw [hWindow, show full = Part.rowsOf parts from hFull]
    exact Part.windowOf_of_no_header (partsTo_no_header hPlain width) _ _

/-- Guests that are sheets. -/
def sheetGuest (_ : Sheet) : Component Sheet := Sheet.component

theorem sheetGuest_steady (sheet : Sheet) : GuestsAlike sheetGuest sheet sheet :=
  ⟨(· = sheet), sheet, fun _ _ => sheet.serves, rfl, rfl⟩

/-- A stack in a stack: a label above and below a block whose second line is its header, then a
guest. -/
def sample : Scene Sheet where
  nodes := #[
    .label { lines := [['a'], ['b']] },
    .transcript (.ofLines [[], ['h'], ['x'], ['y']]),
    .sticky {} 1,
    .stack { children := [0, 2, 0] },
    .guest fun _ => [['g']],
    .stack { children := [3, 4] }]

theorem sample_steady : sample.Everywhere (Node.Steady sheetGuest) 5 := by
  simp [Everywhere, EverywhereTo, sample, node?, Node.Steady, Node.children, sheetGuest_steady]

/-- In a window from the third line of the block on, the header line stands in its place. -/
theorem view_isWindow_sample :
    let v : Viewport := { width := 80, height := 3, top := 4 }
    let w := ((sample.component sheetGuest 5).view 80 v sample).1
    sample.Everywhere (Node.Steady sheetGuest) 5 ∧
      Part.IsWindow (sample.parts sheetGuest 5 80) v w ∧
      w = { rows := [['h'], ['y'], ['a']], contentHeight := 9 } :=
  ⟨sample_steady,
    ((view_isWindow sheetGuest sample 5 80 { width := 80, height := 3, top := 4 }
      sample_steady).2 sample List.mem_cons_self).1,
    by decide +kernel⟩

end Scene

end ScrollPane
