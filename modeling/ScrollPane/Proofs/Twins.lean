import ScrollPane.Layout.Run
import ScrollPane.Proofs.SceneTree
import ScrollPane.Proofs.ShownFrames

/-!
# Twin layouts

Two layouts are twins if the output of one draws windows of some rows and the output of the other can
only draw the same rows in full. Asking for a window that may be stale, settling the offset by the
answer and asking again then comes to the same as drawing everything and slicing once. So whatever
happens to both, twins show the same frames, give the same answers and are in the same state.

The two live in different worlds, and drawing changes only what the first remembers. The worlds are
therefore compared by a relation that each side keeps on its own while the other waits.

## Main definitions

- `Agree`: two actions that answer the same in related worlds;
- `Component.Twins`: two components that serve the same rows, each in its own world;
- `Layout.SharedEvent`: what can happen to twin layouts.

## Main statements

- `Layout.answers_settleOutput`: the output window of an output that serves rows;
- `Layout.agree_step`: a command answers the same for twins;
- `Layout.run_tree_eq_run_sheet`: so do whole runs.
-/

namespace ScrollPane

variable {σ τ α β γ φ : Type}

/-! ## Actions side by side -/

/-- In related worlds the two actions answer the same, and they leave related worlds. -/
def Agree (R : σ → τ → Prop) (m : StateM σ α) (m' : StateM τ α) : Prop :=
  ∀ w w', R w w' → (m w).1 = (m' w').1 ∧ R (m w).2 (m' w').2

namespace Agree

variable {R : σ → τ → Prop}

protected theorem pure (a : α) : Agree R (pure a) (pure a) :=
  fun _ _ hR => ⟨rfl, hR⟩

protected theorem bind {m : StateM σ α} {m' : StateM τ α} {next : α → StateM σ β}
    {next' : α → StateM τ β} (h : Agree R m m') (hNext : ∀ a, Agree R (next a) (next' a)) :
    Agree R (m >>= next) (m' >>= next') := by
  intro w w' hR
  obtain ⟨hAnswer, hAfter⟩ := h w w' hR
  rw [bind_apply, bind_apply, hAnswer]
  exact hNext _ _ _ hAfter

/-- Two actions that give the same answer agree if each keeps the worlds related on its own. -/
theorem of_answers {m : StateM σ α} {m' : StateM τ α} {a : α} (h : ∀ w', Answers (R · w') m a)
    (h' : ∀ w, Answers (R w) m' a) : Agree R m m' := by
  intro w w' hR
  -- first the left one acts while the right world waits, then the other way round
  obtain ⟨hAnswer, hLeft⟩ := h w' w hR
  obtain ⟨hAnswer', hBoth⟩ := h' (m w).2 w' hLeft
  exact ⟨hAnswer.trans hAnswer'.symm, hBoth⟩

end Agree

/-- Two components that serve the same rows, each while the world of the other stays as it is. -/
structure Component.Twins (R : σ → τ → Prop) (rows : Int → List Text) (c : Component σ)
    (c' : Component τ) : Prop where
  left : ∀ w', c.Serves (R · w') rows
  right : ∀ w, c'.Serves (R w) rows

namespace Layout

/-! ## Frames of twins -/

/-- An output that serves rows gives the rows at the settled offset, whether it is asked for them
once, twice, or draws itself in full. -/
theorem answers_settleOutput {inv : σ → Prop} {output : Component σ} {rows : Int → List Text}
    (h : output.Serves inv rows) (scroll : Scroll) (width : Int) (height : Nat) :
    let offset := scroll.settle (rows width).length height
    Answers inv (settleOutput scroll output width height)
      { rows := ((rows width).drop offset.toNat).take height
        offset
        contentHeight := (rows width).length } := by
  refine (answers_settleOutput_of_shows h.shows scroll width height).of_eq ?_
  simp only [OutputWindow.ofParts, Part.rowsOf_cons, Part.rowsOf_nil, List.append_nil]
  rw [Part.windowOf_of_no_header (by simp)]
  simp only [Part.rowsOf_cons, Part.rowsOf_nil, List.append_nil]

section

variable {R : σ → τ → Prop} {rows : Int → List Text} {output fixed : Component σ}
  {output' fixed' : Component τ}

theorem agree_composeScrolled (l : Layout) (hOutput : Component.Twins R rows output output')
    (fixedRows : List Text) (width : Int) (height : Nat) :
    Agree R (l.composeScrolled output fixedRows width height)
      (l.composeScrolled output' fixedRows width height) := by
  unfold composeScrolled
  refine Agree.bind ?_ fun window => Agree.pure _
  exact Agree.of_answers (fun w' => answers_settleOutput (hOutput.left w') l.scroll width _)
    fun w => answers_settleOutput (hOutput.right w) l.scroll width _

theorem agree_composeStacked (l : Layout) (hOutput : Component.Twins R rows output output')
    (fixedRows : List Text) (width : Int) :
    Agree R (l.composeStacked output fixedRows width)
      (l.composeStacked output' fixedRows width) := by
  unfold composeStacked
  refine Agree.bind ?_ fun window => Agree.pure _
  exact Agree.of_answers (fun w' => (hOutput.left w').view width _)
    fun w => (hOutput.right w).view width _

/-- Twins compose the same frames. -/
theorem agree_compose (l : Layout) (hOutput : Component.Twins R rows output output')
    (hFixed : ∀ width, Agree R (fixed.render width) (fixed'.render width)) (width : Int)
    (height : Nat) :
    Agree R (l.compose output fixed width height) (l.compose output' fixed' width height) := by
  unfold compose
  refine (hFixed width).bind fun fixedRows => ?_
  dsimp only
  split
  · exact agree_composeScrolled _ hOutput fixedRows width height
  · exact agree_composeStacked _ hOutput fixedRows width

/-- Twins answer each command alike, and are in the same state after it. -/
theorem agree_step (l : Layout) (hOutput : Component.Twins R rows output output')
    (hFixed : ∀ width, Agree R (fixed.render width) (fixed'.render width)) {c : Command}
    (hDraws : c ≠ .invalidate) : Agree R (l.step output fixed c) (l.step output' fixed' c) := by
  cases c with
  | invalidate => exact absurd rfl hDraws
  | render width => exact (agree_compose l hOutput hFixed width _).bind fun _ => Agree.pure _
  | renderViewport width v =>
    refine Agree.bind ?_ fun _ => Agree.pure _
    exact (agree_compose l hOutput hFixed width _).bind fun _ => Agree.pure _
  | _ => exact Agree.pure _

end

end Layout

/-! ## Worlds of twins -/

/-- The place of the output in a world that is the output's and the fixed part's. -/
def Slot.output : Slot (α × β) α where
  get := Prod.fst
  set content world := (content, world.2)

/-- The place of the fixed part in such a world. -/
def Slot.fixed : Slot (α × β) β where
  get := Prod.snd
  set content world := (world.1, content)

/-- A tree that serves its rows: no layouts, no sticky headers, and guests that are steady. -/
structure Scene.Serving (guestComponent : γ → Component γ) (h : Handle) (s : Scene γ) : Prop where
  steady : s.Everywhere (Node.Steady guestComponent) h
  notSticky : s.Everywhere Node.NotSticky h

/-- Drawing leaves a tree one that serves its rows. -/
theorem Scene.Serving.of_alike {guestComponent : γ → Component γ} {h : Handle} {s s' : Scene γ}
    (hServing : s.Serving guestComponent h) (hAlike : s.Alike guestComponent s') :
    s'.Serving guestComponent h where
  steady := hAlike.everywhere (fun _ _ => Node.Alike.steady) hServing.steady
  notSticky := hAlike.everywhere (fun _ _ => Node.Alike.notSticky) hServing.notSticky

namespace Layout

/-- An output that is a tree of a scene. -/
def treeOutput (guestComponent : γ → Component γ) (h : Handle) (world : Scene γ × φ) :
    Component (Scene γ × φ) :=
  (world.1.component guestComponent h).within .output

/-- An output that is a sheet. -/
def sheetOutput : Component (Sheet × φ) := Sheet.component.within .output

/-- What can happen to twins. -/
inductive SharedEvent (γ φ : Type) where
  /-- Both are given a command. -/
  | command (c : Command)
  /-- Both outputs change: to a tree, whatever it remembers, and to a sheet of its rows. -/
  | output (scene : Scene γ)
  /-- Both fixed parts change. -/
  | fixed (f : φ → φ)

namespace SharedEvent

/-- What happens to the twin whose output is a tree. -/
def toTree : SharedEvent γ φ → Event (Scene γ × φ)
  | .command c => .command c
  | .output scene => .change fun world => (scene, world.2)
  | .fixed f => .change fun world => (world.1, f world.2)

/-- What happens to the twin whose output is a sheet. -/
def toSheet (guestComponent : γ → Component γ) (h : Handle) : SharedEvent γ φ → Event (Sheet × φ)
  | .command c => .command c
  | .output scene => .change fun world => (scene.sheet guestComponent h, world.2)
  | .fixed f => .change fun world => (world.1, f world.2)

/-- The events that leave twins alike: outputs have to serve their rows. Dropping what is remembered
is up to the components, so it is left out. -/
def Allowed (guestComponent : γ → Component γ) (h : Handle) : SharedEvent γ φ → Prop
  | .command c => c ≠ .invalidate
  | .output scene => scene.Serving guestComponent h
  | .fixed _ => True

end SharedEvent

/-- The worlds of twins: the sheet has the rows of the tree, and the fixed parts are the same. -/
structure Mirrors (guestComponent : γ → Component γ) (h : Handle) (world : Scene γ × φ)
    (world' : Sheet × φ) : Prop where
  serving : world.1.Serving guestComponent h
  sheet_eq : world'.1 = world.1.sheet guestComponent h
  fixed_eq : world'.2 = world.2

section

variable {guestComponent : γ → Component γ} {h : Handle} {fixed : Component φ}

/-- The worlds that drawing twins leads to from a scene. -/
def Drawn (guestComponent : γ → Component γ) (h : Handle) (s : Scene γ) (world : Scene γ × φ)
    (world' : Sheet × φ) : Prop :=
  s.Alike guestComponent world.1 ∧ world'.1 = s.sheet guestComponent h ∧ world'.2 = world.2

/-- Drawing leads to worlds of twins again, though the scene in them may be another one. -/
theorem Drawn.mirrors {s : Scene γ} {world : Scene γ × φ} {world' : Sheet × φ}
    (hServing : s.Serving guestComponent h) (hDrawn : Drawn guestComponent h s world world') :
    Mirrors guestComponent h world world' := by
  obtain ⟨hAlike, hSheet, hFixed⟩ := hDrawn
  exact {
    serving := hServing.of_alike hAlike
    sheet_eq := hSheet.trans (hAlike.sheet_eq hServing.steady).symm
    fixed_eq := hFixed }

/-- The outputs of twins serve the same rows. -/
theorem twins_output {world : Scene γ × φ} (hServing : world.1.Serving guestComponent h) :
    Component.Twins (Drawn guestComponent h world.1) (world.1.sheet guestComponent h)
      (treeOutput guestComponent h world) sheetOutput where
  left world' := by
    refine (Scene.component_serves hServing.steady hServing.notSticky).within ?_ ?_
    · intro w hDrawn
      exact hDrawn.1
    · intro w scene hDrawn hAlike
      exact ⟨hAlike, hDrawn.2⟩
  right w := by
    refine (Sheet.serves (world.1.sheet guestComponent h)).within ?_ ?_
    · intro world' hDrawn
      exact hDrawn.2.1
    · rintro world' _ hDrawn rfl
      exact ⟨hDrawn.1, rfl, hDrawn.2.2⟩

/-- The fixed parts of twins are drawn alike. -/
theorem agree_fixed (s : Scene γ) (width : Int) :
    Agree (Drawn guestComponent h s) ((fixed.within .fixed).render width)
      ((fixed.within .fixed).render width) := by
  rintro ⟨scene, content⟩ ⟨sheet, content'⟩ ⟨hAlike, hSheet, hContent⟩
  obtain rfl : content' = content := hContent
  exact ⟨rfl, hAlike, hSheet, rfl⟩

/-- After each command twins have given the same answer and are in the same state. -/
theorem step_mirrors (fixed : Component φ) {world : Scene γ × φ} {world' : Sheet × φ}
    (hWorlds : Mirrors guestComponent h world world') (l : Layout) {c : Command}
    (hDraws : c ≠ .invalidate) :
    let o := l.step (treeOutput guestComponent h world) (fixed.within .fixed) c world
    let o' := l.step sheetOutput (fixed.within .fixed) c world'
    o.1 = o'.1 ∧ Mirrors guestComponent h o.2 o'.2 := by
  intro o o'
  -- the components are those of the scene as the command finds it, so the relation starts anew there
  have hStart : Drawn guestComponent h world.1 world world' :=
    ⟨Scene.Alike.refl world.1, hWorlds.sheet_eq, hWorlds.fixed_eq⟩
  obtain ⟨hAnswer, hAfter⟩ := agree_step l (twins_output hWorlds.serving)
    (agree_fixed world.1) hDraws world world' hStart
  exact ⟨hAnswer, hAfter.mirrors hWorlds.serving⟩

/-- Runs from worlds of twins have the same outcomes. -/
theorem run_mirrors {world : Scene γ × φ} {world' : Sheet × φ}
    (hWorlds : Mirrors guestComponent h world world') (l : Layout)
    (events : List (SharedEvent γ φ)) (hEvents : ∀ e ∈ events, e.Allowed guestComponent h) :
    (run (treeOutput guestComponent h) (fun _ => fixed.within .fixed) l
        (events.map SharedEvent.toTree) world).1 =
      (run (fun _ => sheetOutput) (fun _ => fixed.within .fixed) l
        (events.map (SharedEvent.toSheet guestComponent h)) world').1 := by
  induction events generalizing l world world' with
  | nil => rfl
  | cons e events ih =>
    obtain ⟨hEvent, hLater⟩ := List.forall_mem_cons.mp hEvents
    cases e with
    | command c =>
      obtain ⟨hAnswer, hAfter⟩ := step_mirrors fixed hWorlds l hEvent
      have hRest := ih hAfter
      simp only [List.map_cons, SharedEvent.toTree, SharedEvent.toSheet, run, bind_apply, get_apply,
        pure_apply, hAnswer]
      rw [hRest _ hLater]
    | output scene =>
      have hChanged : Mirrors guestComponent h (scene, world.2)
          (scene.sheet guestComponent h, world'.2) := ⟨hEvent, rfl, hWorlds.fixed_eq⟩
      exact ih hChanged l hLater
    | fixed f =>
      have hChanged : Mirrors guestComponent h (world.1, f world.2) (world'.1, f world'.2) :=
        ⟨hWorlds.serving, hWorlds.sheet_eq, congrArg f hWorlds.fixed_eq⟩
      exact ih hChanged l hLater

end

/-- **Twins are alike at all times.** A layout whose output is a tree, drawn by the window, and one
whose output is a sheet of the same rows, drawn in full, give the same answers, show the same frames,
log the same and are in the same state after every command, however both outputs change meanwhile. -/
theorem run_tree_eq_run_sheet (guestComponent : γ → Component γ) (h : Handle) (fixed : Component φ)
    (terminal : Terminal) (settings : Settings) (s : Scene γ) (content : φ)
    (events : List (SharedEvent γ φ)) (hServing : s.Serving guestComponent h)
    (hEvents : ∀ e ∈ events, e.Allowed guestComponent h) :
    (run (treeOutput guestComponent h) (fun _ => fixed.within .fixed) (create terminal settings)
        (events.map SharedEvent.toTree) (s, content)).1 =
      (run (fun _ => sheetOutput) (fun _ => fixed.within .fixed) (create terminal settings)
        (events.map (SharedEvent.toSheet guestComponent h)) (s.sheet guestComponent h, content)).1 :=
  run_mirrors ⟨hServing, rfl, rfl⟩ (create terminal settings) events hEvents

/-- A stack in which a transcript stands above and below a guest of one row. -/
def journal (lines : List Text) : Scene Sheet where
  nodes := #[.transcript (.ofLines lines), .guest fun _ => [['g']], .stack { children := [0, 1, 0] }]

theorem journal_serving (lines : List Text) : (journal lines).Serving Scene.sheetGuest 2 where
  steady := by
    simp [Scene.Everywhere, Scene.EverywhereTo, journal, Scene.node?, Node.Steady, Node.children,
      Scene.sheetGuest_steady]
  notSticky := by
    simp [Scene.Everywhere, Scene.EverywhereTo, journal, Scene.node?, Node.NotSticky,
      Node.children]

/-- Drawing, scrolling back and selecting, then an output that has shrunk and a terminal that has
grown, and at the end no scrolling at all. -/
def journalEvents : List (SharedEvent Sheet Unit) :=
  [.command (.render 80), .command (.scrollBy 1), .command (.select (some ⟨0, 0, 0, 1⟩)),
    .command (.render 80), .output (journal [['x']]), .command (.resize 5), .command (.render 80),
    .command (.setEnabled false),
    .command (.renderViewport 80 { width := 80, height := 2, top := 1 })]

theorem journalEvents_allowed : ∀ e ∈ journalEvents, e.Allowed Scene.sheetGuest 2 := by
  simp [journalEvents, SharedEvent.Allowed, journal_serving]

/-- The twins of this journal have the same outcomes, and these are their frames. -/
theorem run_tree_eq_run_sheet_journal :
    let s := journal [['a'], ['b']]
    let outcomes := (run (treeOutput Scene.sheetGuest 2) (fun _ => footer.within .fixed)
      (create { rows := 3 } { scrollEnabled := true }) (journalEvents.map SharedEvent.toTree)
      (s, ())).1
    s.Serving Scene.sheetGuest 2 ∧ (∀ e ∈ journalEvents, e.Allowed Scene.sheetGuest 2) ∧
      outcomes = (run (fun _ => sheetOutput) (fun _ => footer.within .fixed)
        (create { rows := 3 } { scrollEnabled := true })
        (journalEvents.map (SharedEvent.toSheet Scene.sheetGuest 2)) (s.sheet Scene.sheetGuest 2, ())).1 ∧
      outcomes.map Outcome.result =
        [.frame [['a'], ['b'], ['f']], .done, .done,
          .frame ["\x1b[7mg\x1b[0m".toList, ['a'], ['f']], .done,
          .frame [['x'], ['g'], ['x'], [], ['f']], .done,
          .window { rows := [['g'], ['x']], contentHeight := 4 }] :=
  ⟨journal_serving _, journalEvents_allowed,
    run_tree_eq_run_sheet Scene.sheetGuest 2 footer { rows := 3 } { scrollEnabled := true }
      (journal [['a'], ['b']]) () journalEvents (journal_serving _) journalEvents_allowed,
    by decide +kernel⟩

end Layout

end ScrollPane
