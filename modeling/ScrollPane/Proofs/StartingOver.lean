import ScrollPane.Proofs.Histories
import ScrollPane.Proofs.Twins

/-!
# Starting over

Switching scrolling off and on again makes a layout start over. What it still remembers after that
are the rows it showed last and the height of the fixed part at that time. No command looks at
these before the next frame has replaced them, so from there on nothing tells the layout from a new
one on the same terminal, with the same configuration and over the same components.

## Main definitions

- `Layout.forgetShown`: the layout without the rows it showed last;
- `Layout.anew`: a new layout with the configuration of another one.

## Main statements

- `Layout.step_forgetShown`: commands do the same whatever was shown last;
- `Layout.history_forgetShown`, `Layout.outcomes_forgetShown`: so do whole runs;
- `Layout.toggled_is_new`: switching scrolling off and on leaves no other trace.
-/

namespace ScrollPane

variable {σ : Type} {output fixed : σ → Component σ}

/-! ## What was shown last -/

/-- The layout without what it remembers of the rows it showed last. -/
def Layout.forgetShown (l : Layout) : Layout :=
  { l with visibleOutput := [], visibleFixed := [], fixedHeight := 0 }

/-- The outcome, with what its layout remembers of the rows it showed last left out. -/
def Outcome.forgetShown {α : Type} (o : Outcome α) : Outcome α :=
  { o with layout := o.layout.forgetShown }

namespace Layout

/-- The moment, with what its layouts remember of the rows they showed last left out. -/
def Moment.forgetShown (m : Moment σ) : Moment σ :=
  { m with before := m.before.forgetShown, outcome := m.outcome.forgetShown }

/-- Whether the command of a moment asks for a frame. -/
def Moment.asksFrame (m : Moment σ) : Bool := (m.command.frame? m.before).isSome

/-! ## Commands -/

/-- A frame does not depend on what was shown before it. -/
theorem step_forgetShown_of_frame {l : Layout} {c : Command} (hFrame : (c.frame? l).isSome)
    (output fixed : Component σ) (world : σ) :
    l.forgetShown.step output fixed c world = l.step output fixed c world := by
  cases c with
  | render width => rfl
  | renderViewport width v => rfl
  | _ => cases hFrame

theorem setEnabled_forgetShown (l : Layout) (enabled : Bool) :
    l.forgetShown.setEnabled enabled = (l.setEnabled enabled).forgetShown := by
  show (if l.scroll.enabled = enabled then l.forgetShown else _) = _
  unfold setEnabled
  split <;> rfl

theorem scrollBy_forgetShown (l : Layout) (rows : Int) :
    l.forgetShown.scrollBy rows = (l.scrollBy rows).forgetShown := by
  show (if l.scroll.enabled ∧ rows ≠ 0 then _ else l.forgetShown) = _
  unfold scrollBy
  split <;> rfl

theorem scrollToTop_forgetShown (l : Layout) :
    l.forgetShown.scrollToTop = l.scrollToTop.forgetShown := by
  show (if l.scroll.enabled then _ else l.forgetShown) = _
  unfold scrollToTop
  split <;> rfl

theorem input_forgetShown (l : Layout) (chunk : Mouse.Chunk) :
    l.forgetShown.input chunk = (l.input chunk).forgetShown := by
  have hDecoder : l.forgetShown.decoder = l.decoder := rfl
  unfold input
  rw [hDecoder]
  split
  · exact l.scrollBy_forgetShown _
  · rfl

/-- Two outcomes whose layouts differ in the rows shown last alone. -/
theorem forgetShown_outcome_eq {l l' : Layout} (h : l' = l.forgetShown) (reply : Reply)
    (notices : List Notice) :
    Outcome.forgetShown { result := reply, layout := l', notices } =
      Outcome.forgetShown { result := reply, layout := l, notices } := by
  rw [h]
  rfl

/-- A command does the same, and answers the same, whatever rows were shown last. -/
theorem step_forgetShown (output fixed : Component σ) (l : Layout) (c : Command) (world : σ) :
    let o := l.step output fixed c world
    let o' := l.forgetShown.step output fixed c world
    o'.1.forgetShown = o.1.forgetShown ∧ o'.2 = o.2 := by
  cases c with
  | setEnabled enabled =>
    exact ⟨forgetShown_outcome_eq (l.setEnabled_forgetShown enabled) _ _, rfl⟩
  | scrollBy rows => exact ⟨forgetShown_outcome_eq (l.scrollBy_forgetShown rows) _ _, rfl⟩
  | scrollByPage pages => exact ⟨forgetShown_outcome_eq (l.scrollBy_forgetShown _) _ _, rfl⟩
  | scrollToTop => exact ⟨forgetShown_outcome_eq l.scrollToTop_forgetShown _ _, rfl⟩
  | input chunk => exact ⟨forgetShown_outcome_eq (l.input_forgetShown chunk) _ _, rfl⟩
  -- the other commands do not even test the state they change
  | _ => exact ⟨rfl, rfl⟩

/-- A command does the same to two layouts that differ in the rows shown last alone. -/
theorem step_of_forgetShown_eq {l l' : Layout} (h : l.forgetShown = l'.forgetShown)
    (output fixed : Component σ) (c : Command) (world : σ) :
    let o := l.step output fixed c world
    let o' := l'.step output fixed c world
    o.1.forgetShown = o'.1.forgetShown ∧ o.2 = o'.2 := by
  intro o o'
  obtain ⟨hLeft, hLeftWorld⟩ := step_forgetShown output fixed l c world
  obtain ⟨hRight, hRightWorld⟩ := step_forgetShown output fixed l' c world
  rw [h] at hLeft hLeftWorld
  exact ⟨hLeft.symm.trans hRight, hLeftWorld.symm.trans hRightWorld⟩

/-- A frame is the same for two layouts that differ in the rows shown last alone, and leaves no
difference between them. -/
theorem step_eq_of_forgetShown_eq {l l' : Layout} (h : l.forgetShown = l'.forgetShown) {c : Command}
    (hFrame : (c.frame? l).isSome) (output fixed : Component σ) (world : σ) :
    l.step output fixed c world = l'.step output fixed c world := by
  have hFrame' : (c.frame? l').isSome := by cases c <;> trivial
  rw [← step_forgetShown_of_frame hFrame, h, step_forgetShown_of_frame hFrame']

/-! ## Runs -/

/-- What is left of a moment tells whether a frame is asked for. -/
theorem Moment.asksFrame_forgetShown (m : Moment σ) : m.forgetShown.asksFrame = m.asksFrame := rfl

/-- The moments of a command differ in the rows shown last alone if the layouts before it do. -/
theorem Moment.of_forgetShown (output fixed : σ → Component σ) {l l' : Layout}
    (h : l.forgetShown = l'.forgetShown) (world : σ) (c : Command) :
    let m := Moment.of output fixed l world c
    let m' := Moment.of output fixed l' world c
    m.forgetShown = m'.forgetShown ∧ m.after.forgetShown = m'.after.forgetShown ∧
      m.worldAfter = m'.worldAfter := by
  intro m m'
  obtain ⟨hOutcome, hWorld⟩ := step_of_forgetShown_eq h (output world) (fixed world) c world
  refine ⟨?_, congrArg Outcome.layout hOutcome, hWorld⟩
  simp only [m, m', Moment.forgetShown, Moment.of, h, hOutcome, hWorld]

/-- Runs of two layouts that differ in the rows shown last alone go the same way. -/
theorem history_forgetShown {l l' : Layout} (h : l.forgetShown = l'.forgetShown)
    (events : List (Event σ)) (world : σ) :
    (history output fixed l events world).map Moment.forgetShown =
      (history output fixed l' events world).map Moment.forgetShown := by
  induction events generalizing l l' world with
  | nil => rfl
  | cons event events ih =>
    cases event with
    | command c =>
      obtain ⟨hMoment, hAfter, hWorldAfter⟩ := Moment.of_forgetShown output fixed h world c
      simp only [history, List.map_cons, hMoment, hWorldAfter, ih hAfter]
    | change f => exact ih h (f world)

/-- From the first frame on, the outcomes of such runs are the same in full. -/
theorem outcomes_forgetShown {l l' : Layout} (h : l.forgetShown = l'.forgetShown)
    (events : List (Event σ)) (world : σ) :
    ((history output fixed l events world).dropWhile (!·.asksFrame)).map Moment.outcome =
      ((history output fixed l' events world).dropWhile (!·.asksFrame)).map Moment.outcome := by
  induction events generalizing l l' world with
  | nil => rfl
  | cons event events ih =>
    cases event with
    | command c =>
      obtain ⟨hMoment, hAfter, hWorldAfter⟩ := Moment.of_forgetShown output fixed h world c
      have hAsks : (Moment.of output fixed l world c).asksFrame =
          (Moment.of output fixed l' world c).asksFrame := by
        rw [← Moment.asksFrame_forgetShown, hMoment, Moment.asksFrame_forgetShown]
      simp only [history, List.dropWhile_cons, ← hAsks]
      cases hFrame : (Moment.of output fixed l world c).asksFrame with
      | true =>
        -- the frame makes the two layouts one, so what comes after it is one run
        have hSame := step_eq_of_forgetShown_eq h hFrame (output world) (fixed world) world
        have hOutcome : (Moment.of output fixed l world c).outcome =
            (Moment.of output fixed l' world c).outcome := congrArg Prod.fst hSame
        simp only [Bool.not_true, Bool.false_eq_true, if_false, List.map_cons, Moment.after,
          hOutcome, hWorldAfter]
      | false =>
        simp only [Bool.not_false, if_true, hWorldAfter]
        exact ih hAfter _
    | change f => exact ih h (f world)

/-! ## Switching scrolling off and on -/

/-- A new layout on the same terminal and with the same configuration, with scrolling on. -/
def anew (l : Layout) : Layout :=
  create l.terminal
    { scrollEnabled := true, mouseTracking := l.decoder.buttons, wheelLines := l.wheelLines }

/-- The commands that switch scrolling off and on again. -/
def toggle : List (Event σ) := [.command (.setEnabled false), .command (.setEnabled true)]

/-- Switching scrolling off and on leaves a layout that differs from a new one in the rows shown
last alone. -/
theorem forgetShown_toggled {l : Layout} (hWheel : 0 < l.wheelLines) :
    ((l.setEnabled false).setEnabled true).forgetShown = l.anew.forgetShown := by
  have hAtLeastOne : max 1 l.wheelLines = l.wheelLines := Int.max_eq_right hWheel
  have hToggled : ((l.setEnabled false).setEnabled true).forgetShown =
      { l.forgetShown with scroll := { enabled := true }, selection? := none } := by
    cases hEnabled : l.scroll.enabled with
    | true => simp [setEnabled, hEnabled, forgetShown]
    | false => simp [setEnabled, hEnabled, forgetShown]
  rw [hToggled, anew, create_of_enabled _ rfl, ofSettings]
  simp only [hAtLeastOne]
  rfl

/-- **Toggling forgets all history.** Whatever has happened to a layout, once scrolling has been
switched off and on again, any further run of it goes as that of a new layout would: each command
finds the same scroll state, selection and world, gives the same answer, logs the same and leaves
the same behind. Only the rows shown last still differ, and from the first frame on they do not. -/
theorem toggled_is_new (output fixed : σ → Component σ) {l : Layout} {world : σ}
    (hReachable : Reachable output fixed l world) (events : List (Event σ)) :
    let moments := (history output fixed l (toggle ++ events) world).drop 2
    let moments' := history output fixed l.anew events world
    moments.map Moment.forgetShown = moments'.map Moment.forgetShown ∧
      (moments.dropWhile (!·.asksFrame)).map Moment.outcome =
        (moments'.dropWhile (!·.asksFrame)).map Moment.outcome := by
  have hSame := forgetShown_toggled hReachable.wheelLines_pos
  exact ⟨history_forgetShown hSame events world, outcomes_forgetShown hSame events world⟩

/-- What happens to the journal after the toggle: scrolling that has nowhere to go yet, a frame,
more output, and a frame for a viewport. -/
def journalAfterToggle : List (Event (Scene Sheet × Unit)) :=
  [.command (.scrollBy 1), .command (.render 80),
    .change fun world => (journal [['a'], ['b'], ['c']], world.2), .command (.scrollBy 2),
    .command (.renderViewport 80 { width := 80, height := 3 })]

/-- The layout has drawn a frame, scrolled back and marked a cell before the toggle. It still
remembers the frame after it, yet starts at the end of the journal like a new one. -/
theorem toggled_is_new_journal :
    let output := treeOutput Scene.sheetGuest 2
    let fixed := fun _ : Scene Sheet × Unit => footer.within .fixed
    let drawn := Moment.of output fixed (create { rows := 3 } { scrollEnabled := true })
      (journal [['a'], ['b']], ()) (.render 80)
    let back := Moment.of output fixed drawn.after drawn.worldAfter (.scrollBy 1)
    let marked := Moment.of output fixed back.after back.worldAfter (.select (some ⟨0, 0, 0, 1⟩))
    let l := marked.after
    let moments :=
      (history output fixed l (toggle ++ journalAfterToggle) marked.worldAfter).drop 2
    let moments' := history output fixed l.anew journalAfterToggle marked.worldAfter
    Reachable output fixed l marked.worldAfter ∧
      (moments.map Moment.forgetShown = moments'.map Moment.forgetShown ∧
        (moments.dropWhile (!·.asksFrame)).map Moment.outcome =
          (moments'.dropWhile (!·.asksFrame)).map Moment.outcome) ∧
      (l.scroll.offset, l.selection?, l.visibleOutput, l.fixedHeight) =
        (2, some ⟨0, 0, 0, 1⟩, [['a'], ['b']], 1) ∧
      moments.map (fun m => m.outcome.result.rows) =
        [[], [['a'], ['b'], ['f']], [], [['b'], ['c'], ['f']]] := by
  intro output fixed drawn back marked l moments moments'
  have hReachable : Reachable output fixed l marked.worldAfter :=
    .command (.command (.command (.create _ _ _) _) _) _
  exact ⟨hReachable, toggled_is_new output fixed hReachable journalAfterToggle, by decide +kernel,
    by decide +kernel⟩

end Layout

end ScrollPane
