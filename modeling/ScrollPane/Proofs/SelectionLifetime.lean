import ScrollPane.Proofs.Histories

/-!
# The lifetime of a selection

A selection is in coordinates of the screen, so it marks other text as soon as the layout scrolls.
No operation but selecting therefore brings in a selection, and every one that moves the layout
removes it. So a selection that is there has been set at some time, and the layout has stood still
since.

This does not depend on what the components answer. A frame may settle on another offset by the
first answer of the output and come back by the second: it is compared with the frame before it only
once it is settled.

## Main statements

- `Layout.step_leavesSelection`: what one command may do to the selection;
- `Layout.run_selection_lifetime`: where the selections of a run come from, and how long they last.
-/

namespace ScrollPane.Layout

variable {σ : Type} {output fixed : σ → Component σ}

/-! ## Frames -/

/-- With scrolling off a layout stands at the first row, so no frame moves it. -/
theorem compose_offset_of_disabled {l : Layout} (hValid : l.scroll.Valid)
    (hDisabled : l.scroll.enabled = false) (output fixed : Component σ) (width : Int) (height : Nat)
    (world : σ) :
    (l.compose output fixed width height world).1.layout.scroll.offset = l.scroll.offset := by
  have hZero : l.scroll.offset = 0 := (hValid.disabled hDisabled).1
  rw [compose_of_disabled l hDisabled, hZero]
  rfl

/-- A frame keeps the selection just when it is drawn where the last one was. -/
theorem compose_selection {l : Layout} (hValid : l.scroll.Valid) (output fixed : Component σ)
    (width : Int) (height : Nat) (world : σ) :
    let after := (l.compose output fixed width height world).1.layout
    after.selection? = if after.scroll.offset = l.scroll.offset then l.selection? else none := by
  intro after
  cases hEnabled : l.scroll.enabled with
  | true =>
    simp only [after, compose_of_enabled l hEnabled, composeScrolled_apply]
    rfl
  | false =>
    have hStays := compose_offset_of_disabled hValid hEnabled output fixed width height world
    rw [if_pos hStays]
    simp only [after, compose_of_disabled l hEnabled]
    rfl

/-- A frame that is drawn elsewhere than the last one is a frame without a selection. -/
theorem compose_of_moved {l : Layout} (hValid : l.scroll.Valid) (output fixed : Component σ)
    (width : Int) (height : Nat) (world : σ) (hMoved :
      (l.compose output fixed width height world).1.layout.scroll.offset ≠ l.scroll.offset) :
    let o := (l.compose output fixed width height world).1
    l.scroll.enabled = true ∧ o.result = o.layout.visibleOutput ++ o.layout.visibleFixed ∧
      (l.select none).compose output fixed width height world =
        l.compose output fixed width height world := by
  cases hEnabled : l.scroll.enabled with
  | false =>
    exact absurd (compose_offset_of_disabled hValid hEnabled output fixed width height world) hMoved
  | true =>
    have hSelect : (l.select none).scroll.enabled = true := hEnabled
    simp only [compose_of_enabled _ hEnabled, compose_of_enabled _ hSelect,
      composeScrolled_apply] at hMoved ⊢
    -- the offset decides, and it does not depend on the selection
    have hMoved : (settleOutput l.scroll output width
        (height - (fixed.render width world).1.length) (fixed.render width world).2).1.offset ≠
          l.scroll.offset := hMoved
    simp only [select, hMoved, if_false, drawSelection, and_self]

/-! ## One command -/

/-- What a command may do to the selection. -/
structure Moment.LeavesSelection (output fixed : σ → Component σ) (m : Moment σ) : Prop where
  /-- All commands but selecting keep the selection or remove it. -/
  keeps_or_drops : (∀ selection?, m.command ≠ .select selection?) →
    m.after.selection? = m.before.selection? ∨ m.after.selection? = none
  /-- A command that moves the layout removes the selection. -/
  drops_of_moved : m.after.scroll.offset ≠ m.before.scroll.offset → m.after.selection? = none
  /-- A frame that does not move the layout keeps the selection. -/
  frame_keeps : (m.command.frame? m.before).isSome →
    m.after.scroll.offset = m.before.scroll.offset → m.after.selection? = m.before.selection?
  /-- A frame that moves the layout draws no selection: its rows are those of the two parts, and
  they are what a layout without a selection would have drawn. -/
  frame_unmarked : (m.command.frame? m.before).isSome →
    m.after.scroll.offset ≠ m.before.scroll.offset →
      m.outcome.result.rows = m.after.visibleOutput ++ m.after.visibleFixed ∧
        m.outcome.result =
          (Moment.of output fixed (m.before.select none) m.world m.command).outcome.result

/-- A command that leaves the layout where it is and draws nothing has only to answer for the
selection. -/
theorem Moment.leavesSelection_of_still {m : Moment σ}
    (hFrame : m.command.frame? m.before = none)
    (hStill : m.after.scroll.offset = m.before.scroll.offset)
    (hKeeps : (∀ selection?, m.command ≠ .select selection?) →
      m.after.selection? = m.before.selection? ∨ m.after.selection? = none) :
    m.LeavesSelection output fixed where
  keeps_or_drops := hKeeps
  drops_of_moved hMoved := absurd hStill hMoved
  frame_keeps hDraws := by simp [hFrame] at hDraws
  frame_unmarked hDraws := by simp [hFrame] at hDraws

/-- A command that removes the selection and draws nothing may move the layout. -/
theorem Moment.leavesSelection_of_none {m : Moment σ}
    (hFrame : m.command.frame? m.before = none) (hNone : m.after.selection? = none) :
    m.LeavesSelection output fixed where
  keeps_or_drops _ := .inr hNone
  drops_of_moved _ := hNone
  frame_keeps hDraws := by simp [hFrame] at hDraws
  frame_unmarked hDraws := by simp [hFrame] at hDraws

/-- A command that draws nothing, and at most scrolls. -/
theorem Moment.leavesSelection_of_scrolls {m : Moment σ} (hFrame : m.command.frame? m.before = none)
    (hScrolls : m.before.Scrolls m.after) : m.LeavesSelection output fixed := by
  rcases hScrolls with hSame | ⟨scroll, hScrolled⟩
  · exact leavesSelection_of_still hFrame (by rw [hSame]) fun _ => .inl (by rw [hSame])
  · exact leavesSelection_of_none hFrame (by rw [hScrolled])

/-- A command that draws a frame keeps the selection or moves the layout. -/
theorem Moment.leavesSelection_of_frame {l : Layout} (hValid : l.scroll.Valid) {c : Command}
    {width : Int} {height : Nat} (hFrame : c.frame? l = some (width, height)) (world : σ) :
    (Moment.of output fixed l world c).LeavesSelection output fixed := by
  obtain ⟨hAfter, -, hAnswer⟩ := Moment.of_frame hFrame output fixed world
  have hSelection : (Moment.of output fixed l world c).after.selection? =
      if (Moment.of output fixed l world c).after.scroll.offset = l.scroll.offset then l.selection?
      else none := by
    rw [hAfter]
    exact compose_selection hValid (output world) (fixed world) width height world
  exact {
    keeps_or_drops := fun _ => by
      rw [hSelection]
      split
      · exact .inl rfl
      · exact .inr rfl
    drops_of_moved := fun hMoved => hSelection.trans (if_neg hMoved)
    frame_keeps := fun _ hStill => hSelection.trans (if_pos hStill)
    frame_unmarked := fun _ hMoved => by
      rw [hAfter] at hMoved
      obtain ⟨hEnabled, hRows, hSame⟩ :=
        compose_of_moved hValid (output world) (fixed world) width height world hMoved
      have hFrame' : c.frame? (l.select none) = some (width, height) := by
        rw [← hFrame]
        cases c <;> rfl
      obtain ⟨-, -, hAnswer'⟩ := Moment.of_frame hFrame' output fixed world
      rw [hAnswer hEnabled, c.rows_answer, hAfter]
      refine ⟨hRows, ?_⟩
      exact (hAnswer' hEnabled).trans (congrArg (fun drawn => c.answer drawn.1) hSame) |>.symm }

/-- What every command may do to the selection, whatever its components answer. -/
theorem step_leavesSelection (output fixed : σ → Component σ) {l : Layout} (hValid : l.scroll.Valid)
    (world : σ) (c : Command) :
    (Moment.of output fixed l world c).LeavesSelection output fixed := by
  cases c with
  | setEnabled enabled => exact Moment.leavesSelection_of_scrolls rfl (l.setEnabled_scrolls enabled)
  | scrollBy rows => exact Moment.leavesSelection_of_scrolls rfl (l.scrollBy_scrolls rows)
  | scrollByPage pages => exact Moment.leavesSelection_of_scrolls rfl (l.scrollBy_scrolls _)
  | scrollToTop => exact Moment.leavesSelection_of_scrolls rfl l.scrollToTop_scrolls
  | scrollToBottom => exact Moment.leavesSelection_of_scrolls rfl l.scrollToBottom_scrolls
  | select selection? =>
    exact Moment.leavesSelection_of_still rfl rfl fun hOther => absurd rfl (hOther selection?)
  | input chunk => exact Moment.leavesSelection_of_scrolls rfl (l.input_scrolls chunk)
  | render width => exact Moment.leavesSelection_of_frame hValid rfl world
  | renderViewport width v => exact Moment.leavesSelection_of_frame hValid rfl world
  -- the other commands leave both the offset and the selection alone
  | _ => exact Moment.leavesSelection_of_still rfl rfl fun _ => .inl rfl

/-! ## Whole runs -/

/-- A command other than selecting that leaves a selection and an offset as they are given here. -/
structure Moment.Keeps (m : Moment σ) (s : Selection) (offset : Int) : Prop where
  not_select : ∀ selection?, m.command ≠ .select selection?
  selection_eq : m.after.selection? = some s
  offset_eq : m.after.scroll.offset = offset

/-- A selection that is there after a command has just been set, or was there before at the same
offset. -/
theorem select_or_keeps {l : Layout} (hValid : l.scroll.Valid) (world : σ) (c : Command)
    {s : Selection} (hSelected : (Moment.of output fixed l world c).after.selection? = some s) :
    c = .select (some s) ∨
      (l.selection? = some s ∧ (Moment.of output fixed l world c).Keeps s l.scroll.offset) := by
  have hLeaves := step_leavesSelection output fixed hValid world c
  by_cases hSelect : ∃ selection?, c = .select selection?
  · obtain ⟨selection?, rfl⟩ := hSelect
    obtain rfl : selection? = some s := hSelected
    exact .inl rfl
  · have hOther : ∀ selection?, c ≠ .select selection? := fun selection? hEq =>
      hSelect ⟨selection?, hEq⟩
    have hStill : (Moment.of output fixed l world c).after.scroll.offset = l.scroll.offset := by
      by_contra hMoved
      rw [hLeaves.drops_of_moved hMoved] at hSelected
      cases hSelected
    rcases hLeaves.keeps_or_drops hOther with hKept | hDropped
    · exact .inr ⟨hKept.symm.trans hSelected, hOther, hSelected, hStill⟩
    · rw [hDropped] at hSelected
      cases hSelected

/-- A selection that is there at some moment of a run has been set earlier in the run and kept
since, or was there at the start and has been kept all the time. -/
theorem exists_select_or_keeps {l : Layout} (hValid : l.scroll.Valid) {events : List (Event σ)}
    {world : σ} {past later : List (Moment σ)} {m : Moment σ} {s : Selection}
    (hHistory : history output fixed l events world = past ++ m :: later)
    (hSelected : m.after.selection? = some s) :
    (∃ earlier setting since, past ++ [m] = earlier ++ setting :: since ∧
        setting.command = .select (some s) ∧
        ∀ m' ∈ since, m'.Keeps s setting.after.scroll.offset) ∨
      (l.selection? = some s ∧ ∀ m' ∈ past ++ [m], m'.Keeps s l.scroll.offset) := by
  induction events generalizing l world past with
  | nil => simp [history] at hHistory
  | cons event events ih =>
    cases event with
    | change f => exact ih hValid hHistory
    | command c =>
      have hValidAfter := step_scroll_valid (output world) (fixed world) hValid c world
      cases past with
      | nil =>
        -- the selection is there after the first command
        obtain ⟨rfl, -⟩ := List.cons.inj hHistory
        rcases select_or_keeps hValid world c hSelected with hSelect | ⟨hBefore, hKeeps⟩
        · refine .inl ⟨[], _, [], rfl, hSelect, ?_⟩
          intro m' hMem
          exact absurd hMem List.not_mem_nil
        · refine .inr ⟨hBefore, ?_⟩
          intro m' hMem
          obtain rfl := List.mem_singleton.mp hMem
          exact hKeeps
      | cons first past =>
        obtain ⟨rfl, hRest⟩ := List.cons.inj hHistory
        have hLater := ih hValidAfter hRest
        rcases hLater with ⟨earlier, setting, since, hSplit, hSelect, hSince⟩ | ⟨hFirst, hSince⟩
        · refine .inl ⟨Moment.of output fixed l world c :: earlier, setting, since, ?_, hSelect,
            hSince⟩
          rw [List.cons_append, hSplit, List.cons_append]
        · -- it is there after the first command already, and has been kept from then on
          rcases select_or_keeps hValid world c hFirst with hSelect | ⟨hBefore, hKeeps⟩
          · exact .inl ⟨[], _, past ++ [m], rfl, hSelect, hSince⟩
          · refine .inr ⟨hBefore, ?_⟩
            rw [List.cons_append, List.forall_mem_cons]
            refine ⟨hKeeps, ?_⟩
            rw [← hKeeps.offset_eq]
            exact hSince

/-- **The lifetime of a selection.** In every run, whatever the components answer, no command but
selecting brings in a selection, and any that moves the layout removes it; frames keep it unless
they move the layout, and then draw none. So wherever a selection is there, it was set by some
command, and neither the selection nor the offset has changed since. -/
theorem run_selection_lifetime (output fixed : σ → Component σ) (terminal : Terminal)
    (settings : Settings) (events : List (Event σ)) (world : σ) :
    let moments := history output fixed (create terminal settings) events world
    (∀ m ∈ moments, m.LeavesSelection output fixed) ∧
      ∀ past m later s, moments = past ++ m :: later → m.after.selection? = some s →
        ∃ earlier setting since, past ++ [m] = earlier ++ setting :: since ∧
          setting.command = .select (some s) ∧
          ∀ m' ∈ since, m'.Keeps s setting.after.scroll.offset := by
  intro moments
  constructor
  · refine history_induction (fun l _ => l.scroll.Valid) (fun _ => True)
      (fun m => m.LeavesSelection output fixed) ?_ ?_ (create_scroll_valid terminal settings) ?_
    · intro c _ l world hValid m _
      exact ⟨step_scroll_valid _ _ hValid c world, step_leavesSelection output fixed hValid world c⟩
    · intro f _ l world hValid
      exact hValid
    · intro m _
      trivial
  · intro past m later s hMoments hSelected
    have hNew : (create terminal settings).selection? = none := by
      unfold create
      rcases setEnabled_scrolls (ofSettings terminal settings) settings.scrollEnabled
        with hSame | ⟨scroll, hScrolled⟩
      · rw [hSame]
        rfl
      · rw [hScrolled]
    rcases exists_select_or_keeps (create_scroll_valid terminal settings) hMoments hSelected
      with hSet | ⟨hStart, -⟩
    · exact hSet
    · -- a new layout has no selection
      rw [hNew] at hStart
      cases hStart

/-- An output that reports twice the height at every other request. It counts the requests. -/
def fickle : Component Nat where
  render _ := pure []
  window? := some fun _ _ => do
    let requests ← get
    set (requests + 1)
    return { contentHeight := if requests % 2 = 0 then 20 else 10 }

/-- The second frame over a fickle output settles elsewhere at first and comes back, so it keeps the
selection; scrolling then removes it. -/
theorem run_selection_lifetime_fickle :
    let moments := history (fun _ => fickle) (fun _ => .blank)
      (create { rows := 5 } { scrollEnabled := true })
      [.command (.render 80), .command (.select (some ⟨0, 0, 1, 1⟩)), .command (.render 80),
        .command (.scrollBy 1)] 0
    (∀ m ∈ moments, m.LeavesSelection (fun _ => fickle) fun _ => .blank) ∧
      moments.map (fun m => (m.after.scroll.offset, m.after.selection?)) =
        [(5, none), (5, some ⟨0, 0, 1, 1⟩), (5, some ⟨0, 0, 1, 1⟩), (4, none)] :=
  ⟨(run_selection_lifetime (fun _ => fickle) (fun _ => .blank) { rows := 5 }
      { scrollEnabled := true }
      [.command (.render 80), .command (.select (some ⟨0, 0, 1, 1⟩)), .command (.render 80),
        .command (.scrollBy 1)] 0).1,
    by decide +kernel⟩

end ScrollPane.Layout
