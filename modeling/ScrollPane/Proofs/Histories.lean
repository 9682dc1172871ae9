import ScrollPane.Proofs.ScrollBounds

/-!
# Histories

A run keeps the outcome of each command. What a frame shows depends on more: on the layout that it
was asked of, and on the world that it was drawn in. The history of a run keeps these as well, so
that a statement about a run can name everything that was there at a moment of it.

## Main definitions

- `Layout.Moment`, `Layout.history`: the commands of a run, with all that was there at each;
- `Layout.Reachable`: the layouts and worlds that a run can come to;
- `Layout.afterRun`: the layout and the world that a run ends in;
- `Layout.Moment.Draws`: the moment draws a frame, above these rows of the fixed part;
- `Layout.Scrolls`: what a layout makes of itself that scrolls and draws nothing.

## Main statements

- `Layout.history_outcomes`: the outcomes in a history are those of the run;
- `Layout.history_induction`: what commands and changes keep is kept throughout a run;
- `Layout.step_wheelLines`: no command changes the configuration of a layout;
- `Layout.Reachable.wheelLines_pos`: a turn of the wheel scrolls by at least one row.
-/

namespace ScrollPane.Layout

variable {σ : Type} {output fixed : σ → Component σ}

/-! ## Moments -/

/-- A command of a run: the layout and world that it finds, its outcome, and the world after it. -/
structure Moment (σ : Type) where
  before : Layout
  world : σ
  command : Command
  outcome : Outcome Reply
  worldAfter : σ

namespace Moment

/-- The layout after a command. -/
def after (m : Moment σ) : Layout := m.outcome.layout

/-- The moment at which a layout is given a command. -/
def of (output fixed : σ → Component σ) (l : Layout) (world : σ) (c : Command) : Moment σ :=
  let done := l.step (output world) (fixed world) c world
  { before := l, world, command := c, outcome := done.1, worldAfter := done.2 }

end Moment

/-- The moments of a run, in their order. -/
def history (output fixed : σ → Component σ) : Layout → List (Event σ) → σ → List (Moment σ)
  | _, [], _ => []
  | l, .command c :: events, world =>
    let m := Moment.of output fixed l world c
    m :: history output fixed m.after events m.worldAfter
  | l, .change f :: events, world => history output fixed l events (f world)

theorem history_outcomes (l : Layout) (events : List (Event σ)) (world : σ) :
    (history output fixed l events world).map Moment.outcome =
      (run output fixed l events world).1 := by
  induction events generalizing l world with
  | nil => rfl
  | cons event events ih =>
    cases event with
    | command c =>
      simp only [history, List.map_cons, ih, run, bind_apply, get_apply, pure_apply]
      rfl
    | change f => exact ih l (f world)

/-! ## Induction over a run -/

/-- What every command keeps where `Assumed` holds of its moment, and every change of the world
keeps, is kept throughout a run in which `Assumed` holds of all moments; and what each command then
makes `Safe` is safe at every moment. -/
theorem history_induction (Inv : Layout → σ → Prop) (Assumed Safe : Moment σ → Prop)
    {events : List (Event σ)}
    (hCommand : ∀ c, .command c ∈ events → ∀ l world, Inv l world →
      let m := Moment.of output fixed l world c
      Assumed m → Inv m.after m.worldAfter ∧ Safe m)
    (hChange : ∀ f, .change f ∈ events → ∀ l world, Inv l world → Inv l (f world))
    {l : Layout} {world : σ} (hStart : Inv l world)
    (hAssumed : ∀ m ∈ history output fixed l events world, Assumed m) :
    ∀ m ∈ history output fixed l events world, Safe m := by
  induction events generalizing l world with
  | nil =>
    intro m hMem
    exact absurd hMem List.not_mem_nil
  | cons event events ih =>
    have hCommandLater := fun c hMem => hCommand c (List.mem_cons_of_mem event hMem)
    have hChangeLater := fun f hMem => hChange f (List.mem_cons_of_mem event hMem)
    cases event with
    | command c =>
      simp only [history, List.forall_mem_cons] at hAssumed ⊢
      obtain ⟨hNow, hAssumed⟩ := hAssumed
      obtain ⟨hInv, hSafe⟩ := hCommand c List.mem_cons_self l world hStart hNow
      exact ⟨hSafe, ih hCommandLater hChangeLater hInv hAssumed⟩
    | change f =>
      have hInv := hChange f List.mem_cons_self l world hStart
      exact ih hCommandLater hChangeLater hInv hAssumed

/-! ## Reachable states -/

/-- The layouts and the worlds around them that a run from a new layout can come to. -/
inductive Reachable (output fixed : σ → Component σ) : Layout → σ → Prop where
  | create (terminal : Terminal) (settings : Settings) (world : σ) :
      Reachable output fixed (create terminal settings) world
  | command {l : Layout} {world : σ} (h : Reachable output fixed l world) (c : Command) :
      Reachable output fixed (Moment.of output fixed l world c).after
        (Moment.of output fixed l world c).worldAfter
  | change {l : Layout} {world : σ} (h : Reachable output fixed l world) (f : σ → σ) :
      Reachable output fixed l (f world)

theorem Reachable.scroll_valid {l : Layout} {world : σ} (h : Reachable output fixed l world) :
    l.scroll.Valid := by
  induction h with
  | create terminal settings world => exact create_scroll_valid terminal settings
  | command h c ih => exact step_scroll_valid _ _ ih c _
  | change h f ih => exact ih

/-! ## The end of a run -/

/-- The layout and the world that a run ends in. -/
def afterRun (output fixed : σ → Component σ) : Layout → List (Event σ) → σ → Layout × σ
  | l, [], world => (l, world)
  | l, .command c :: events, world =>
    let m := Moment.of output fixed l world c
    afterRun output fixed m.after events m.worldAfter
  | l, .change f :: events, world => afterRun output fixed l events (f world)

theorem afterRun_append (l : Layout) (past future : List (Event σ)) (world : σ) :
    afterRun output fixed l (past ++ future) world =
      afterRun output fixed (afterRun output fixed l past world).1 future
        (afterRun output fixed l past world).2 := by
  induction past generalizing l world with
  | nil => rfl
  | cons event past ih =>
    cases event with
    | command c => exact ih _ _
    | change f => exact ih l (f world)

/-- A run ends in the world that it leaves, and in the layout of its last outcome. -/
theorem afterRun_eq_run (l : Layout) (events : List (Event σ)) (world : σ) :
    let ran := run output fixed l events world
    afterRun output fixed l events world = ((ran.1.map Outcome.layout).getLastD l, ran.2) := by
  induction events generalizing l world with
  | nil => rfl
  | cons event events ih =>
    cases event with
    | command c =>
      simp only [run, bind_apply, get_apply, pure_apply, List.map_cons, List.getLastD_cons]
      exact ih _ _
    | change f => exact ih l (f world)

/-- A run from a state that can be reached ends in one. -/
theorem Reachable.afterRun {l : Layout} {world : σ} (h : Reachable output fixed l world)
    (events : List (Event σ)) :
    Reachable output fixed (Layout.afterRun output fixed l events world).1
      (Layout.afterRun output fixed l events world).2 := by
  induction events generalizing l world with
  | nil => exact h
  | cons event events ih =>
    cases event with
    | command c => exact ih (h.command c)
    | change f => exact ih (h.change f)

/-! ## Scrolling -/

/-- The second layout is the first one, or has another scroll state and no selection. -/
def Scrolls (l l' : Layout) : Prop := l' = l ∨ ∃ scroll, l' = { l with scroll, selection? := none }

theorem setEnabled_scrolls (l : Layout) (enabled : Bool) : l.Scrolls (l.setEnabled enabled) := by
  unfold setEnabled
  split
  · exact .inl rfl
  · exact .inr ⟨_, rfl⟩

theorem scrollBy_scrolls (l : Layout) (rows : Int) : l.Scrolls (l.scrollBy rows) := by
  unfold scrollBy
  split
  · exact .inr ⟨_, rfl⟩
  · exact .inl rfl

theorem scrollToTop_scrolls (l : Layout) : l.Scrolls l.scrollToTop := by
  unfold scrollToTop
  split
  · exact .inr ⟨_, rfl⟩
  · exact .inl rfl

theorem scrollToBottom_scrolls (l : Layout) : l.Scrolls l.scrollToBottom := .inr ⟨_, rfl⟩

theorem input_scrolls (l : Layout) (chunk : Mouse.Chunk) : l.Scrolls (l.input chunk) := by
  unfold input
  split
  · exact l.scrollBy_scrolls _
  · exact .inl rfl

/-- With scrolling off a layout stays where it is. -/
theorem scrollBy_of_disabled {l : Layout} (hOff : l.scroll.enabled = false) (rows : Int) :
    l.scrollBy rows = l :=
  if_neg fun hMoves => by simp [hOff] at hMoves

theorem scrollBy_of_enabled {l : Layout} (hOn : l.scroll.enabled = true) {rows : Int}
    (hRows : rows ≠ 0) : l.scrollBy rows = l.scrollTo (l.scroll.offset - rows) :=
  if_pos ⟨hOn, hRows⟩

theorem input_of_disabled {l : Layout} (hOff : l.scroll.enabled = false) (chunk : Mouse.Chunk) :
    l.input chunk = l := by
  unfold input
  split
  · exact scrollBy_of_disabled hOff _
  · rfl

/-! ## Frames -/

/-- The width and the height of the frame that a command asks for, if it asks for one. -/
def Command.frame? (l : Layout) : Command → Option (Int × Nat)
  | .render width => some (width, l.terminal.rows.toNat)
  | .renderViewport width v => some (width, v.height.toNat)
  | _ => none

/-- How tall a frame is depends on the terminal alone. -/
theorem Command.frame?_of_terminal_eq {l l' : Layout} (h : l.terminal = l'.terminal) (c : Command) :
    c.frame? l = c.frame? l' := by
  cases c <;> simp only [Command.frame?, h]

/-- The rows that an answer shows. -/
def Reply.rows : Reply → List Text
  | .frame rows => rows
  | .window w => w.rows
  | _ => []

/-- What a command that asks for a frame answers, if the frame is given in full. -/
def Command.answer (frame : Outcome (List Text)) : Command → Reply
  | .renderViewport .. =>
    .window {
      rows := frame.result
      contentHeight := frame.layout.scroll.contentHeight + frame.layout.fixedHeight }
  | _ => .frame frame.result

theorem Command.rows_answer (c : Command) (frame : Outcome (List Text)) :
    (c.answer frame).rows = frame.result := by
  cases c <;> rfl

/-- The moment of a command that asks for a frame is the drawing of that frame. With scrolling on,
the answer gives it in full. -/
theorem Moment.of_frame {c : Command} {l : Layout} {width : Int} {height : Nat}
    (hFrame : c.frame? l = some (width, height)) (output fixed : σ → Component σ) (world : σ) :
    let m := Moment.of output fixed l world c
    let drawn := l.compose (output world) (fixed world) width height world
    m.after = drawn.1.layout ∧ m.worldAfter = drawn.2 ∧
      (l.scroll.enabled = true → m.outcome.result = c.answer drawn.1) := by
  cases c with
  | render _ =>
    obtain ⟨rfl, rfl⟩ := Prod.mk.inj (Option.some.inj hFrame)
    exact ⟨rfl, rfl, fun _ => rfl⟩
  | renderViewport width v =>
    obtain ⟨rfl, rfl⟩ := Prod.mk.inj (Option.some.inj hFrame)
    refine ⟨rfl, rfl, fun hEnabled => ?_⟩
    have hRows :=
      renderViewport_rows_of_enabled l hEnabled (output world) (fixed world) width v world
    exact congrArg (fun rows => Reply.window { rows, contentHeight := _ }) hRows
  | _ => cases hFrame

/-- The moment draws a frame of a width and a height, above these rows of the fixed part. -/
structure Moment.Draws (fixed : σ → Component σ) (m : Moment σ) (width : Int) (height : Nat)
    (fixedRows : List Text) : Prop where
  frame_eq : m.command.frame? m.before = some (width, height)
  fixedRows_eq : ((fixed m.world).render width m.world).1 = fixedRows

/-! ## Configuration -/

theorem Scrolls.wheelLines_eq {l l' : Layout} (h : l.Scrolls l') :
    l'.wheelLines = l.wheelLines := by
  rcases h with rfl | ⟨scroll, rfl⟩ <;> rfl

theorem Scrolls.terminal_eq {l l' : Layout} (h : l.Scrolls l') : l'.terminal = l.terminal := by
  rcases h with rfl | ⟨scroll, rfl⟩ <;> rfl

theorem compose_wheelLines (l : Layout) (output fixed : Component σ) (width : Int) (height : Nat)
    (world : σ) :
    (l.compose output fixed width height world).1.layout.wheelLines = l.wheelLines := by
  cases hEnabled : l.scroll.enabled with
  | true => rw [compose_of_enabled l hEnabled, composeScrolled_apply]
  | false =>
    rw [compose_of_disabled l hEnabled]
    rfl

/-- No command changes how many rows a turn of the wheel scrolls by. -/
theorem step_wheelLines (output fixed : Component σ) (l : Layout) (c : Command) (world : σ) :
    (l.step output fixed c world).1.layout.wheelLines = l.wheelLines := by
  cases c with
  | setEnabled enabled => exact (l.setEnabled_scrolls enabled).wheelLines_eq
  | scrollBy rows => exact (l.scrollBy_scrolls rows).wheelLines_eq
  | scrollByPage pages => exact (l.scrollBy_scrolls _).wheelLines_eq
  | scrollToTop => exact l.scrollToTop_scrolls.wheelLines_eq
  | input chunk => exact (l.input_scrolls chunk).wheelLines_eq
  | render width => exact l.compose_wheelLines output fixed width _ world
  | renderViewport width v => exact l.compose_wheelLines output fixed width _ world
  | _ => rfl

/-- The settings may ask for no row at all, or for fewer; a layout scrolls at least one. -/
theorem create_wheelLines (terminal : Terminal) (settings : Settings) :
    (create terminal settings).wheelLines = max 1 settings.wheelLines :=
  (setEnabled_scrolls (ofSettings terminal settings) _).wheelLines_eq

/-- No run changes it. -/
theorem afterRun_wheelLines (l : Layout) (events : List (Event σ)) (world : σ) :
    (afterRun output fixed l events world).1.wheelLines = l.wheelLines := by
  induction events generalizing l world with
  | nil => rfl
  | cons event events ih =>
    cases event with
    | command c => exact (ih _ _).trans (step_wheelLines _ _ l c world)
    | change f => exact ih l (f world)

theorem Reachable.wheelLines_pos {l : Layout} {world : σ} (h : Reachable output fixed l world) :
    0 < l.wheelLines := by
  induction h with
  | create terminal settings world =>
    rw [create_wheelLines]
    exact Int.lt_of_lt_of_le Int.one_pos (Int.le_max_left 1 _)
  | command h c ih =>
    rw [← step_wheelLines _ _ _ c _] at ih
    exact ih
  | change h f ih => exact ih

/-- A new layout with scrolling on. -/
theorem create_of_enabled (terminal : Terminal) {settings : Settings}
    (hOn : settings.scrollEnabled = true) :
    create terminal settings =
      { ofSettings terminal settings with scroll := { enabled := true } } := by
  rw [create, hOn]
  rfl

end ScrollPane.Layout
