import ScrollPane.Proofs.Contents

/-!
# What a frame asks of the output

A frame asks its output for rows, once or twice, and its rows do not tell how often. So the output is
recorded: a recorded component does what the component does, and keeps what it is asked for in a
record beside the world. No layout can tell the two apart, whatever it is told to do, and the record
only grows. The requests of a command are then what it adds to the record.

## Main definitions

- `Request`: what a component can be asked for;
- `Component.recorded`: a component that keeps the requests made of it;
- `Records`: an action and the same action with a recorded component;
- `Layout.Moment.requests`: the requests of a command at a moment of a run.

## Main statements

- `Layout.step_records`, `Layout.run_records`: recording an output changes nothing else;
- `Layout.window_requests`: the windows that a frame asks for.
-/

namespace ScrollPane

variable {σ α β : Type}

/-! ## Recorded components -/

/-- What a component can be asked for: all of its rows, or those inside a viewport. -/
inductive Request where
  | rows (width : Int)
  | window (width : Int) (viewport : Viewport)
deriving DecidableEq, Repr

/-- The request for the rows of a region of a height, from a row on. -/
def Request.region (width : Int) (height : Nat) (top : Int) : Request :=
  .window width { width, height, top }

/-- Adds a request to the record, then acts. -/
def recording (request : Request) (action : StateM σ α) : StateM (σ × List Request) α := do
  modify fun world => (world.1, world.2 ++ [request])
  Slot.output.run action

/-- The component `c`, with a record of what it is asked for. -/
def Component.recorded (c : Component σ) : Component (σ × List Request) where
  render width := recording (.rows width) (c.render width)
  window? := c.window?.map fun window width v => recording (.window width v) (window width v)
  invalidate := Slot.output.run c.invalidate

theorem Component.drawsWindows_recorded (c : Component σ) :
    c.recorded.drawsWindows = c.drawsWindows :=
  Option.isSome_map

/-! ## Recorded actions -/

/-- The second action does what the first does, and adds requests to the record. Which ones does not
depend on those already there. -/
def Records (action : StateM σ α) (recorded : StateM (σ × List Request) α)
    (requests : σ → List Request) : Prop :=
  ∀ world record,
    recorded (world, record) = ((action world).1, (action world).2, record ++ requests world)

namespace Records

/-- An action that does not concern the component makes no request. -/
theorem of_run (action : StateM σ α) : Records action (Slot.output.run action) fun _ => [] := by
  intro world record
  rw [List.append_nil]
  rfl

protected theorem pure (a : α) : Records (pure a : StateM σ α) (pure a) fun _ => [] :=
  of_run (pure a)

protected theorem bind {action : StateM σ α} {recorded : StateM (σ × List Request) α}
    {requests : σ → List Request} {next : α → StateM σ β}
    {recordedNext : α → StateM (σ × List Request) β} {later : α → σ → List Request}
    (h : Records action recorded requests)
    (hNext : ∀ a, Records (next a) (recordedNext a) (later a)) :
    Records (action >>= next) (recorded >>= recordedNext) fun world =>
      requests world ++ later (action world).1 (action world).2 := by
  intro world record
  rw [bind_apply, h world record, hNext _ _ _, List.append_assoc]
  rfl

/-- What comes after an action may make no more requests. -/
theorem bind_pure {action : StateM σ α} {recorded : StateM (σ × List Request) α}
    {requests : σ → List Request} (h : Records action recorded requests) (f : α → β) :
    Records (action >>= fun a => pure (f a)) (recorded >>= fun a => pure (f a)) requests := by
  intro world record
  rw [bind_apply, h world record]
  rfl

end Records

namespace Component

/-- What a view asks of a component. -/
def viewRequest (c : Component σ) (width : Int) (v : Viewport) : Request :=
  if c.drawsWindows then .window width v else .rows width

theorem records_render (c : Component σ) (width : Int) :
    Records (c.render width) (c.recorded.render width) fun _ => [.rows width] :=
  fun _ _ => rfl

theorem records_view (c : Component σ) (width : Int) (v : Viewport) :
    Records (c.view width v) (c.recorded.view width v) fun _ => [c.viewRequest width v] := by
  intro world record
  cases hWindow : c.window? with
  | none =>
    simp only [view, recorded, viewRequest, drawsWindows, hWindow, Option.map]
    rfl
  | some window =>
    simp only [view, recorded, viewRequest, drawsWindows, hWindow, Option.map]
    rfl

end Component

namespace Layout

/-! ## The requests of a command -/

/-- What a frame asks of an output for the rows of a region: one window, and a second one if the
height of the first answer moves the offset. -/
def settleRequests (scroll : Scroll) (output : Component σ) (width : Int) (height : Nat)
    (world : σ) : List Request :=
  if output.drawsWindows then
    let first := (output.view width { width, height, top := scroll.offset } world).1
    let moved := scroll.settle first.contentHeight height
    if moved = scroll.offset then [.region width height scroll.offset]
    else [.region width height scroll.offset, .region width height moved]
  else [.rows width]

theorem records_settleOutput (scroll : Scroll) (output : Component σ) (width : Int) (height : Nat) :
    Records (settleOutput scroll output width height)
      (settleOutput scroll output.recorded width height)
      (settleRequests scroll output width height) := by
  intro world record
  cases hDraws : output.drawsWindows with
  | false =>
    have hFull := (output.records_render width).bind_pure fun rows =>
      let offset := scroll.settle rows.length height
      ({ rows := (rows.drop offset.toNat).take height, offset, contentHeight := rows.length } :
        OutputWindow)
    simpa only [settleOutput, settleRequests, Component.drawsWindows_recorded, hDraws,
      Bool.false_eq_true, if_false] using hFull world record
  | true =>
    have hView : ∀ top, Records (output.view width { width, height, top })
        (output.recorded.view width { width, height, top }) fun _ => [.region width height top] := by
      intro top
      have hRequest : output.viewRequest width { width, height, top } = .region width height top :=
        if_pos hDraws
      exact hRequest ▸ output.records_view width _
    -- the first answer decides whether there is a second request, so both sides are run up to it
    simp only [settleOutput, settleRequests, Component.drawsWindows_recorded, hDraws, if_true,
      bind_apply, hView _ _ _]
    split
    · rfl
    · simp only [bind_apply, hView _ _ _, List.append_assoc, List.singleton_append]
      rfl

/-- What a frame asks of an output. -/
def frameRequests (l : Layout) (output fixed : Component σ) (width : Int) (height : Nat)
    (world : σ) : List Request :=
  if l.scroll.enabled then
    let drawn := fixed.render width world
    settleRequests l.scroll output width (height - drawn.1.length) drawn.2
  else [output.viewRequest width { width, height := Viewport.unboundedHeight }]

theorem records_composeScrolled (l : Layout) (output : Component σ) (fixedRows : List Text)
    (width : Int) (height : Nat) :
    Records (l.composeScrolled output fixedRows width height)
      (l.composeScrolled output.recorded fixedRows width height)
      (settleRequests l.scroll output width (height - fixedRows.length)) := by
  intro world record
  rw [composeScrolled_apply, composeScrolled_apply, records_settleOutput _ _ _ _ world record]

theorem records_composeStacked (l : Layout) (output : Component σ) (fixedRows : List Text)
    (width : Int) :
    Records (l.composeStacked output fixedRows width)
      (l.composeStacked output.recorded fixedRows width)
      fun _ => [output.viewRequest width { width, height := Viewport.unboundedHeight }] :=
  (output.records_view width _).bind_pure _

theorem records_compose (l : Layout) (output fixed : Component σ) (width : Int) (height : Nat) :
    Records (l.compose output fixed width height)
      (l.compose output.recorded (fixed.within .output) width height)
      (l.frameRequests output fixed width height) := by
  intro world record
  -- the fixed part is drawn first, and makes no request of the output
  have hFixed := Records.of_run (fixed.render width)
  cases hEnabled : l.scroll.enabled with
  | true =>
    have hFrame := hFixed.bind fun fixedRows =>
      records_composeScrolled { l with fixedHeight := fixedRows.length } output fixedRows width
        height
    rw [compose_of_enabled l hEnabled, compose_of_enabled l hEnabled, frameRequests,
      if_pos hEnabled]
    exact hFrame world record
  | false =>
    have hFrame := hFixed.bind fun fixedRows =>
      records_composeStacked { l with fixedHeight := fixedRows.length } output fixedRows width
    rw [compose_of_disabled l hEnabled, compose_of_disabled l hEnabled, frameRequests,
      if_neg (ne_true_of_eq_false hEnabled)]
    exact hFrame world record

/-- What a command asks of an output. Only frames ask for anything. -/
def commandRequests (l : Layout) (output fixed : Component σ) (c : Command) (world : σ) :
    List Request :=
  match c.frame? l with
  | some (width, height) => l.frameRequests output fixed width height world
  | none => []

/-- **Recording an output changes nothing else.** Given any command, a layout with a recorded output
answers, logs and becomes what it does with the output itself, and so does the world around it. -/
theorem step_records (l : Layout) (output fixed : Component σ) (c : Command) :
    Records (l.step output fixed c) (l.step output.recorded (fixed.within .output) c)
      (l.commandRequests output fixed c) := by
  cases c with
  | render width =>
    exact (l.records_compose output fixed width _).bind_pure (Outcome.map Reply.frame)
  | renderViewport width v =>
    have hFrame := (l.records_compose output fixed width v.height.toNat).bind_pure fun frame =>
      frame.map fun rows =>
        ({ rows := if frame.layout.scroll.enabled then rows else v.slice rows
           contentHeight := frame.layout.scroll.contentHeight + frame.layout.fixedHeight } : Window)
    exact hFrame.bind_pure (Outcome.map Reply.window)
  | invalidate => exact Records.of_run (l.step output fixed .invalidate)
  -- all other commands leave the components alone
  | _ => exact Records.pure _

/-! ## The requests at a moment of a run -/

namespace Moment

variable {output fixed : σ → Component σ}

/-- The same moment with a recorded output and an empty record. -/
def recorded (output fixed : σ → Component σ) (m : Moment σ) : Moment (σ × List Request) :=
  .of (fun world => (output world.1).recorded) (fun world => (fixed world.1).within .output)
    m.before (m.world, []) m.command

/-- What the command asks of the output. -/
def requests (output fixed : σ → Component σ) (m : Moment σ) : List Request :=
  (m.recorded output fixed).worldAfter.2

/-- A frame asks for one window or two. Each is as tall as the region that the fixed part leaves of
the frame; the first one is at the offset before the frame, and there is a second one only where the
height that the first answer reports moves the offset, at the offset it moves to. -/
structure AsksWindows (output fixed : σ → Component σ) (m : Moment σ) (width : Int)
    (region : Nat) : Prop where
  /-- Recording the output changes nothing else. -/
  outcome_eq : (m.recorded output fixed).outcome = m.outcome
  worldAfter_eq : (m.recorded output fixed).worldAfter.1 = m.worldAfter
  regionHeight_eq : m.after.scroll.regionHeight = region
  requests_eq :
    let top := m.before.scroll.offset
    let first := ((output m.world).view width { width, height := region, top }
      ((fixed m.world).render width m.world).2).1
    let moved := m.before.scroll.settle first.contentHeight region
    m.requests output fixed =
      if moved = top then [.region width region top]
      else [.region width region top, .region width region moved]

/-- Where the windows are exact, a second one means that the frame changes the offset, the last one is
at the offset after the frame, and the same frame once more asks for this one only. -/
structure AsksExactly (output fixed : σ → Component σ) (m : Moment σ) (width : Int)
    (region : Nat) : Prop where
  two_iff : (m.requests output fixed).length = 2 ↔ m.after.scroll.offset ≠ m.before.scroll.offset
  last_eq : (m.requests output fixed).getLast? = some (.region width region m.after.scroll.offset)
  /-- While the output still draws windows, and the fixed part as many rows as before. -/
  again_eq :
    (output m.worldAfter).drawsWindows = true →
    ((fixed m.worldAfter).render width m.worldAfter).1.length =
      ((fixed m.world).render width m.world).1.length →
    (Moment.of output fixed m.after m.worldAfter m.command).requests output fixed =
      [.region width region m.after.scroll.offset]

/-- Recorded or not, a moment is the same, and its requests are those of its command. -/
theorem recorded_of (output fixed : σ → Component σ) (l : Layout) (world : σ) (c : Command) :
    let m := Moment.of output fixed l world c
    (m.recorded output fixed).outcome = m.outcome ∧
      (m.recorded output fixed).worldAfter.1 = m.worldAfter ∧
      m.requests output fixed = l.commandRequests (output world) (fixed world) c world := by
  have hStep := l.step_records (output world) (fixed world) c world []
  exact ⟨congrArg Prod.fst hStep, congrArg (·.2.1) hStep, congrArg (·.2.2) hStep⟩

variable {l : Layout} {world : σ} {c : Command} {width : Int} {height : Nat} {fixedRows : List Text}

/-- The requests of a frame of an output that draws windows. -/
theorem requests_of_draws (hEnabled : l.scroll.enabled = true)
    (hWindows : (output world).drawsWindows = true)
    (hDraws : (Moment.of output fixed l world c).Draws fixed width height fixedRows) :
    (Moment.of output fixed l world c).AsksWindows output fixed width
      (height - fixedRows.length) := by
  have hFrame : c.frame? l = some (width, height) := hDraws.frame_eq
  obtain rfl : ((fixed world).render width world).1 = fixedRows := hDraws.fixedRows_eq
  obtain ⟨hOutcome, hWorld, hRequests⟩ := recorded_of output fixed l world c
  exact {
    outcome_eq := hOutcome
    worldAfter_eq := hWorld
    regionHeight_eq := by
      obtain ⟨hAfter, -, -⟩ := Moment.of_frame hFrame output fixed world
      rw [hAfter, compose_of_enabled l hEnabled, composeScrolled_apply]
      rfl
    requests_eq := by
      rw [hRequests, commandRequests, hFrame]
      simp only [frameRequests, hEnabled, settleRequests, hWindows, if_true]
      rfl }

/-- The requests of a frame over an output that serves its rows. -/
theorem AsksWindows.of_content (C : Content output fixed) {m : Moment σ} {region : Nat}
    (hServed : C.served m.world) (h : m.AsksWindows output fixed width region) :
    let top := m.before.scroll.offset
    let moved := m.before.scroll.settle (C.rows m.world width).length region
    m.requests output fixed =
      if moved = top then [.region width region top]
      else [.region width region top, .region width region moved] := by
  intro top moved
  have hFixed : C.drawn m.world ((fixed m.world).render width m.world).2 :=
    C.fixed_draws width hServed (C.drawn_refl hServed)
  have hFirst := ((C.output_serves hServed).view width { width, height := region, top } _ hFixed).1
  rw [h.requests_eq, hFirst]
  rfl

/-- Over an output that serves its rows, the last request of a frame is at the offset after it. -/
theorem requests_of_content (C : Content output fixed) (hServed : C.served world)
    (hEnabled : l.scroll.enabled = true) (hWindows : (output world).drawsWindows = true)
    (hDraws : (Moment.of output fixed l world c).Draws fixed width height fixedRows) :
    let m := Moment.of output fixed l world c
    let region := height - fixedRows.length
    m.requests output fixed =
      if m.after.scroll.offset = l.scroll.offset then [.region width region l.scroll.offset]
      else [.region width region l.scroll.offset, .region width region m.after.scroll.offset] := by
  intro m region
  obtain ⟨hAfter, -, -, -⟩ := of_draws C hServed hEnabled hDraws
  have hOffset : m.after.scroll.offset = l.scroll.settle (C.rows world width).length region :=
    congrArg (·.scroll.offset) hAfter
  rw [hOffset]
  exact (requests_of_draws hEnabled hWindows hDraws).of_content C hServed

/-- A frame settles on an offset at which another frame of the same content stays. -/
theorem settle_after_of_draws (C : Content output fixed) (hServed : C.served world)
    (hEnabled : l.scroll.enabled = true)
    (hDraws : (Moment.of output fixed l world c).Draws fixed width height fixedRows) :
    let m := Moment.of output fixed l world c
    m.after.scroll.settle (C.rows world width).length (height - fixedRows.length : Nat) =
      m.after.scroll.offset := by
  intro m
  obtain ⟨hAfter, -, -, -⟩ := of_draws C hServed hEnabled hDraws
  let window := OutputWindow.ofContent l.scroll (C.rows world width) (height - fixedRows.length)
  have hScroll : m.after.scroll = window.scroll true (height - fixedRows.length) := by
    rw [← hEnabled]
    exact congrArg (·.scroll) hAfter
  have hValid : (window.scroll true (height - fixedRows.length)).Valid :=
    OutputWindow.valid_scroll (l.scroll.settle_nonneg _ _) (l.scroll.settle_le_limitOf _ _)
  rw [hScroll]
  exact hValid.settle_eq rfl

/-- The requests of a frame, and of the same frame once more, over an output that serves its rows. -/
theorem asksExactly_of_content (C : Content output fixed) (hServed : C.served world)
    (hEnabled : l.scroll.enabled = true) (hWindows : (output world).drawsWindows = true)
    (hDraws : (Moment.of output fixed l world c).Draws fixed width height fixedRows) :
    (Moment.of output fixed l world c).AsksExactly output fixed width
      (height - fixedRows.length) := by
  have hRequests := requests_of_content C hServed hEnabled hWindows hDraws
  have hSettled := settle_after_of_draws C hServed hEnabled hDraws
  obtain ⟨hAfter, -, hDrawn, -⟩ := of_draws C hServed hEnabled hDraws
  have hFixedRows : ((fixed world).render width world).1 = fixedRows := hDraws.fixedRows_eq
  set m := Moment.of output fixed l world c
  constructor
  · rw [hRequests]
    split
    · next hStays => exact iff_of_false (by simp) (not_not_intro hStays)
    · next hMoves => exact iff_of_true rfl hMoves
  · rw [hRequests]
    split
    · next hStays => rw [hStays]; rfl
    · rfl
  · intro hWindows' hRows
    have hOn : m.after.scroll.enabled = true := by
      rw [hAfter]
      exact hEnabled
    have hFrame : c.frame? m.after = some (width, height) := by
      rw [← hDraws.frame_eq]
      exact Command.frame?_of_terminal_eq (congrArg (·.terminal) hAfter) c
    have hRegion : ((fixed m.worldAfter).render width m.worldAfter).1.length = fixedRows.length :=
      hRows.trans (congrArg List.length hFixedRows)
    -- the same content in the same region does not move the offset that it was settled on
    have hSame : C.rows m.worldAfter = C.rows world := C.rows_of_drawn hServed hDrawn
    have hAgain := (requests_of_draws hOn hWindows' ⟨hFrame, rfl⟩).of_content C
      (C.served_of_drawn hServed hDrawn)
    dsimp only [of] at hAgain
    rw [hRegion, hSame, if_pos hSettled] at hAgain
    exact hAgain

end Moment

/-- The event, where the world has a record beside it. -/
def Event.recorded : Event σ → Event (σ × List Request)
  | .command c => .command c
  | .change f => .change fun world => (f world.1, world.2)

/-- Recording the output of a whole run changes nothing else, and puts the requests of its moments in
the record, one after the other. -/
theorem run_records (output fixed : σ → Component σ) (l : Layout) (events : List (Event σ)) :
    Records (run output fixed l events)
      (run (fun world => (output world.1).recorded) (fun world => (fixed world.1).within .output) l
        (events.map Event.recorded))
      fun world => (history output fixed l events world).flatMap (Moment.requests output fixed) := by
  induction events generalizing l with
  | nil => exact Records.pure []
  | cons event events ih =>
    intro world record
    cases event with
    | command c =>
      obtain ⟨-, -, hRequests⟩ := Moment.recorded_of output fixed l world c
      have hStep := l.step_records (output world) (fixed world) c world record
      simp only [List.map_cons, Event.recorded, run, bind_apply, get_apply, pure_apply, hStep]
      -- the rest of the run finds the requests of this command in the record, and adds its own
      rw [ih _ _ _, history, List.flatMap_cons, hRequests, List.append_assoc]
      rfl
    -- a change of the world leaves the record as it is
    | change f => exact ih l (f world) record

/-- **The windows that a frame asks for.** In every state that a run can reach, a frame with scrolling
on asks an output that draws windows for one or two of them, as tall as the region: first at the
offset before the frame, and again only where the height that the first answer reports moves the
offset, at the moved one. Where the output serves its rows, there is a second request exactly if the
frame changes the offset, the last one is at the offset after the frame, and the same frame once more
makes one request. -/
theorem window_requests (output fixed : σ → Component σ) (terminal : Terminal) (settings : Settings)
    (events : List (Event σ)) (world : σ) :
    ∀ m ∈ history output fixed (create terminal settings) events world,
      ∀ width height fixedRows, m.Draws fixed width height fixedRows →
        m.before.scroll.enabled = true → (output m.world).drawsWindows = true →
        m.AsksWindows output fixed width (height - fixedRows.length) ∧
          ∀ C : Content output fixed, C.served m.world →
            m.AsksExactly output fixed width (height - fixedRows.length) := by
  refine history_induction (fun _ _ => True) (fun _ => True) _ ?_ (fun _ _ _ _ _ => trivial) trivial
    fun _ _ => trivial
  intro c _ l world _ m _
  refine ⟨trivial, fun width height fixedRows hDraws hEnabled hWindows => ?_⟩
  exact ⟨Moment.requests_of_draws hEnabled hWindows hDraws,
    fun C hServed => Moment.asksExactly_of_content C hServed hEnabled hWindows hDraws⟩

/-- Six lines are drawn and scrolled back by two rows; then only three are left, drawn twice. -/
def shrinkingEvents : List (Event (Transcript × Label)) :=
  [.command (.render 80), .command (.scrollBy 2),
    .change fun world => (.ofLines [['a'], ['b'], ['c']], world.2),
    .command (.render 80), .command (.render 80)]

/-- Above a label of one line there is room for three. The first frame after the shrinking asks at the
offset that was scrolled to, is told that only three lines are left, and asks again at the first row;
the frame after it asks once. -/
theorem window_requests_shrinking :
    let C := transcriptContent fun _ : Label => Label.component
    let output := fun _ : Transcript × Label => Transcript.component.within .output
    let fixed := fun _ : Transcript × Label => Label.component.within .fixed
    let start := create { rows := 4 } { scrollEnabled := true }
    let world : Transcript × Label :=
      (.ofLines [['a'], ['b'], ['c'], ['d'], ['e'], ['f']], { lines := [['g']] })
    let moments := history output fixed start shrinkingEvents world
    let drawn := Moment.of output fixed start world (.render 80)
    let back := Moment.of output fixed drawn.after drawn.worldAfter (.scrollBy 2)
    let shrunk := Moment.of output fixed back.after
      (.ofLines [['a'], ['b'], ['c']], back.worldAfter.2) (.render 80)
    (shrunk ∈ moments ∧ shrunk.Draws fixed 80 4 [['g']] ∧ shrunk.before.scroll.enabled = true ∧
        (output shrunk.world).drawsWindows = true ∧ C.served shrunk.world) ∧
      shrunk.AsksWindows output fixed 80 3 ∧ shrunk.AsksExactly output fixed 80 3 ∧
      moments.map (Moment.requests output fixed) =
        [[.region 80 3 0, .region 80 3 3], [], [.region 80 3 1, .region 80 3 0],
          [.region 80 3 0]] := by
  intro C output fixed start world moments drawn back shrunk
  have hMem : shrunk ∈ moments :=
    List.mem_cons_of_mem _ (List.mem_cons_of_mem _ List.mem_cons_self)
  have hDraws : shrunk.Draws fixed 80 4 [['g']] := ⟨by decide +kernel, by decide +kernel⟩
  have hEnabled : shrunk.before.scroll.enabled = true := by decide +kernel
  obtain ⟨hAsks, hExactly⟩ := window_requests output fixed { rows := 4 } { scrollEnabled := true }
    shrinkingEvents world shrunk hMem 80 4 [['g']] hDraws hEnabled rfl
  exact ⟨⟨hMem, hDraws, hEnabled, rfl, trivial⟩, hAsks, hExactly C trivial, by decide +kernel⟩

end Layout

end ScrollPane
