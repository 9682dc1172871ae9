import ScrollPane.Proofs.Contents

/-!
# Following the output

A layout that follows the output goes on following it until someone scrolls back: neither more
output nor less, no change of the terminal or of the fixed part and no other input makes it stop.
Its frames show the end of the output, and they depend on nothing that was there before: what the
layout remembers of earlier frames tells it where to look first, and never what it finds.

## Main definitions

- `Layout.Command.Onward`: the commands that do not scroll back;
- `Layout.Following`: what they keep;
- `Layout.Moment.ShowsEnd`: what frames show meanwhile.

## Main statements

- `Layout.frameOf_of_follow`: a frame of a layout that follows the output;
- `Layout.following_step`: a command that does not scroll back leaves the layout following;
- `Layout.following_is_kept`: the frames of such runs.
-/

namespace ScrollPane.Layout

variable {σ : Type} {output fixed : σ → Component σ}

/-! ## Frames -/

/-- While the output is followed, frames show the last rows of the content, and go on following. -/
theorem frameOf_of_follow {l : Layout} (hFollow : l.scroll.follow = true)
    (content fixedRows : List Text) (height : Nat) :
    let region := height - fixedRows.length
    (OutputWindow.ofContent l.scroll content region).rows = content.rtake region ∧
      (l.frameOf content fixedRows height).layout.scroll.follow = true := by
  intro region
  have hSettle : l.scroll.settle content.length region = Scroll.limitOf content.length region := by
    rw [Scroll.settle, if_pos hFollow]
  have hLimit : (Scroll.limitOf content.length region).toNat = content.length - region := by
    unfold Scroll.limitOf
    omega
  constructor
  · simp only [OutputWindow.ofContent, hSettle, hLimit, List.rtake]
    apply List.take_of_length_le
    rw [List.length_drop]
    omega
  · show (l.scroll.settle content.length region == Scroll.limitOf content.length region) = true
    rw [hSettle]
    exact beq_self_eq_true _

/-- What a layout that follows the output answers is the same for all such layouts without a
selection. -/
theorem answer_frameOf_of_follow {l l' : Layout} (hFollow : l.scroll.follow = true)
    (hFollow' : l'.scroll.follow = true) (hNone : l.selection? = none)
    (hNone' : l'.selection? = none) (c : Command) (content fixedRows : List Text) (height : Nat) :
    c.answer (l.frameOf content fixedRows height) =
      c.answer (l'.frameOf content fixedRows height) := by
  obtain ⟨hRows, -⟩ := frameOf_of_follow hFollow content fixedRows height
  obtain ⟨hRows', -⟩ := frameOf_of_follow hFollow' content fixedRows height
  have hSame : (l.frameOf content fixedRows height).result =
      (l'.frameOf content fixedRows height).result := by
    simp only [frameOf, hRows, hRows', hNone, hNone', ite_self]
  cases c with
  | renderViewport width v =>
    exact congrArg (fun rows => Reply.window { rows, contentHeight := _ }) hSame
  | _ => exact congrArg Reply.frame hSame

/-! ## Commands -/

/-- The command does not scroll back, and leaves scrolling on. -/
def Command.Onward : Command → Prop
  | .setEnabled enabled => enabled = true
  | .scrollBy rows => rows ≤ 0
  | .scrollByPage pages => pages ≤ 0
  | .scrollToTop => False
  | .input chunk => ∀ x y modifiers, Mouse.Event.ofChunk? chunk ≠ some (.wheel .up x y modifiers)
  | _ => True

/-- The event does not scroll back. The output may become any other that serves its rows. -/
def Event.Onward (C : Content output fixed) : Event σ → Prop
  | .command .invalidate => ∀ l world, C.served world →
    C.served (Moment.of output fixed l world .invalidate).worldAfter
  | .command c => c.Onward
  | .change f => ∀ world, C.served world → C.served (f world)

/-- A tree may be told to drop what it remembers, if its guests then drop nothing that they show. -/
theorem Event.onward_invalidate_tree {γ φ : Type} {guestComponent : γ → Component γ}
    (hGuests : Scene.GuestsDropUnseen guestComponent) (h : Handle) (fixed : φ → Component φ) :
    (Event.command .invalidate).Onward (treeContent guestComponent h fixed) := by
  intro l world hServing
  obtain ⟨-, hAlike⟩ :=
    Scene.componentAt_invalidate hGuests hServing.steady world.1 (Scene.Alike.refl world.1)
  -- the fixed part has a place of its own in the world
  exact hServing.of_alike hAlike

/-- A layout in order that follows the output. -/
structure Following (l : Layout) : Prop where
  enabled : l.scroll.enabled = true
  follow_eq : l.scroll.follow = true
  valid : l.scroll.Valid
  wheelLines_pos : 0 < l.wheelLines

theorem Following.scrollBy {l : Layout} (h : Following l) {rows : Int} (hRows : rows ≤ 0) :
    Following (l.scrollBy rows) := by
  unfold Layout.scrollBy
  split
  · have hOffset : l.scroll.offset = l.scroll.limit := (h.valid.follow_iff h.enabled).mp h.follow_eq
    have hNonneg : 0 ≤ l.scroll.limit := Scroll.limitOf_nonneg _ _
    -- the layout stands at the limit, and so does what is beyond it
    have hClamp : clamp (l.scroll.offset - rows) 0 l.scroll.limit = l.scroll.limit := by
      unfold clamp
      omega
    exact {
      enabled := h.enabled
      follow_eq := by
        show (clamp (l.scroll.offset - rows) 0 l.scroll.limit == l.scroll.limit) = true
        rw [hClamp]
        exact beq_self_eq_true _
      valid := Scroll.valid_moveTo h.enabled _
      wheelLines_pos := h.wheelLines_pos }
  · exact h

theorem Following.input {l : Layout} (h : Following l) {chunk : Mouse.Chunk}
    (hDown : ∀ x y modifiers, Mouse.Event.ofChunk? chunk ≠ some (.wheel .up x y modifiers)) :
    Following (l.input chunk) := by
  have hPos := h.wheelLines_pos
  unfold Layout.input
  split
  · next direction x y modifiers hDecode =>
    have hEvent := Mouse.Decoder.ofChunk?_of_decode hDecode
    cases direction with
    | up => exact absurd hEvent (hDown x y modifiers)
    | down =>
      apply h.scrollBy
      show -1 * l.wheelLines ≤ 0
      omega
  · exact h

/-- A frame leaves the layout following the output. -/
theorem Following.draw (C : Content output fixed) {l : Layout} {world : σ} (h : Following l)
    (hServed : C.served world) {c : Command} {width : Int} {height : Nat}
    (hFrame : c.frame? l = some (width, height)) :
    Following (Moment.of output fixed l world c).after ∧
      C.served (Moment.of output fixed l world c).worldAfter := by
  have hDraws : (Moment.of output fixed l world c).Draws fixed width height
      ((fixed world).render width world).1 := ⟨hFrame, rfl⟩
  obtain ⟨hAfter, -, hDrawn, -⟩ := Moment.of_draws C hServed h.enabled hDraws
  obtain ⟨-, hFollow⟩ := frameOf_of_follow h.follow_eq (C.rows world width)
    ((fixed world).render width world).1 height
  refine ⟨?_, C.served_of_drawn hServed hDrawn⟩
  have hValid : (Moment.of output fixed l world c).after.scroll.Valid :=
    step_scroll_valid _ _ h.valid c world
  rw [hAfter] at hValid ⊢
  exact {
    enabled := h.enabled
    follow_eq := hFollow
    valid := hValid
    wheelLines_pos := h.wheelLines_pos }

/-- A command that does not scroll back leaves the layout following the output. -/
theorem following_step (C : Content output fixed) {l : Layout} {world : σ} (h : Following l)
    (hServed : C.served world) {c : Command} (hOnward : (Event.command c).Onward C) :
    Following (Moment.of output fixed l world c).after ∧
      C.served (Moment.of output fixed l world c).worldAfter := by
  cases c with
  | setEnabled enabled =>
    obtain rfl : enabled = true := hOnward
    have hSame : l.setEnabled true = l := if_pos h.enabled
    refine ⟨?_, hServed⟩
    show Following (l.setEnabled true)
    rw [hSame]
    exact h
  | scrollBy rows => exact ⟨h.scrollBy hOnward, hServed⟩
  | scrollByPage pages =>
    have hPage : 0 ≤ l.scroll.pageSize := by
      unfold Scroll.pageSize
      omega
    have hRows : pages * l.scroll.pageSize ≤ 0 := Int.mul_nonpos_of_nonpos_of_nonneg hOnward hPage
    exact ⟨h.scrollBy hRows, hServed⟩
  | scrollToTop => exact hOnward.elim
  | scrollToBottom =>
    refine ⟨?_, hServed⟩
    exact {
      enabled := h.enabled
      follow_eq := rfl
      valid := l.scroll.valid_toBottom
      wheelLines_pos := h.wheelLines_pos }
  | input chunk => exact ⟨h.input hOnward, hServed⟩
  | invalidate => exact ⟨h, hOnward l world hServed⟩
  | render width => exact h.draw C hServed rfl
  | renderViewport width v => exact h.draw C hServed rfl
  -- the other commands touch neither the scroll state nor the world
  | _ => exact ⟨{ h with }, hServed⟩

/-! ## Whole runs -/

/-- The moment shows the end of the content. Without a selection it is drawn just as a new layout
would draw it. -/
structure Moment.ShowsEnd (C : Content output fixed) (m : Moment σ) (width : Int) (height : Nat)
    (fixedRows : List Text) : Prop where
  /-- The rows above the fixed part are the last of the content, filled up below. -/
  isFrame : IsFrame m.before m.after ((C.rows m.world width).rtake (height - fixedRows.length))
    fixedRows height m.outcome.result.rows
  result_eq : m.before.selection? = none →
    ∀ settings : Settings, settings.scrollEnabled = true →
      m.outcome.result = (Moment.of output fixed (create m.before.terminal settings) m.world
        m.command).outcome.result

/-- The frames of a layout that follows the output show the end of the content. -/
theorem Following.showsEnd (C : Content output fixed) {l : Layout} {world : σ} (h : Following l)
    (hServed : C.served world) {c : Command} {width : Int} {height : Nat} {fixedRows : List Text}
    (hDraws : (Moment.of output fixed l world c).Draws fixed width height fixedRows) :
    (Moment.of output fixed l world c).ShowsEnd C width height fixedRows := by
  obtain ⟨-, hAnswer, -, hFrame⟩ := Moment.of_draws C hServed h.enabled hDraws
  obtain ⟨hRows, -⟩ := frameOf_of_follow h.follow_eq (C.rows world width) fixedRows height
  rw [hRows] at hFrame
  refine { isFrame := hFrame, result_eq := fun hNone settings hOn => ?_ }
  have hNew := create_of_enabled l.terminal hOn
  have hTerminal : (create l.terminal settings).terminal = l.terminal := by rw [hNew]; rfl
  -- the new layout is asked for a frame of the same size, in the same world
  have hDraws' : (Moment.of output fixed (create l.terminal settings) world c).Draws fixed width
      height fixedRows := {
    frame_eq := (Command.frame?_of_terminal_eq hTerminal c).trans hDraws.frame_eq
    fixedRows_eq := hDraws.fixedRows_eq }
  obtain ⟨-, hAnswer', -, -⟩ := Moment.of_draws C hServed (by rw [hNew]) hDraws'
  calc (Moment.of output fixed l world c).outcome.result
      = c.answer (l.frameOf (C.rows world width) fixedRows height) := hAnswer
    _ = c.answer ((create l.terminal settings).frameOf (C.rows world width) fixedRows height) :=
        answer_frameOf_of_follow h.follow_eq (by rw [hNew]) hNone (by rw [hNew]; rfl) c _ _ _
    _ = (Moment.of output fixed (create l.terminal settings) world c).outcome.result :=
        hAnswer'.symm

/-- **A layout that follows the output is only stopped by scrolling back.** In a run from any
reachable state with scrolling on and the output followed, in which nothing scrolls back, the output
is followed after every command, whatever becomes of the output, of the fixed part and of the
terminal. Every frame shows the last rows of the content as it is then, and where nothing is
selected it is the frame of a layout that is new. -/
theorem following_is_kept (C : Content output fixed) {l : Layout} {world : σ}
    {events : List (Event σ)} (hReachable : Reachable output fixed l world)
    (hEnabled : l.scroll.enabled = true) (hFollow : l.scroll.follow = true)
    (hServed : C.served world) (hEvents : ∀ e ∈ events, e.Onward C) :
    ∀ m ∈ history output fixed l events world,
      m.after.scroll.enabled = true ∧ m.after.scroll.follow = true ∧
        ∀ width height fixedRows, m.Draws fixed width height fixedRows →
          m.ShowsEnd C width height fixedRows := by
  have hStart : Following l := {
    enabled := hEnabled
    follow_eq := hFollow
    valid := hReachable.scroll_valid
    wheelLines_pos := hReachable.wheelLines_pos }
  refine history_induction (fun l world => Following l ∧ C.served world) (fun _ => True) _ ?_ ?_
    ⟨hStart, hServed⟩ fun _ _ => trivial
  · rintro c hMem l world ⟨hFollowing, hServed⟩ m -
    have hStep := following_step C hFollowing hServed (hEvents _ hMem)
    refine ⟨hStep, hStep.1.enabled, hStep.1.follow_eq, ?_⟩
    intro width height fixedRows hDraws
    exact hFollowing.showsEnd C hServed hDraws
  · rintro f hMem l world ⟨hFollowing, hServed⟩
    exact ⟨hFollowing, hEvents _ hMem world hServed⟩

/-- Sheets remember nothing that they could drop. -/
theorem sheetGuest_dropsUnseen : Scene.GuestsDropUnseen Scene.sheetGuest :=
  fun _ _ hAlike => hAlike

/-- A turn of the wheel towards the newest output. -/
def turnDown : Mouse.Chunk := .text "\x1b[<65;1;1M".toList

/-- The journal grows, shrinks and is emptied, and the terminal and the label below it change. -/
def journalGoesOn : List (Event (Scene Sheet × Label)) :=
  [.command (.render 80), .command (.select (some ⟨0, 0, 0, 1⟩)),
    .change fun world => (journal [['a'], ['b'], ['c']], world.2), .command (.scrollBy (-3)),
    .command (.render 80), .command .invalidate, .command (.input turnDown),
    .change fun world => (journal [['x']], world.2), .command (.resize 5), .command (.render 80),
    .change fun _ => (journal [], { lines := [['y'], ['z']] }),
    .command (.renderViewport 80 { width := 80, height := 3 })]

theorem journalGoesOn_onward :
    ∀ e ∈ journalGoesOn,
      e.Onward (treeContent Scene.sheetGuest 2 fun _ : Label => Label.component) := by
  have hInvalidate := Event.onward_invalidate_tree sheetGuest_dropsUnseen 2
    fun _ : Label => Label.component
  have hDown : ∀ x y modifiers,
      Mouse.Event.ofChunk? turnDown ≠ some (.wheel .up x y modifiers) := by
    have hEvent : Mouse.Event.ofChunk? turnDown = some (.wheel .down 0 0 {}) := by decide +kernel
    simp [hEvent]
  simp only [journalGoesOn, List.forall_mem_cons]
  exact ⟨trivial, trivial, fun _ _ => journal_serving _, (by decide : (-3 : Int) ≤ 0), trivial,
    hInvalidate, hDown, fun _ _ => journal_serving _, trivial, trivial,
    fun _ _ => journal_serving _, trivial, fun _ hMem => absurd hMem List.not_mem_nil⟩

/-- The frames of this run: each shows the end of the journal. -/
theorem following_is_kept_journal :
    let C := treeContent Scene.sheetGuest 2 fun _ : Label => Label.component
    let output := treeOutput Scene.sheetGuest 2
    let fixed := fun _ : Scene Sheet × Label => Label.component.within .fixed
    let l := create { rows := 3 } { scrollEnabled := true }
    let world : Scene Sheet × Label := (journal [['a'], ['b']], { lines := [['f']] })
    let moments := history output fixed l journalGoesOn world
    (∀ m ∈ moments, m.after.scroll.enabled = true ∧ m.after.scroll.follow = true ∧
        ∀ width height fixedRows, m.Draws fixed width height fixedRows →
          m.ShowsEnd C width height fixedRows) ∧
      (moments.map fun m => m.outcome.result.rows).filter (· ≠ []) =
        [[['a'], ['b'], ['f']], [['b'], ['c'], ['f']], [['x'], ['g'], ['x'], [], ['f']],
          [['g'], ['y'], ['z']]] := by
  intro C output fixed l world moments
  have hServed : C.served world := journal_serving _
  constructor
  · exact following_is_kept C (.create _ _ _) rfl rfl hServed journalGoesOn_onward
  · decide +kernel

end ScrollPane.Layout
