import ScrollPane.Proofs.Histories
import ScrollPane.Proofs.ReportGrammar

/-!
# Routing input

A chunk of input is the layout's own if it has the shape of a mouse report, whether or not it means
anything, so that no broken report is typed into an editor. The one exception are button events,
which a decoder in full mode passes on to whoever handles selections. Of all chunks only a turn of
the wheel does anything to the layout, and that is to scroll by the rows of the settings.

## Main definitions

- `Mouse.Chunk.IsButton`: the chunks that decode to a button event;
- `Layout.Moment.RoutesInput`: what becomes of a chunk.

## Main statements

- `Layout.consumes_iff`: the chunks that are consumed;
- `Layout.input_of_wheel`, `Layout.input_of_not_wheel`: what a chunk does to the layout;
- `Layout.input_routing`: so it goes at every moment of every run.
-/

namespace ScrollPane

/-- The event is about a button, and not the wheel. -/
def Mouse.Event.IsButton : Mouse.Event → Prop
  | .wheel .. => False
  | .button .. => True

/-- The chunk decodes to a button event. -/
def Mouse.Chunk.IsButton (chunk : Mouse.Chunk) : Prop :=
  ∃ event, Mouse.Event.ofChunk? chunk = some event ∧ event.IsButton

namespace Layout

variable {σ : Type} {output fixed : σ → Component σ}

/-! ## Consumed chunks -/

/-- A chunk is consumed if it has the shape of a report, unless it is a button event and the decoder
passes these on. -/
theorem consumes_iff (l : Layout) (chunk : Mouse.Chunk) :
    l.consumes chunk = true ↔
      chunk.isMouse = true ∧ ¬(l.decoder.buttons = true ∧ chunk.IsButton) := by
  unfold consumes
  cases hEvent : Mouse.Event.ofChunk? chunk with
  | none => simp [Mouse.Decoder.decode, Mouse.Chunk.IsButton, hEvent]
  | some event =>
    have hShape : chunk.isMouse = true := Mouse.Chunk.isMouse_of_event hEvent
    have hButton : chunk.IsButton ↔ event.IsButton := by
      simp [Mouse.Chunk.IsButton, hEvent]
    rw [Mouse.Decoder.decode_of_event hEvent, hButton]
    cases event with
    | wheel direction x y modifiers =>
      simp [Mouse.Decoder.accepts, Mouse.Event.IsButton, hShape]
    | button action button x y modifiers =>
      -- the mode decides whether it is dropped, and then consumed for its shape
      cases hMode : l.decoder.buttons with
      | true => simp [Mouse.Decoder.accepts, Mouse.Event.IsButton, hMode]
      | false => simp [Mouse.Decoder.accepts, hMode, hShape]

/-! ## What a chunk does -/

/-- A turn of the wheel scrolls the layout by its rows: back for a turn up, and forward for a turn
down. -/
theorem input_of_wheel (l : Layout) {chunk : Mouse.Chunk} {direction : Mouse.Direction} {x y : Nat}
    {modifiers : Mouse.Modifiers}
    (hEvent : Mouse.Event.ofChunk? chunk = some (.wheel direction x y modifiers)) :
    l.input chunk = l.scrollBy (-direction.delta * l.wheelLines) := by
  -- both modes of the decoder pass on the wheel
  rw [input, Mouse.Decoder.decode_of_event hEvent]
  rfl

/-- Any other chunk leaves the layout as it is. -/
theorem input_of_not_wheel (l : Layout) {chunk : Mouse.Chunk}
    (hOther : ∀ direction x y modifiers,
      Mouse.Event.ofChunk? chunk ≠ some (.wheel direction x y modifiers)) :
    l.input chunk = l := by
  unfold input
  split
  · next direction x y modifiers hDecode =>
    exact absurd (Mouse.Decoder.ofChunk?_of_decode hDecode) (hOther direction x y modifiers)
  · rfl

/-! ## Whole runs -/

/-- What becomes of a chunk of input at a moment, where a turn of the wheel scrolls by `rows`. -/
structure Moment.RoutesInput (m : Moment σ) (chunk : Mouse.Chunk) (rows : Int) : Prop where
  /-- The answer tells whether the chunk is consumed: if it has the shape of a report, and is no
  button event that the decoder passes on. -/
  answer : ∃ consumed, m.outcome.result = .consumed consumed ∧
    (consumed = true ↔
      chunk.isMouse = true ∧ ¬(m.before.decoder.buttons = true ∧ chunk.IsButton))
  /-- All that decodes to an event has that shape. -/
  shaped : (Mouse.Event.ofChunk? chunk).isSome → chunk.isMouse = true
  /-- A turn of the wheel up scrolls back. -/
  wheel_up : ∀ x y modifiers, Mouse.Event.ofChunk? chunk = some (.wheel .up x y modifiers) →
    m.after = m.before.scrollBy rows
  /-- A turn of the wheel down scrolls forward. -/
  wheel_down : ∀ x y modifiers, Mouse.Event.ofChunk? chunk = some (.wheel .down x y modifiers) →
    m.after = m.before.scrollBy (-rows)
  /-- All else leaves the layout as it is. -/
  untouched : (∀ direction x y modifiers,
    Mouse.Event.ofChunk? chunk ≠ some (.wheel direction x y modifiers)) → m.after = m.before
  /-- With scrolling off, every chunk does. -/
  untouched_of_disabled : m.before.scroll.enabled = false → m.after = m.before
  /-- The output and the fixed part are not involved. -/
  world_eq : m.worldAfter = m.world

/-- What becomes of a chunk given to a layout. -/
theorem routesInput_of (output fixed : σ → Component σ) (l : Layout) (world : σ)
    (chunk : Mouse.Chunk) :
    (Moment.of output fixed l world (.input chunk)).RoutesInput chunk l.wheelLines where
  answer := ⟨l.consumes chunk, rfl, l.consumes_iff chunk⟩
  shaped hSome := by
    obtain ⟨event, hEvent⟩ := Option.isSome_iff_exists.mp hSome
    exact Mouse.Chunk.isMouse_of_event hEvent
  wheel_up x y modifiers hEvent := by
    have hBack : -Mouse.Direction.up.delta * l.wheelLines = l.wheelLines := Int.one_mul _
    exact hBack ▸ l.input_of_wheel hEvent
  wheel_down x y modifiers hEvent := by
    have hForward : -Mouse.Direction.down.delta * l.wheelLines = -l.wheelLines :=
      Int.neg_one_mul _
    exact hForward ▸ l.input_of_wheel hEvent
  untouched hOther := l.input_of_not_wheel hOther
  untouched_of_disabled hOff := input_of_disabled hOff chunk
  world_eq := rfl

/-- **Input is routed by its shape.** At every moment of every run, a chunk is consumed exactly if it
has the shape of a mouse report and is no button event that the decoder passes on, and every chunk
that decodes to an event has that shape. With scrolling on, a turn of the wheel up scrolls back by
the rows of the settings, at least one, and a turn down forward by as many; any other chunk, and
every chunk with scrolling off, leaves the layout as it is. -/
theorem input_routing (output fixed : σ → Component σ) (terminal : Terminal) (settings : Settings)
    (events : List (Event σ)) (world : σ) :
    ∀ m ∈ history output fixed (create terminal settings) events world, ∀ chunk,
      m.command = .input chunk → m.RoutesInput chunk (max 1 settings.wheelLines) := by
  refine history_induction (fun l _ => l.wheelLines = max 1 settings.wheelLines) (fun _ => True) _
    ?_ (fun _ _ _ _ hWheel => hWheel) (create_wheelLines terminal settings) fun _ _ => trivial
  intro c _ l world hWheel m _
  constructor
  · exact (step_wheelLines _ _ l c world).trans hWheel
  · intro chunk hCommand
    obtain rfl : c = .input chunk := hCommand
    rw [← hWheel]
    exact routesInput_of output fixed l world chunk

/-- A turn of the wheel up, with two modifier keys held. -/
def modifiedTurn : Mouse.Chunk := .text "\x1b[<84;7;2M".toList

/-- A press of the left button. -/
def pressLeft : Mouse.Chunk := .bytes ("\x1b[<0;7;2M".toList.map Char.toUInt8)

/-- A report with a field that is too long. -/
def oversized : Mouse.Chunk := .text "\x1b[<1234567890;7;2m".toList

/-- A frame of ten rows of output, then all kinds of input, the press both in the restricted and in
the full mode. -/
def inputEvents : List (Event Sheet) :=
  [.command (.render 80), .command (.input modifiedTurn), .command (.input oversized),
    .command (.input pressLeft), .command (.setMouseTracking true), .command (.input pressLeft),
    .command (.input (.text ['m']))]

/-- The turn scrolls back by one row, since the settings ask for less. The broken report and the
press that the decoder drops are consumed without effect; the other press and the key are not. -/
theorem input_routing_modifiedTurn :
    let output := fun _ : Sheet => Sheet.component
    let fixed := fun _ : Sheet => Component.blank
    let settings : Settings := { scrollEnabled := true, wheelLines := -2 }
    let world : Sheet := fun _ => List.replicate 10 ['x']
    let moments := history output fixed (create { rows := 4 } settings) inputEvents world
    let drawn := Moment.of output fixed (create { rows := 4 } settings) world (.render 80)
    let turned := Moment.of output fixed drawn.after drawn.worldAfter (.input modifiedTurn)
    (turned ∈ moments ∧ turned.command = .input modifiedTurn) ∧
      turned.RoutesInput modifiedTurn (max 1 settings.wheelLines) ∧
      moments.map (fun m => (m.outcome.result, m.after.scroll.offset)) =
        [(.frame (List.replicate 4 ['x']), 6), (.consumed true, 5), (.consumed true, 5),
          (.consumed true, 5), (.done, 5), (.consumed false, 5), (.consumed false, 5)] := by
  intro output fixed settings world moments drawn turned
  have hMem : turned ∈ moments := List.mem_cons_of_mem _ List.mem_cons_self
  exact ⟨⟨hMem, rfl⟩, input_routing output fixed { rows := 4 } settings inputEvents world turned hMem
    modifiedTurn rfl, by decide +kernel⟩

end Layout

end ScrollPane
