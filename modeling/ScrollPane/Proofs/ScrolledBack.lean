import ScrollPane.Proofs.Contents

/-!
# A layout that is scrolled back

Once a frame has found the layout away from the newest output, the rows on screen are settled: more
output only makes room below, and a smaller region ends earlier. So as long as output is only added
and the region is never taller than it was in that frame, every frame shows the content from the
same row on, keeps the selection and does not start to follow. A region of the old height then shows
the old rows, however small it has been in between.

## Main statements

- `Layout.frameOf_of_back`: what a frame that is scrolled back shows;
- `Layout.frameOf_stays`: such a frame does not move as long as there are rows below the region;
- `Layout.scrolled_back_stays`: what later frames show.
-/

namespace ScrollPane.Layout

variable {σ : Type} {output fixed : σ → Component σ}

/-! ## Frames -/

/-- Rows that are there in full do not have to be filled up. -/
theorem padRows_of_length_eq {rows : List Text} {height : Nat} (h : rows.length = height) :
    padRows rows height = rows := by
  rw [padRows, h, Nat.sub_self]
  exact List.append_nil rows

/-- A frame that does not follow the output has rows of the content below its region, so the region
is filled by the content from the offset on. -/
theorem frameOf_of_back {l : Layout} {content fixedRows : List Text} {height : Nat}
    (hBack : (l.frameOf content fixedRows height).layout.scroll.follow = false) :
    let after := (l.frameOf content fixedRows height).layout
    let region := height - fixedRows.length
    0 ≤ after.scroll.offset ∧ after.scroll.offset + region < content.length ∧
      after.visibleOutput = (content.drop after.scroll.offset.toNat).take region := by
  intro after region
  have hOffset : after.scroll.offset = l.scroll.settle content.length region := rfl
  have hNonneg := l.scroll.settle_nonneg content.length region
  have hLe := l.scroll.settle_le_limitOf content.length region
  have hNe : l.scroll.settle content.length region ≠ Scroll.limitOf content.length region :=
    beq_eq_false_iff_ne.mp hBack
  -- an offset below the limit leaves rows of the content below the region
  have hRoom : l.scroll.settle content.length region + region < content.length := by
    unfold Scroll.limitOf at hLe hNe
    omega
  have hFull : ((content.drop (l.scroll.settle content.length region).toNat).take region).length =
      region := by
    rw [List.length_take, List.length_drop]
    omega
  rw [hOffset]
  exact ⟨hNonneg, hRoom, padRows_of_length_eq hFull⟩

/-- Where there are rows of the content below the region, a layout that is scrolled back stays. -/
theorem frameOf_stays {l : Layout} (content fixedRows : List Text) (height : Nat)
    (hBack : l.scroll.follow = false) (hNonneg : 0 ≤ l.scroll.offset)
    (hRoom : l.scroll.offset + (height - fixedRows.length : Nat) < content.length) :
    let after := (l.frameOf content fixedRows height).layout
    after.scroll.offset = l.scroll.offset ∧ after.scroll.follow = false ∧
      after.selection? = l.selection? := by
  intro after
  have hBelow : l.scroll.offset <
      Scroll.limitOf content.length (height - fixedRows.length : Nat) := by
    unfold Scroll.limitOf
    omega
  have hSettle : l.scroll.settle content.length (height - fixedRows.length : Nat) =
      l.scroll.offset := by
    unfold Scroll.settle clamp
    rw [if_neg (by rw [hBack]; exact Bool.false_ne_true)]
    omega
  have hOffset : after.scroll.offset = l.scroll.offset := hSettle
  refine ⟨hOffset, ?_, if_pos hOffset⟩
  show (l.scroll.settle _ _ == _) = false
  rw [hSettle]
  exact beq_eq_false_iff_ne.mpr (Int.ne_of_lt hBelow)

/-- Rows that were there stay where they were as more come in. -/
theorem slice_of_prefix {rows more : List Text} (hGrown : rows <+: more) {start height : Nat}
    (hInside : start + height ≤ rows.length) :
    (more.drop start).take height = (rows.drop start).take height := by
  obtain ⟨rest, rfl⟩ := hGrown
  rw [List.drop_append_of_le_length (by omega), List.take_append_of_le_length]
  rw [List.length_drop]
  omega

/-! ## Later frames -/

/-- The event adds rows at the end of the output, draws a frame at a width, or changes the room
there is for the output. -/
def Event.OnlyAppends (C : Content output fixed) (width : Int) : Event σ → Prop
  | .command (.render w) => w = width
  | .command (.renderViewport w _) => w = width
  | .command (.resize _) => True
  | .command _ => False
  | .change f => ∀ world, C.served world →
    C.served (f world) ∧ C.rows world width <+: C.rows (f world) width

/-- The moment shows the content from the row on where another moment has left the layout, with the
same selection, and does not follow the output. -/
structure Moment.ShowsFrom (C : Content output fixed) (m first : Moment σ) (width : Int)
    (height : Nat) (fixedRows : List Text) : Prop where
  offset_eq : m.after.scroll.offset = first.after.scroll.offset
  follow_eq : m.after.scroll.follow = false
  selection_eq : m.after.selection? = first.after.selection?
  /-- All visible rows are rows of the content. -/
  visible_eq : m.after.visibleOutput =
    ((C.rows m.world width).drop first.after.scroll.offset.toNat).take (height - fixedRows.length)
  /-- They fill the region of the frame, with the selection drawn in them. -/
  isFrame : IsFrame m.before m.after m.after.visibleOutput fixedRows height m.outcome.result.rows

/-- A layout, and the world around it, as appending and drawing leave them after a frame that was
scrolled back. -/
structure Stays (C : Content output fixed) (first : Moment σ) (width : Int) (oldRows : List Text)
    (l : Layout) (world : σ) : Prop where
  served : C.served world
  enabled : l.scroll.enabled = true
  follow_eq : l.scroll.follow = false
  offset_eq : l.scroll.offset = first.after.scroll.offset
  selection_eq : l.selection? = first.after.selection?
  grown : oldRows <+: C.rows world width

variable {C : Content output fixed} {first : Moment σ} {width : Int} {oldRows : List Text}
  {region : Nat}

/-- A frame whose region is not taller than the first one leaves the layout where it stays, and
shows the content from there on. -/
theorem Stays.draw (hNonneg : 0 ≤ first.after.scroll.offset)
    (hRoom : first.after.scroll.offset + region < oldRows.length) {l : Layout} {world : σ}
    (hStays : Stays C first width oldRows l world) {c : Command} {height : Nat}
    {fixedRows : List Text}
    (hDraws : (Moment.of output fixed l world c).Draws fixed width height fixedRows)
    (hRegion : height - fixedRows.length ≤ region) :
    let m := Moment.of output fixed l world c
    Stays C first width oldRows m.after m.worldAfter ∧
      m.ShowsFrom C first width height fixedRows := by
  intro m
  obtain ⟨hAfter, -, hDrawn, hFrame⟩ := Moment.of_draws C hStays.served hStays.enabled hDraws
  have hAfter : m.after = (l.frameOf (C.rows world width) fixedRows height).layout := hAfter
  have hLonger : oldRows.length ≤ (C.rows world width).length := hStays.grown.length_le
  have hNonneg' : 0 ≤ l.scroll.offset := by rw [hStays.offset_eq]; exact hNonneg
  have hRoom' : l.scroll.offset + (height - fixedRows.length : Nat) <
      (C.rows world width).length := by
    rw [hStays.offset_eq]
    omega
  obtain ⟨hOffset, hFollow, hSelection⟩ :=
    frameOf_stays (C.rows world width) fixedRows height hStays.follow_eq hNonneg' hRoom'
  obtain ⟨-, -, hVisible⟩ := frameOf_of_back hFollow
  rw [← hAfter] at hOffset hFollow hSelection hVisible
  have hOffset' := hOffset.trans hStays.offset_eq
  have hSelection' := hSelection.trans hStays.selection_eq
  rw [hOffset'] at hVisible
  constructor
  · exact {
      served := C.served_of_drawn hStays.served hDrawn
      enabled := by rw [hAfter]; exact hStays.enabled
      follow_eq := hFollow
      offset_eq := hOffset'
      selection_eq := hSelection'
      grown := by rw [C.rows_of_drawn hStays.served hDrawn]; exact hStays.grown }
  · -- the window that was drawn is all that is visible of the content
    have hWindow : (OutputWindow.ofContent l.scroll (C.rows world width)
        (height - fixedRows.length)).rows = m.after.visibleOutput := by
      have hSettled : l.scroll.settle (C.rows world width).length
          (height - fixedRows.length : Nat) = m.after.scroll.offset := by rw [hAfter]; rfl
      rw [hVisible, OutputWindow.ofContent, hSettled, hOffset']
    rw [hWindow] at hFrame
    exact {
      offset_eq := hOffset'
      follow_eq := hFollow
      selection_eq := hSelection'
      visible_eq := hVisible
      isFrame := hFrame }

/-! ## Whole runs -/

/-- The events of such a run draw frames at one width, or draw nothing and move nothing. -/
theorem Event.OnlyAppends.frame_or_resize {c : Command}
    (h : (Event.command c : Event σ).OnlyAppends C width) (l : Layout) :
    (∃ height, c.frame? l = some (width, height)) ∨ ∃ rows, c = .resize rows := by
  cases c with
  | render w =>
    obtain rfl : w = width := h
    exact .inl ⟨_, rfl⟩
  | renderViewport w v =>
    obtain rfl : w = width := h
    exact .inl ⟨_, rfl⟩
  | resize rows => exact .inr ⟨rows, rfl⟩
  | _ => exact h.elim

/-- **A layout that is scrolled back stays where it is.** Let a frame at a width, with scrolling on,
have found the layout away from the newest output. In any run from there in which output is only
added, frames have this width, and their regions are not taller than that of the first, every frame
leaves the offset and the selection as they are, does not follow the output, and shows just the rows
of the content from the offset on. With the height and the fixed rows of the first frame it is the
first frame again. -/
theorem scrolled_back_stays (C : Content output fixed) {l : Layout} {world : σ} {c : Command}
    {width : Int} {height : Nat} {fixedRows : List Text} {events : List (Event σ)} :
    let first := Moment.of output fixed l world c
    let later := history output fixed first.after events first.worldAfter
    C.served world → l.scroll.enabled = true → first.Draws fixed width height fixedRows →
    first.after.scroll.follow = false → (∀ e ∈ events, e.OnlyAppends C width) →
    (∀ m ∈ later, ∀ height' fixedRows', m.Draws fixed width height' fixedRows' →
      height' - fixedRows'.length ≤ height - fixedRows.length) →
    ∀ m ∈ later, ∀ height' fixedRows', m.Draws fixed width height' fixedRows' →
      m.ShowsFrom C first width height' fixedRows' ∧
        (height' = height → fixedRows' = fixedRows →
          m.outcome.result.rows = first.outcome.result.rows) := by
  intro first later hServed hEnabled hDraws hBack hEvents hRegions
  obtain ⟨hAfter, -, hDrawn, hFrame⟩ := Moment.of_draws C hServed hEnabled hDraws
  have hAfter : first.after = (l.frameOf (C.rows world width) fixedRows height).layout := hAfter
  have hBack' := hBack
  rw [hAfter] at hBack'
  obtain ⟨hNonneg, hRoom, hVisible⟩ := frameOf_of_back hBack'
  rw [← hAfter] at hNonneg hRoom hVisible
  -- the run starts at the first frame: its rows are the old ones, and its region bounds all others
  have hStart : Stays C first width (C.rows world width) first.after first.worldAfter := {
    served := C.served_of_drawn hServed hDrawn
    enabled := by rw [hAfter]; exact hEnabled
    follow_eq := hBack
    offset_eq := rfl
    selection_eq := rfl
    grown := C.rows_of_drawn hServed hDrawn ▸ List.prefix_rfl }
  refine history_induction (Stays C first width (C.rows world width))
    (fun m => ∀ height' fixedRows', m.Draws fixed width height' fixedRows' →
      height' - fixedRows'.length ≤ height - fixedRows.length) _ ?_ ?_ hStart hRegions
  · intro c' hMem l' world' hStays m hRegion
    have hDraw := fun height' fixedRows' (hDraws' : m.Draws fixed width height' fixedRows') =>
      hStays.draw hNonneg hRoom hDraws' (hRegion height' fixedRows' hDraws')
    constructor
    · rcases (hEvents _ hMem).frame_or_resize l' with ⟨height', hFrame'⟩ | ⟨rows, rfl⟩
      · exact (hDraw height' _ ⟨hFrame', rfl⟩).1
      · -- a change of the terminal is not seen before the next frame
        exact { hStays with }
    · intro height' fixedRows' hDraws'
      have hShows := (hDraw height' fixedRows' hDraws').2
      refine ⟨hShows, ?_⟩
      rintro rfl rfl
      have hSame : m.after.visibleOutput = first.after.visibleOutput := by
        rw [hShows.visible_eq, hVisible]
        exact slice_of_prefix hStays.grown (by omega)
      have hFrame : first.outcome.result.rows = _ := hFrame.frame_eq
      rw [hShows.isFrame.frame_eq, hFrame, hShows.selection_eq, hSame]
  · intro f hMem l' world' hStays
    obtain ⟨hServed', hMore⟩ := hEvents _ hMem world' hStays.served
    exact { hStays with served := hServed', grown := hStays.grown.trans hMore }

/-- A layout that is scrolled back to the second line of a transcript, above a label. -/
def reading : Layout :=
  { create { rows := 3 } { scrollEnabled := true } with
    scroll :=
      { enabled := true, offset := 1, follow := false, contentHeight := 5, regionHeight := 2 }
    selection? := some ⟨0, 0, 0, 1⟩ }

/-- Five lines above a label of one. -/
def readingWorld : Transcript × Label :=
  (.ofLines [['a'], ['b'], ['c'], ['d'], ['e']], { lines := [['f']] })

/-- A line comes in while the terminal has room for the label only; then the label grows, and at
last there is the old room again. -/
def readingEvents : List (Event (Transcript × Label)) :=
  [.change fun world => (world.1.appendLines [['g']], world.2), .command (.resize 1),
    .command (.render 80), .change fun world => (world.1, { lines := [['x'], ['y']] }),
    .command (.resize 3), .command (.render 80),
    .change fun world => (world.1, { lines := [['f']] }),
    .command (.renderViewport 80 { width := 80, height := 3 })]

theorem readingEvents_onlyAppends :
    ∀ e ∈ readingEvents, e.OnlyAppends (transcriptContent fun _ : Label => Label.component) 80 := by
  simp [readingEvents, Event.OnlyAppends, transcriptContent, Transcript.appendLines]

/-- The frames of this run, of which the last is the one that it started from. -/
theorem scrolled_back_stays_reading :
    let C := transcriptContent fun _ : Label => Label.component
    let output := fun _ : Transcript × Label => Transcript.component.within .output
    let fixed := fun _ : Transcript × Label => Label.component.within .fixed
    let first := Moment.of output fixed reading readingWorld (.render 80)
    let later := history output fixed first.after readingEvents first.worldAfter
    (∀ m ∈ later, ∀ height fixedRows, m.Draws fixed 80 height fixedRows →
        m.ShowsFrom C first 80 height fixedRows ∧
          (height = 3 → fixedRows = [['f']] → m.outcome.result.rows = first.outcome.result.rows)) ∧
      (first :: later).map (fun m => m.outcome.result.rows) =
        [["\x1b[7mb\x1b[0m".toList, ['c'], ['f']], [], [['f']], [],
          ["\x1b[7mb\x1b[0m".toList, ['x'], ['y']],
          ["\x1b[7mb\x1b[0m".toList, ['c'], ['f']]] := by
  intro C output fixed first later
  have hRegions : ∀ m ∈ later, ∀ frame ∈ m.command.frame? m.before,
      frame.2 - ((fixed m.world).render frame.1 m.world).1.length ≤ 2 := by
    decide +kernel
  constructor
  · refine scrolled_back_stays C trivial rfl ⟨rfl, by decide +kernel⟩ (by decide +kernel)
      readingEvents_onlyAppends ?_
    intro m hMem height fixedRows hDraws
    have hRegion := hRegions m hMem _ hDraws.frame_eq
    rw [hDraws.fixedRows_eq] at hRegion
    exact hRegion
  · decide +kernel

end ScrollPane.Layout
