import ScrollPane.Proofs.InputRouting
import Mathlib.Algebra.Order.BigOperators.Group.List
import Mathlib.Algebra.Order.Ring.Int

/-!
# Scrolling in one direction

What bounds a scroll are the heights of the last frame, and these stay as they are until the next
one. A scroll that comes to an end of its range stops there, and so does the next one in the same
direction. So all scrolls in one direction add up, by rows, by pages or by the wheel: between two
frames it makes no difference whether a way is gone in one step or in many. Back and forth it does,
since what is cut off at an end is not given back.

## Main definitions

- `Mouse.Chunk.Turns`: the chunks that turn the wheel in a direction;
- `Layout.Command.rows?`: the rows that a command scrolls back.

## Main statements

- `Layout.scrollBy_scrollBy`: two scrolls in one direction are one;
- `Layout.afterRun_scrolls`: so are all scrolls of a run;
- `Layout.one_way_scrolling_adds_up`: rows, pages and turns of the wheel.
-/

namespace ScrollPane

/-! ## Two scrolls -/

/-- An offset that has been cut off at an end stays there as it goes on in the same direction. -/
theorem clamp_clamp_sub {offset limit a b : Int} (hNonneg : 0 ≤ offset) (hLimit : offset ≤ limit)
    (hOneWay : 0 ≤ a ∧ 0 ≤ b ∨ a ≤ 0 ∧ b ≤ 0) :
    clamp (clamp (offset - a) 0 limit - b) 0 limit = clamp (offset - (a + b)) 0 limit := by
  unfold clamp
  rcases hOneWay with ⟨hBack, hFartherBack⟩ | ⟨hForward, hFartherForward⟩
  · omega
  · omega

/-- Only what the heights allow of an offset tells where a move goes. -/
theorem Scroll.moveTo_of_clamp_eq {s : Scroll} {offset offset' : Int}
    (h : clamp offset 0 s.limit = clamp offset' 0 s.limit) :
    s.moveTo offset = s.moveTo offset' := by
  simp only [moveTo, h]

namespace Layout

@[simp]
theorem scrollBy_zero (l : Layout) : l.scrollBy 0 = l :=
  if_neg fun hMoves => hMoves.2 rfl

/-- Two scrolls in one direction are one. -/
theorem scrollBy_scrollBy {l : Layout} (hValid : l.scroll.Valid) {a b : Int}
    (hOneWay : 0 ≤ a ∧ 0 ≤ b ∨ a ≤ 0 ∧ b ≤ 0) :
    (l.scrollBy a).scrollBy b = l.scrollBy (a + b) := by
  cases hEnabled : l.scroll.enabled with
  | false => simp only [scrollBy_of_disabled hEnabled]
  | true =>
    -- scrolling by nothing is no scroll: it keeps the selection
    by_cases hFirst : a = 0
    · simp [hFirst]
    by_cases hSecond : b = 0
    · simp [hSecond]
    have hBoth : a + b ≠ 0 := by omega
    have hOn : (l.scrollTo (l.scroll.offset - a)).scroll.enabled = true := hEnabled
    have hOffset := clamp_clamp_sub hValid.offset_nonneg hValid.offset_le_limit hOneWay
    rw [scrollBy_of_enabled hEnabled hFirst, scrollBy_of_enabled hOn hSecond,
      scrollBy_of_enabled hEnabled hBoth]
    -- the first one leaves the heights, and with them the limit
    calc (l.scrollTo (l.scroll.offset - a)).scrollTo _
        = l.scrollTo (clamp (l.scroll.offset - a) 0 l.scroll.limit - b) := rfl
      _ = l.scrollTo (l.scroll.offset - (a + b)) := by
          unfold scrollTo
          rw [Scroll.moveTo_of_clamp_eq hOffset]

end Layout

/-! ## Commands that scroll -/

/-- The chunk turns the wheel in a direction, wherever the pointer is and whatever keys are held. -/
def Mouse.Chunk.Turns (chunk : Chunk) (direction : Direction) : Prop :=
  ∃ x y modifiers, Event.ofChunk? chunk = some (.wheel direction x y modifiers)

namespace Layout

variable {σ : Type} {output fixed : σ → Component σ}

/-- The rows that a command scrolls a layout back, or forward if they are negative. -/
def Command.rows? (l : Layout) : Command → Option Int
  | .scrollBy rows => some rows
  | .scrollByPage pages => some (pages * l.scroll.pageSize)
  | .input chunk =>
    match Mouse.Event.ofChunk? chunk with
    | some (.wheel direction ..) => some (-direction.delta * l.wheelLines)
    | _ => none
  | _ => none

theorem Command.rows?_input_of_turns (l : Layout) {chunk : Mouse.Chunk}
    {direction : Mouse.Direction} (h : chunk.Turns direction) :
    (Command.input chunk).rows? l = some (-direction.delta * l.wheelLines) := by
  obtain ⟨x, y, modifiers, hEvent⟩ := h
  simp only [rows?, hEvent]

/-- A command that scrolls does nothing else. -/
theorem Moment.of_rows? (output fixed : σ → Component σ) {l : Layout} {c : Command} {rows : Int}
    (h : c.rows? l = some rows) (world : σ) :
    (Moment.of output fixed l world c).after = l.scrollBy rows ∧
      (Moment.of output fixed l world c).worldAfter = world := by
  cases c with
  | scrollBy rows' =>
    obtain rfl := Option.some.inj h
    exact ⟨rfl, rfl⟩
  | scrollByPage pages =>
    obtain rfl := Option.some.inj h
    exact ⟨rfl, rfl⟩
  | input chunk =>
    simp only [Command.rows?] at h
    split at h
    · next direction x y modifiers hEvent =>
      obtain rfl := Option.some.inj h
      exact ⟨l.input_of_wheel hEvent, rfl⟩
    · cases h
  | _ => cases h

/-- Scrolling changes neither the size of a page nor the rows of a turn. -/
theorem Command.rows?_scrollBy (l : Layout) (rows : Int) (c : Command) :
    c.rows? (l.scrollBy rows) = c.rows? l := by
  have hPage : (l.scrollBy rows).scroll.pageSize = l.scroll.pageSize := by
    unfold Layout.scrollBy
    split <;> rfl
  have hWheel := (l.scrollBy_scrolls rows).wheelLines_eq
  cases c with
  | scrollByPage pages => simp only [rows?, hPage]
  | input chunk => simp only [rows?, hWheel]
  | _ => rfl

/-- Commands that all scroll in one direction are one scroll by all their rows. -/
theorem afterRun_scrolls (output fixed : σ → Component σ) {l : Layout} (hValid : l.scroll.Valid)
    {commands : List Command} {rows : List Int}
    (hRows : commands.map (Command.rows? l) = rows.map some)
    (hOneWay : (∀ r ∈ rows, 0 ≤ r) ∨ ∀ r ∈ rows, r ≤ 0) (world : σ) :
    afterRun output fixed l (commands.map .command) world = (l.scrollBy rows.sum, world) := by
  induction rows generalizing l commands with
  | nil =>
    obtain rfl := List.map_eq_nil_iff.mp hRows
    simp [afterRun]
  | cons r rows ih =>
    obtain ⟨c, commands, rfl, hFirst, hLater⟩ := List.map_eq_cons_iff.mp hRows
    obtain ⟨hAfter, hWorld⟩ := Moment.of_rows? output fixed hFirst world
    simp only [List.forall_mem_cons] at hOneWay
    have hRest : (∀ r ∈ rows, 0 ≤ r) ∨ ∀ r ∈ rows, r ≤ 0 := by
      rcases hOneWay with ⟨-, hBack⟩ | ⟨-, hForward⟩
      · exact .inl hBack
      · exact .inr hForward
    have hSigns : 0 ≤ r ∧ 0 ≤ rows.sum ∨ r ≤ 0 ∧ rows.sum ≤ 0 := by
      rcases hOneWay with ⟨hFirst, hBack⟩ | ⟨hFirst, hForward⟩
      · exact .inl ⟨hFirst, List.sum_nonneg hBack⟩
      · exact .inr ⟨hFirst, by simpa using rows.sum_le_card_nsmul 0 hForward⟩
    -- the commands scroll by the same rows once the first of them has been carried out
    have hSame : commands.map (Command.rows? (l.scrollBy r)) = rows.map some := by
      rw [← hLater]
      exact List.map_congr_left fun c _ => c.rows?_scrollBy l r
    calc afterRun output fixed l ((c :: commands).map .command) world
        = afterRun output fixed (l.scrollBy r) (commands.map .command) world := by
          rw [List.map_cons, afterRun, hAfter, hWorld]
      _ = ((l.scrollBy r).scrollBy rows.sum, world) :=
          ih (scrollBy_scroll_valid hValid r) hSame hRest
      _ = (l.scrollBy (r :: rows).sum, world) := by
          rw [scrollBy_scrollBy hValid hSigns, List.sum_cons]

theorem afterRun_scroll {l : Layout} (hValid : l.scroll.Valid) {c : Command} {r : Int}
    (hRows : c.rows? l = some r) (world : σ) :
    afterRun output fixed l [.command c] world = (l.scrollBy r, world) := by
  have hList : [c].map (Command.rows? l) = [r].map some := by simp [hRows]
  have hAfter := afterRun_scrolls output fixed hValid hList (by simpa using Int.le_total 0 r) world
  simpa using hAfter

theorem afterRun_scroll_scroll {l : Layout} (hValid : l.scroll.Valid) {c d : Command} {r s : Int}
    (hFirst : c.rows? l = some r) (hSecond : d.rows? l = some s)
    (hOneWay : 0 ≤ r ∧ 0 ≤ s ∨ r ≤ 0 ∧ s ≤ 0) (world : σ) :
    afterRun output fixed l [.command c, .command d] world = (l.scrollBy (r + s), world) := by
  have hList : [c, d].map (Command.rows? l) = [r, s].map some := by simp [hFirst, hSecond]
  have hAfter := afterRun_scrolls output fixed hValid hList (by simpa using hOneWay) world
  simpa using hAfter

/-- Pages in one direction are rows in one direction. -/
theorem pages_one_way (s : Scroll) {p q : Int} (h : 0 ≤ p ∧ 0 ≤ q ∨ p ≤ 0 ∧ q ≤ 0) :
    0 ≤ p * s.pageSize ∧ 0 ≤ q * s.pageSize ∨ p * s.pageSize ≤ 0 ∧ q * s.pageSize ≤ 0 := by
  have hPage : 0 ≤ s.pageSize := Int.le_trans Int.one_nonneg (Int.le_max_left 1 _)
  rcases h with ⟨hP, hQ⟩ | ⟨hP, hQ⟩
  · exact .inl ⟨Int.mul_nonneg hP hPage, Int.mul_nonneg hQ hPage⟩
  · exact .inr ⟨Int.mul_nonpos_of_nonpos_of_nonneg hP hPage,
      Int.mul_nonpos_of_nonpos_of_nonneg hQ hPage⟩

/-- Turns of the wheel in one direction are one scroll. -/
theorem afterRun_turns {l : Layout} (hValid : l.scroll.Valid) (hWheel : 0 ≤ l.wheelLines)
    {direction : Mouse.Direction} {chunks : List Mouse.Chunk}
    (hChunks : ∀ chunk ∈ chunks, chunk.Turns direction) (world : σ) :
    afterRun output fixed l ((chunks.map Command.input).map .command) world =
      (l.scrollBy (-direction.delta * (chunks.length * l.wheelLines)), world) := by
  have hRows : (chunks.map Command.input).map (Command.rows? l) =
      (List.replicate chunks.length (-direction.delta * l.wheelLines)).map some := by
    rw [List.map_map, List.map_replicate, List.map_eq_replicate_iff]
    intro chunk hMem
    exact Command.rows?_input_of_turns l (hChunks chunk hMem)
  have hOneWay : (∀ r ∈ List.replicate chunks.length (-direction.delta * l.wheelLines), 0 ≤ r) ∨
      ∀ r ∈ List.replicate chunks.length (-direction.delta * l.wheelLines), r ≤ 0 := by
    cases direction with
    | up => left; simp [Mouse.Direction.delta, hWheel]
    | down => right; simp [Mouse.Direction.delta, hWheel]
  rw [afterRun_scrolls output fixed hValid hRows hOneWay, List.sum_replicate, Int.nsmul_eq_mul,
    Int.mul_left_comm]

/-! ## Rows, pages and turns of the wheel -/

/-- **Scrolling in one direction adds up.** Whatever a layout has been through, scrolling by some
rows, or by some pages, and then by more in the same direction leaves the layout that scrolling by
all of them at once does: the same offset, follow mode and selection. Any number of turns of the
wheel in one direction are one scroll by all their rows. -/
theorem one_way_scrolling_adds_up (output fixed : σ → Component σ) (terminal : Terminal)
    (settings : Settings) (events : List (Event σ)) (world : σ) :
    let after (commands : List Command) :=
      afterRun output fixed (create terminal settings) (events ++ commands.map .command) world
    let turn := max 1 settings.wheelLines
    (∀ a b : Int, 0 ≤ a ∧ 0 ≤ b ∨ a ≤ 0 ∧ b ≤ 0 →
        after [.scrollBy a, .scrollBy b] = after [.scrollBy (a + b)]) ∧
      (∀ p q : Int, 0 ≤ p ∧ 0 ≤ q ∨ p ≤ 0 ∧ q ≤ 0 →
        after [.scrollByPage p, .scrollByPage q] = after [.scrollByPage (p + q)]) ∧
      (∀ chunks : List Mouse.Chunk, (∀ chunk ∈ chunks, chunk.Turns .up) →
        after (chunks.map .input) = after [.scrollBy (chunks.length * turn)]) ∧
      ∀ chunks : List Mouse.Chunk, (∀ chunk ∈ chunks, chunk.Turns .down) →
        after (chunks.map .input) = after [.scrollBy (-(chunks.length * turn))] := by
  intro after turn
  obtain ⟨⟨l, reached⟩, hReached⟩ : ∃ state,
      afterRun output fixed (create terminal settings) events world = state := ⟨_, rfl⟩
  have hAfter : ∀ commands : List Command,
      after commands = afterRun output fixed l (commands.map .command) reached := by
    intro commands
    simp only [after, afterRun_append, hReached]
  have hValid : l.scroll.Valid := by
    have hNew : Reachable output fixed (create terminal settings) world :=
      .create terminal settings world
    have hReachable := hNew.afterRun events
    rw [hReached] at hReachable
    exact hReachable.scroll_valid
  have hWheel : l.wheelLines = turn := by
    have hSame : (afterRun output fixed (create terminal settings) events world).1.wheelLines = _ :=
      afterRun_wheelLines _ events world
    rw [hReached] at hSame
    exact hSame.trans (create_wheelLines terminal settings)
  have hTurn : 0 ≤ l.wheelLines := by
    rw [hWheel]
    exact Int.le_trans Int.one_nonneg (Int.le_max_left 1 _)
  simp only [hAfter, List.map_cons, List.map_nil]
  refine ⟨?_, ?_, ?_, ?_⟩
  · intro a b hOneWay
    rw [afterRun_scroll_scroll hValid rfl rfl hOneWay, afterRun_scroll hValid rfl]
  · intro p q hOneWay
    rw [afterRun_scroll_scroll hValid rfl rfl (pages_one_way l.scroll hOneWay),
      afterRun_scroll hValid rfl, Int.add_mul]
  · intro chunks hUp
    rw [afterRun_turns hValid hTurn hUp, afterRun_scroll hValid rfl, hWheel]
    simp [Mouse.Direction.delta]
  · intro chunks hDown
    rw [afterRun_turns hValid hTurn hDown, afterRun_scroll hValid rfl, hWheel]
    simp [Mouse.Direction.delta]

/-- A run that leaves a layout two rows from the top of ten rows of output, with a row selected. -/
def nearTop : List (Event Sheet) :=
  [.command (.render 80), .command (.scrollBy 4), .command (.select (some ⟨0, 0, 0, 1⟩))]

/-- From there two turns of the wheel, with and without keys held, come to the top, as one scroll by
their four rows does. -/
theorem one_way_scrolling_adds_up_nearTop :
    let output := fun _ : Sheet => Sheet.component
    let fixed := fun _ : Sheet => Component.blank
    let world : Sheet := fun _ => List.replicate 10 ['x']
    let after (commands : List Command) :=
      (afterRun output fixed (create { rows := 4 } { scrollEnabled := true, wheelLines := 2 })
        (nearTop ++ commands.map .command) world).1
    let chunks : List Mouse.Chunk := [modifiedTurn, .text "\x1b[<64;1;1M".toList]
    (∀ chunk ∈ chunks, chunk.Turns .up) ∧
      after (chunks.map .input) = after [.scrollBy (chunks.length * max 1 2)] ∧
      after [.scrollBy 1, .scrollBy 7] = after [.scrollBy (1 + 7)] ∧
      after [.scrollByPage (-1), .scrollByPage (-5)] = after [.scrollByPage (-1 + -5)] ∧
      ((after []).scroll.offset, (after []).selection?.isSome) = (2, true) ∧
      ((after (chunks.map .input)).scroll.offset, (after (chunks.map .input)).selection?) =
        (0, none) := by
  intro output fixed world after chunks
  have hUp : ∀ chunk ∈ chunks, chunk.Turns .up := by
    intro chunk hMem
    rcases List.mem_pair.mp hMem with rfl | rfl
    · exact ⟨6, 1, { alt := false, ctrl := true, shift := true }, by decide +kernel⟩
    · exact ⟨0, 0, {}, by decide +kernel⟩
  obtain ⟨hRows, hPages, hTurnsUp, -⟩ := one_way_scrolling_adds_up output fixed { rows := 4 }
    { scrollEnabled := true, wheelLines := 2 } nearTop world
  refine ⟨hUp, ?_, ?_, ?_, ?_, ?_⟩
  · exact congrArg Prod.fst (hTurnsUp chunks hUp)
  · exact congrArg Prod.fst (hRows 1 7 (by decide))
  · exact congrArg Prod.fst (hPages (-1) (-5) (by decide))
  · decide +kernel
  · decide +kernel

end Layout

end ScrollPane
