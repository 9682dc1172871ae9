import ScrollPane.Proofs.Following
import Mathlib.Algebra.Order.Floor.Div

/-!
# Paging through the output

A page is the output region less one row, as it was in the last frame. Going back page by page from
the newest output, each frame starts at the row of the one before less a page, and no earlier than
at the first row. So the frames cover the content without a gap, with a row in common where the
region has two rows, and the number of pages to the first row is a quotient rounded up.

## Main definitions

- `Scroll.atRow`: the scroll state that a frame leaves;
- `Layout.pageAt`: the frames of a layout that is paged back;
- `Layout.Moment.ShowsRow`: a row of the content is on screen.

## Main statements

- `Layout.Moment.ShowsAt.nextPage`: the frame after one more page;
- `Layout.pageAt_showsAt`: the frame after any number of pages;
- `Layout.paging_skips_nothing`: together they show all rows.
-/

namespace ScrollPane

/-! ## Scroll states at a row -/

namespace Scroll

/-- The scroll state that a frame leaves at a row of the content. -/
def atRow (content region row : Nat) : Scroll where
  enabled := true
  offset := row
  follow := (row : Int) == limitOf content region
  contentHeight := content
  regionHeight := region

theorem limitOf_natCast (content region : Nat) :
    limitOf content region = (content - region : Nat) := by
  unfold limitOf
  omega

theorem limit_atRow (content region row : Nat) :
    (atRow content region row).limit = (content - region : Nat) :=
  limitOf_natCast content region

theorem pageSize_atRow (content region row : Nat) :
    (atRow content region row).pageSize = (max 1 (region - 1) : Nat) := by
  show max 1 ((region : Int) - 1) = _
  omega

variable {content region row : Nat}

/-- Moving back stops at the first row. -/
theorem moveTo_atRow (hRow : row ≤ content - region) (rows : Nat) :
    (atRow content region row).moveTo (row - rows) = atRow content region (row - rows) := by
  have hOffset : clamp (row - rows) 0 (atRow content region row).limit = (row - rows : Nat) := by
    rw [limit_atRow, clamp]
    omega
  simp only [moveTo, hOffset]
  rfl

/-- With the heights it was left with, the state stays as it is. -/
theorem settle_atRow (hRow : row ≤ content - region) :
    (atRow content region row).settle content region = row := by
  have hLimit : (row : Int) ≤ limitOf content region := by
    rw [limitOf_natCast]
    omega
  have hValid : (atRow content region row).Valid := {
    offset_nonneg := Int.natCast_nonneg row
    offset_le_limit := hLimit
    follow_iff := fun _ => beq_iff_eq
    disabled := fun hOff => by simp [atRow] at hOff }
  exact hValid.settle_eq rfl

end Scroll

namespace Layout

variable {σ : Type} {output fixed : σ → Component σ}

theorem scroll_scrollByPage {l : Layout} {content region row : Nat}
    (hScroll : l.scroll = .atRow content region row) (hRow : row ≤ content - region) :
    (l.scrollByPage 1).scroll = .atRow content region (row - max 1 (region - 1)) := by
  have hPage : (1 : Int) * l.scroll.pageSize = (max 1 (region - 1) : Nat) := by
    rw [hScroll, Scroll.pageSize_atRow, Int.one_mul]
  have hOn : l.scroll.enabled = true := by
    rw [hScroll]
    rfl
  have hSome : ((max 1 (region - 1) : Nat) : Int) ≠ 0 := by omega
  rw [scrollByPage, hPage, scrollBy_of_enabled hOn hSome, scrollTo, hScroll]
  exact Scroll.moveTo_atRow hRow _

/-! ## Frames of a layout that is paged back -/

/-- The frame asked for once more after a page back. -/
def Moment.nextPage (output fixed : σ → Component σ) (m : Moment σ) : Moment σ :=
  let scrolled := Moment.of output fixed m.after m.worldAfter (.scrollByPage 1)
  Moment.of output fixed scrolled.after scrolled.worldAfter m.command

/-- The frames of a layout that is paged back, by the number of pages since the first one. -/
def pageAt (output fixed : σ → Component σ) (first : Moment σ) : Nat → Moment σ
  | 0 => first
  | pages + 1 => (pageAt output fixed first pages).nextPage output fixed

/-- The moment shows the content from a row on, above these rows of the fixed part, and leaves the
layout there for further frames of that size. -/
structure Moment.ShowsAt (C : Content output fixed) (m : Moment σ) (width : Int) (height : Nat)
    (content fixedRows : List Text) (row : Nat) : Prop where
  scroll_eq : m.after.scroll = .atRow content.length (height - fixedRows.length) row
  isFrame : IsFrame m.before m.after ((content.drop row).take (height - fixedRows.length)) fixedRows
    height m.outcome.result.rows
  frame_eq : m.command.frame? m.after = some (width, height)
  served : C.served m.worldAfter
  content_eq : C.rows m.worldAfter width = content

variable {C : Content output fixed} {width : Int} {height row : Nat} {content fixedRows : List Text}

/-- A frame shows the content from the row that it settles on. -/
theorem Moment.showsAt_of_settle {l : Layout} {world : σ} {c : Command} (hServed : C.served world)
    (hEnabled : l.scroll.enabled = true)
    (hDraws : (Moment.of output fixed l world c).Draws fixed width height fixedRows)
    (hContent : C.rows world width = content)
    (hSettle : l.scroll.settle content.length (height - fixedRows.length : Nat) = row) :
    (Moment.of output fixed l world c).ShowsAt C width height content fixedRows row := by
  obtain ⟨hAfter, -, hDrawn, hFrame⟩ := Moment.of_draws C hServed hEnabled hDraws
  rw [hContent] at hAfter hFrame
  have hTerminal : (Moment.of output fixed l world c).after.terminal = l.terminal := by
    rw [hAfter]
    rfl
  have hRows : (OutputWindow.ofContent l.scroll content (height - fixedRows.length)).rows =
      (content.drop row).take (height - fixedRows.length) := by
    rw [OutputWindow.ofContent, hSettle, Int.toNat_natCast]
  rw [hRows] at hFrame
  exact {
    scroll_eq := by
      rw [hAfter]
      show (OutputWindow.ofContent l.scroll content (height - fixedRows.length)).scroll
        l.scroll.enabled (height - fixedRows.length) = _
      rw [OutputWindow.ofContent, hEnabled, hSettle]
      rfl
    isFrame := hFrame
    frame_eq := (Command.frame?_of_terminal_eq hTerminal c).trans hDraws.frame_eq
    served := C.served_of_drawn hServed hDrawn
    content_eq := (congrFun (C.rows_of_drawn hServed hDrawn) width).trans hContent }

/-- The frame after one more page starts a page above, or at the first row. -/
theorem Moment.ShowsAt.nextPage {m : Moment σ} (h : m.ShowsAt C width height content fixedRows row)
    (hRow : row ≤ content.length - (height - fixedRows.length))
    (hFixed : let next := m.nextPage output fixed
      ((fixed next.world).render width next.world).1 = fixedRows) :
    (m.nextPage output fixed).ShowsAt C width height content fixedRows
      (row - max 1 (height - fixedRows.length - 1)) := by
  have hScroll := scroll_scrollByPage h.scroll_eq hRow
  have hTerminal : (m.after.scrollByPage 1).terminal = m.after.terminal :=
    (m.after.scrollBy_scrolls _).terminal_eq
  -- scrolling asks neither component, so the frame is drawn in the world that the last one has left
  refine Moment.showsAt_of_settle (l := m.after.scrollByPage 1) h.served ?_ ⟨?_, hFixed⟩
    h.content_eq ?_
  · rw [hScroll]
    rfl
  · exact (Command.frame?_of_terminal_eq hTerminal m.command).trans h.frame_eq
  · rw [hScroll]
    apply Scroll.settle_atRow
    omega

/-- The frame after any number of pages. -/
theorem pageAt_showsAt {first : Moment σ}
    (hFirst : first.ShowsAt C width height content fixedRows
      (content.length - (height - fixedRows.length)))
    (hFixed : ∀ k, let m := pageAt output fixed first k
      ((fixed m.world).render width m.world).1 = fixedRows) (k : Nat) :
    (pageAt output fixed first k).ShowsAt C width height content fixedRows
      (content.length - (height - fixedRows.length) -
        k * max 1 (height - fixedRows.length - 1)) := by
  induction k with
  | zero =>
    rw [Nat.zero_mul]
    exact hFirst
  | succ k ih =>
    rw [Nat.succ_mul, ← Nat.sub_sub]
    exact ih.nextPage (Nat.sub_le _ _) (hFixed (k + 1))

/-! ## Rows on screen -/

/-- A row of the content is on screen: it stands below the top of the region by as much as it comes
after the offset in the content. -/
def Moment.ShowsRow (m : Moment σ) (content : List Text) (i : Nat) : Prop :=
  i < content.length ∧
    ∃ below : Nat, m.after.scroll.offset + below = i ∧ m.after.visibleOutput[below]? = content[i]?

/-- A frame that starts at a row shows the rows from there on, as many as the region has. -/
theorem Moment.ShowsAt.showsRow {m : Moment σ} (h : m.ShowsAt C width height content fixedRows row)
    {i : Nat} (hFrom : row ≤ i) (hTo : i < row + (height - fixedRows.length))
    (hInside : i < content.length) : m.ShowsRow content i := by
  have hOffset : m.after.scroll.offset = row := by
    rw [h.scroll_eq]
    rfl
  refine ⟨hInside, i - row, by omega, ?_⟩
  have hShown : i - row < ((content.drop row).take (height - fixedRows.length)).length := by
    rw [List.length_take, List.length_drop]
    omega
  rw [h.isFrame.visible_eq, List.getElem?_append_left hShown, List.getElem?_take_of_lt (by omega),
    List.getElem?_drop]
  congr 1
  omega

/-- A row above the limit lies on one of the pages that go back from the limit. -/
theorem exists_page_of_lt {limit page i : Nat} (hPage : 0 < page) (hAbove : i < limit) :
    ∃ k ≤ limit ⌈/⌉ page, limit - k * page ≤ i ∧ i < limit - k * page + page := by
  -- the first page that starts at the row or above
  obtain ⟨k, hFirst⟩ : ∃ k, (limit - i) ⌈/⌉ page = k := ⟨_, rfl⟩
  have hReaches : limit - i ≤ page * k := (ceilDiv_le_iff_le_mul hPage).mp (Nat.le_of_eq hFirst)
  have hAll : limit ≤ page * (limit ⌈/⌉ page) := (ceilDiv_le_iff_le_mul hPage).mp (Nat.le_refl _)
  have hLast : k ≤ limit ⌈/⌉ page := by
    rw [← hFirst]
    apply (ceilDiv_le_iff_le_mul hPage).mpr
    exact Nat.le_trans (Nat.sub_le limit i) hAll
  refine ⟨k, hLast, ?_, ?_⟩
  · rw [Nat.mul_comm]
    omega
  · cases k with
    | zero => omega
    | succ k =>
      -- the page before it starts below
      have hBefore : ¬limit - i ≤ page * k := by
        intro hReached
        have hEarlier := (ceilDiv_le_iff_le_mul hPage).mpr hReached
        omega
      rw [Nat.mul_comm, Nat.mul_succ]
      omega

/-- **Paging skips nothing.** Let a frame with scrolling on leave a layout at the newest output, and
with room for at least one row of it, and let nothing but paging back and drawing that frame again
happen from then on, always above the same rows of the fixed part. The offset comes to zero with the
page whose number is the limit divided by the size of a page, rounded up, no earlier, and stays
there. Each frame shows the content from its offset on, each row of the content is in one of the
frames up to that page, and if there is room for two rows, each frame has one in common with the
next. -/
theorem paging_skips_nothing (C : Content output fixed) {l : Layout} {world : σ} {c : Command}
    {width : Int} {height : Nat} {fixedRows : List Text} :
    let first := Moment.of output fixed l world c
    let page := pageAt output fixed first
    let content := C.rows world width
    let region := height - fixedRows.length
    let last := (content.length - region) ⌈/⌉ max 1 (region - 1)
    C.served world → l.scroll.enabled = true → first.Draws fixed width height fixedRows →
      (∀ k, ((fixed (page k).world).render width (page k).world).1 = fixedRows) →
      1 ≤ content.length → 1 ≤ region → first.after.scroll.atBottom = true →
      first.after.scroll.limit = (content.length - region : Nat) ∧
        (∀ k, (page k).after.scroll.offset = 0 ↔ last ≤ k) ∧
        (∀ k, IsFrame (page k).before (page k).after
          ((content.drop (page k).after.scroll.offset.toNat).take region) fixedRows height
          (page k).outcome.result.rows) ∧
        (∀ i < content.length, ∃ k ≤ last, (page k).ShowsRow content i) ∧
        (2 ≤ region →
          ∀ k, ∃ i, (page k).ShowsRow content i ∧ (page (k + 1)).ShowsRow content i) := by
  intro first page content region last hServed hEnabled hDraws hFixed hSome hRoom hBottom
  have hFirst : first.ShowsAt C width height content fixedRows (content.length - region) := by
    apply Moment.showsAt_of_settle hServed hEnabled hDraws rfl
    obtain ⟨hAfter, -⟩ := Moment.of_draws C hServed hEnabled hDraws
    have hSettled : (l.frameOf content fixedRows height).layout.scroll.atBottom = true := by
      rw [← hAfter]
      exact hBottom
    exact (beq_iff_eq.mp hSettled).trans (Scroll.limitOf_natCast content.length region)
  have hShows : ∀ k, (page k).ShowsAt C width height content fixedRows
      (content.length - region - k * max 1 (region - 1)) := pageAt_showsAt hFirst hFixed
  have hRegion : region = height - fixedRows.length := rfl
  have hOffset : ∀ k, (page k).after.scroll.offset =
      (content.length - region - k * max 1 (region - 1) : Nat) := by
    intro k
    rw [(hShows k).scroll_eq]
    rfl
  have hPage : 0 < max 1 (region - 1) := by omega
  refine ⟨?_, ?_, ?_, ?_, ?_⟩
  · rw [hFirst.scroll_eq]
    exact Scroll.limit_atRow _ _ _
  · intro k
    rw [hOffset, ceilDiv_le_iff_le_mul hPage, Nat.mul_comm]
    omega
  · intro k
    rw [hOffset, Int.toNat_natCast]
    exact (hShows k).isFrame
  · intro i hInside
    rcases Nat.lt_or_ge i (content.length - region) with hAbove | hBelow
    · obtain ⟨k, hLast, hFrom, hTo⟩ := exists_page_of_lt hPage hAbove
      exact ⟨k, hLast, (hShows k).showsRow hFrom (by omega) hInside⟩
    · -- the first frame shows the end of the content
      exact ⟨0, Nat.zero_le _, hFirst.showsRow hBelow (by omega) hInside⟩
  · intro hTwo k
    refine ⟨content.length - region - k * max 1 (region - 1), ?_, ?_⟩
    · exact (hShows k).showsRow (Nat.le_refl _) (by omega) (by omega)
    · apply (hShows (k + 1)).showsRow
      · rw [Nat.succ_mul]
        omega
      · rw [Nat.succ_mul]
        omega
      · omega

/-- A layout that has just been set up, over eight lines above a footer, with room for three. -/
def eightLines : Moment (Transcript × Unit) :=
  Moment.of (fun _ => Transcript.component.within .output) (fun _ => footer.within .fixed)
    (create { rows := 4 } { scrollEnabled := true })
    (.ofLines ("abcdefgh".toList.map fun c => [c]), ()) (.render 80)

/-- The limit is five and a page has two rows, so that the first line comes in with the third page,
which has one row to go. -/
theorem paging_skips_nothing_eightLines :
    let C := transcriptContent fun _ : Unit => footer
    let output := fun _ : Transcript × Unit => Transcript.component.within .output
    let fixed := fun _ : Transcript × Unit => footer.within .fixed
    let page := pageAt output fixed eightLines
    let content := C.rows eightLines.world 80
    eightLines.after.scroll.limit = 5 ∧
      (∀ k, (page k).after.scroll.offset = 0 ↔ 3 ≤ k) ∧
      (∀ i < content.length, ∃ k ≤ 3, (page k).ShowsRow content i) ∧
      (∀ k, ∃ i, (page k).ShowsRow content i ∧ (page (k + 1)).ShowsRow content i) ∧
      [0, 1, 2, 3, 4].map (fun k => (page k).outcome.result.rows) =
        [[['f'], ['g'], ['h'], ['f']], [['d'], ['e'], ['f'], ['f']], [['b'], ['c'], ['d'], ['f']],
          [['a'], ['b'], ['c'], ['f']], [['a'], ['b'], ['c'], ['f']]] := by
  intro C output fixed page content
  have hDraws : eightLines.Draws fixed 80 4 [['f']] := ⟨by decide +kernel, by decide +kernel⟩
  have hBottom : eightLines.after.scroll.atBottom = true := by decide +kernel
  obtain ⟨hLimit, hTop, -, hAll, hTwo⟩ := paging_skips_nothing C trivial rfl hDraws
    (fun _ => rfl) (by decide +kernel) (by decide +kernel) hBottom
  have hLast : (content.length - (4 - [['f']].length)) ⌈/⌉ max 1 (4 - [['f']].length - 1) = 3 := by
    decide +kernel
  refine ⟨hLimit, ?_, ?_, hTwo (by decide), by decide +kernel⟩
  · intro k
    exact (hTop k).trans (hLast ▸ Iff.rfl)
  · intro i hInside
    obtain ⟨k, hPage, hShown⟩ := hAll i hInside
    exact ⟨k, hPage.trans_eq hLast, hShown⟩

end Layout

end ScrollPane
