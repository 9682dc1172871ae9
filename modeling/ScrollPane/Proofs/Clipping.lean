import ScrollPane.Proofs.Drawing
import ScrollPane.Proofs.KeptItems
import ScrollPane.Proofs.Rescanning
import Mathlib.Data.List.TakeWhile

/-!
# Clipped lines

A line is clipped by cutting it at the width asked for, and the cells that a cut keeps are no more
than that. But the clipped line is measured again from its characters, and that they take as many
cells then is another matter. Escape sequences are found again where they were. Clusters, however,
can change in two ways: where an escape sequence stands inside one, it is measured as one and cut as
two; and where the line begins with clusters that take no cell, the cut drops them, and the next
character may lose a prepended mark that has let it join those after it.

Where neither happens the clipped line fits, and with it all rows that labels and transcripts draw.

## Main definitions

- `Text.Clipping`: how a range keeps items up to its end;
- `Text.Clippable`: lines that are cut as they are measured;
- `Text.FitAll`: rows that fit a width.

## Main statements

- `Text.Clippable.of_no_prepend`: most lines are;
- `Text.width_cut_le`: what is cut out of such a line fits;
- `fitAll_clip`: so do the rows that components draw of such lines;
- `width_clip_gt`: lines of the two kinds above do not.
-/

namespace ScrollPane

open Unicode (BreakClass)

namespace Text

/-! ## Items that are clipped -/

/-- How `kept` comes about from `items` where a range ends: up to some place the items are kept; there
blanks may stand for a cluster, and only escape sequences come after them. -/
structure Clipping (items kept : List Item) where
  first : List Item
  /-- The cluster that gives way to blanks, if there is one. -/
  gone : List Item
  blanks : Nat
  codes : List Item
  rest : List Item
  items_eq : items = first ++ (gone ++ (codes ++ rest))
  kept_eq : kept = first ++ (List.replicate blanks (.cluster [' ']) ++ codes)
  isNone_codes : ∀ item ∈ codes, item.cluster?.isNone
  gone_eq : blanks = 0 → gone = []

namespace Clipping

/-- Nothing is kept. -/
def nothing (items : List Item) : Clipping items [] where
  first := []
  gone := []
  blanks := 0
  codes := []
  rest := items
  items_eq := rfl
  kept_eq := rfl
  isNone_codes := by simp
  gone_eq _ := rfl

/-- One more item is kept before the others. -/
def cons {items kept : List Item} (item : Item) (c : Clipping items kept) :
    Clipping (item :: items) (item :: kept) where
  first := item :: c.first
  gone := c.gone
  blanks := c.blanks
  codes := c.codes
  rest := c.rest
  items_eq := congrArg (item :: ·) c.items_eq
  kept_eq := congrArg (item :: ·) c.kept_eq
  isNone_codes := c.isNone_codes
  gone_eq := c.gone_eq

/-- Blanks stand for the first item. -/
def ofBlanks (item : Item) (items : List Item) {n : Nat} (hBlanks : 0 < n) :
    Clipping (item :: items)
      (List.replicate n (.cluster [' ']) ++ items.takeWhile (·.cluster?.isNone)) where
  first := []
  gone := [item]
  blanks := n
  codes := items.takeWhile (·.cluster?.isNone)
  rest := items.dropWhile (·.cluster?.isNone)
  items_eq := by rw [List.takeWhile_append_dropWhile]; rfl
  kept_eq := rfl
  isNone_codes _ hItem := by simpa using List.mem_takeWhile_imp hItem
  gone_eq hNone := absurd hNone (Nat.ne_of_gt hBlanks)

/-- The clusters that are kept are the first ones, and then blanks. -/
theorem filterMap_cluster?_kept {items kept : List Item} (c : Clipping items kept) :
    kept.filterMap Item.cluster? =
      c.first.filterMap Item.cluster? ++ List.replicate c.blanks [' '] := by
  have hBlanks : (List.replicate c.blanks (Item.cluster [' '])).filterMap Item.cluster? =
      List.replicate c.blanks [' '] := List.filterMap_replicate_of_some rfl
  have hCodes : c.codes.filterMap Item.cluster? = [] :=
    List.filterMap_eq_nil_iff.mpr fun item hItem =>
      Option.isNone_iff_eq_none.mp (c.isNone_codes item hItem)
  have hKept := congrArg (List.filterMap Item.cluster?) c.kept_eq
  rwa [List.filterMap_append, List.filterMap_append, hBlanks, hCodes, List.append_nil] at hKept

/-- What is kept is scanned as what it was. -/
theorem scans {items kept : List Item} (c : Clipping items kept) {before : List Token}
    (h : Scans (before ++ items.flatMap Item.tokens)) :
    Scans (before ++ kept.flatMap Item.tokens) := by
  obtain ⟨first, gone, blanks, codes, rest, rfl, rfl, hCodes, hGone⟩ := c
  have hBlanks : (List.replicate blanks (Item.cluster [' '])).flatMap Item.tokens =
      List.replicate blanks (Token.char ' ') := by
    rw [List.flatMap_replicate]
    exact List.flatten_replicate_singleton
  have hEscapes : ∀ token ∈ codes.flatMap Item.tokens, token.char? = none := by
    intro token hToken
    obtain ⟨item, hItem, hToken⟩ := List.mem_flatMap.mp hToken
    exact Item.char?_of_mem_tokens (hCodes item hItem) token hToken
  -- what comes before is kept along with the first items
  simp only [List.flatMap_append, hBlanks, ← List.append_assoc before] at h ⊢
  exact Scans.append_blanks hEscapes (fun hNone => by rw [hGone hNone]; rfl) h

end Clipping

namespace Range

/-- As long as no cell is taken, a range from the first column on keeps the escape sequences. -/
theorem keptFrom_of_cellless {r : Range} (hStart : r.start = 0) (hStop : 0 < r.stop)
    {before items : List Item} (hBefore : itemsWidth before = 0)
    (hItems : ∀ item ∈ items, item.cells = 0) :
    r.keptFrom before items = items.filter (·.cluster?.isNone) := by
  induction items generalizing before with
  | nil => rfl
  | cons item items ih =>
    obtain ⟨hItem, hMore⟩ := List.forall_mem_cons.mp hItems
    have hNext : itemsWidth (before ++ [item]) = 0 := by rw [itemsWidth_concat, hBefore, hItem]
    rw [keptFrom_cons, ih hNext hMore]
    cases item with
    | escape code =>
      -- the range has begun, and no cluster can have passed its end
      have hPassed : ¬Passes before r.stop := fun h => by
        have hReached := h.le_itemsWidth
        omega
      rw [shows_escape, if_pos ⟨by omega, hPassed⟩]
      rfl
    | cluster chars =>
      -- the cluster ends where the range begins
      have hWidth : chars.clusterWidth = 0 := hItem
      rw [shows_cluster, if_neg (by omega)]
      rfl

/-- Beyond its end a range keeps only the escape sequences that come next. -/
theorem keptFrom_of_stop_le {r : Range} (hStart : r.start = 0) {before items : List Item}
    (hStop : r.stop ≤ itemsWidth before) (hBefore : ¬Passes before r.stop) :
    r.keptFrom before items = items.takeWhile (·.cluster?.isNone) := by
  induction items generalizing before with
  | nil => rfl
  | cons item items ih =>
    cases item with
    | escape code =>
      have hAfter := not_passes_concat hBefore (Placed.not_beyond_escape before code r.stop)
      have hStopAfter : r.stop ≤ itemsWidth (before ++ [.escape code]) := by
        rw [itemsWidth_concat]
        exact hStop
      rw [keptFrom_cons, shows_escape, if_pos ⟨by omega, hBefore⟩, ih hStopAfter hAfter]
      rfl
    | cluster chars =>
      rw [keptFrom_of_beyond hStop]
      rfl

/-- A cluster that is not contained in a range gives way to blanks for its cells inside. -/
theorem keptFrom_of_divides {r : Range} (hStart : r.start = 0) {before : List Item}
    (hBefore : ¬Passes before r.stop) (hStop : itemsWidth before < r.stop) {chars : Text}
    (hDivides : r.Divides (itemsWidth before) chars.clusterWidth) (items : List Item) :
    r.keptFrom before (.cluster chars :: items) =
      List.replicate (r.inside (itemsWidth before) chars.clusterWidth) (.cluster [' ']) ++
        items.takeWhile (·.cluster?.isNone) := by
  obtain ⟨-, hSeveral, hNotContained⟩ := id hDivides
  have hAfter : ¬Passes (before ++ [.cluster chars]) r.stop :=
    not_passes_concat hBefore fun hBeyond => Int.not_lt.mpr hBeyond.2 hStop
  have hReached : r.stop ≤ itemsWidth (before ++ [.cluster chars]) := by
    rw [itemsWidth_concat]
    show r.stop ≤ (itemsWidth before + chars.clusterWidth : Nat)
    omega
  rw [keptFrom_cons, shows_cluster, if_pos (by omega), if_pos hDivides,
    keptFrom_of_stop_le hStart hReached hAfter]

/-- A range from the first column on clips items once they take a cell. -/
theorem nonempty_clipping {r : Range} (hStart : r.start = 0) {before items : List Item}
    (hBefore : ¬Passes before r.stop)
    (hCells : ∀ item ∈ items.head?, 0 < itemsWidth before + item.cells) :
    Nonempty (Clipping items (r.keptFrom before items)) := by
  induction items generalizing before with
  | nil => exact ⟨.nothing []⟩
  | cons item items ih =>
    have hCell : 0 < itemsWidth before + item.cells := hCells item rfl
    -- the cell that this item has taken, or one before it, is there for all that come after
    have hLater : ∀ next ∈ items.head?, 0 < itemsWidth (before ++ [item]) + next.cells := by
      intro next _
      rw [itemsWidth_concat]
      exact Nat.lt_of_lt_of_le hCell (Nat.le_add_right _ _)
    cases item with
    | escape code =>
      have hAfter := not_passes_concat hBefore (Placed.not_beyond_escape before code r.stop)
      obtain ⟨c⟩ := ih hAfter hLater
      rw [keptFrom_cons, shows_escape, if_pos ⟨by omega, hBefore⟩]
      exact ⟨c.cons _⟩
    | cluster chars =>
      -- the range has ended, ends inside the cluster, or goes on
      by_cases hBeyond : r.stop ≤ itemsWidth before
      · rw [keptFrom_of_beyond hBeyond]
        exact ⟨.nothing _⟩
      · have hStop : itemsWidth before < r.stop := Int.not_le.mp hBeyond
        by_cases hDivides : r.Divides (itemsWidth before) chars.clusterWidth
        · have hInside : 0 < r.inside (itemsWidth before) chars.clusterWidth := by
            obtain ⟨-, hSeveral, -⟩ := hDivides
            rw [inside_eq]
            omega
          rw [keptFrom_of_divides hStart hBefore hStop hDivides]
          exact ⟨.ofBlanks _ items hInside⟩
        · have hAfter : ¬Passes (before ++ [.cluster chars]) r.stop :=
            not_passes_concat hBefore fun hPassed => hBeyond hPassed.2
          have hWidth : 0 < itemsWidth before + chars.clusterWidth := hCell
          obtain ⟨c⟩ := ih hAfter hLater
          rw [keptFrom_cons, shows_cluster, if_pos (by omega), if_neg hDivides]
          exact ⟨c.cons _⟩

end Range

/-! ## Lines that are clipped -/

/-- The items of a line before the first cluster that takes a cell. -/
def leadItems (line : Text) : List Item := line.items.takeWhile (·.cells = 0)

/-- The items of a line from the first cluster on that takes a cell. -/
def bodyItems (line : Text) : List Item := line.items.dropWhile (·.cells = 0)

theorem leadItems_append_bodyItems (line : Text) :
    line.leadItems ++ line.bodyItems = line.items :=
  List.takeWhile_append_dropWhile

theorem cells_of_mem_leadItems {line : Text} {item : Item} (h : item ∈ line.leadItems) :
    item.cells = 0 := by
  simpa using List.mem_takeWhile_imp h

theorem cells_of_mem_head?_bodyItems {line : Text} {item : Item} (h : item ∈ line.bodyItems.head?) :
    0 < item.cells := by
  have hHead := List.head?_dropWhile_not (fun item : Item => decide (item.cells = 0)) line.items
  rw [bodyItems, Option.mem_def] at h
  rw [h] at hHead
  exact Nat.pos_of_ne_zero (of_decide_eq_false hHead)

theorem itemsWidth_of_cellless {items : List Item} (h : ∀ item ∈ items, item.cells = 0) :
    itemsWidth items = 0 := by
  induction items with
  | nil => rfl
  | cons item items ih =>
    obtain ⟨hItem, hMore⟩ := List.forall_mem_cons.mp h
    rw [itemsWidth, hItem, ih hMore]

theorem itemsWidth_leadItems (line : Text) : itemsWidth line.leadItems = 0 :=
  itemsWidth_of_cellless fun _ => cells_of_mem_leadItems

namespace Range

variable {r : Range}

/-- A range from the first column on keeps no cluster of the lead of a line, and clips its body. -/
theorem exists_kept_eq (hStart : r.start = 0) (hStop : 0 < r.stop) (line : Text) :
    ∃ body, r.kept line = line.leadItems.filter (·.cluster?.isNone) ++ body ∧
      Nonempty (Clipping line.bodyItems body) := by
  have hEmpty : itemsWidth [] = 0 := rfl
  have hBefore : ¬Passes line.leadItems r.stop := fun h => by
    have hReached := h.le_itemsWidth
    rw [itemsWidth_leadItems] at hReached
    omega
  -- the first item of the body takes a cell
  have hBody : ∀ item ∈ line.bodyItems.head?, 0 < itemsWidth line.leadItems + item.cells :=
    fun item hItem => Nat.lt_of_lt_of_le (cells_of_mem_head?_bodyItems hItem) (Nat.le_add_left _ _)
  refine ⟨r.keptFrom line.leadItems line.bodyItems, ?_, nonempty_clipping hStart hBefore hBody⟩
  rw [← keptFrom_of_cellless hStart hStop hEmpty fun _ => cells_of_mem_leadItems]
  show r.keptFrom [] line.items = _
  rw [← leadItems_append_bodyItems, keptFrom_append]
  rfl

/-- What a range from the first column on keeps is scanned as what it was. -/
theorem scans_kept (hStart : r.start = 0) (hStop : 0 < r.stop) (line : Text) :
    Scans ((r.kept line).flatMap Item.tokens) := by
  obtain ⟨body, hKept, ⟨c⟩⟩ := exists_kept_eq hStart hStop line
  have hLine : Scans (line.leadItems.flatMap Item.tokens ++ line.bodyItems.flatMap Item.tokens) := by
    rw [← List.flatMap_append, leadItems_append_bodyItems, flatMap_tokens_items]
    exact scans_tokens line
  rw [hKept, List.flatMap_append, flatMap_tokens_filter]
  exact (c.scans hLine).append_filter

end Range

/-- The clusters of a line from the first one on that takes a cell. -/
def bodyClusters (line : Text) : List Text :=
  line.visible.clusters.dropWhile (clusterWidth · = 0)

/-- The visible text of a line before the first cluster that takes a cell. -/
def lead (line : Text) : Text := (line.visible.clusters.takeWhile (clusterWidth · = 0)).flatten

/-- The visible text of a line from the first cluster on that takes a cell. -/
def body (line : Text) : Text := line.bodyClusters.flatten

/-- A cut of the line neither takes clusters apart nor joins any: no escape sequence stands inside a
cluster, and the clusters from the first one on that takes a cell do not depend on those before. -/
structure Clippable (line : Text) : Prop where
  seamless : line.Seamless
  isSeam_lead : IsSeam line.lead line.body

instance (line : Text) : Decidable line.Clippable :=
  decidable_of_iff (line.Seamless ∧ IsSeam line.lead line.body)
    ⟨fun h => ⟨h.1, h.2⟩, fun h => ⟨h.1, h.2⟩⟩

/-- It is enough that no escape sequence stands inside a cluster, and no prepended mark before the
first cluster that takes a cell. -/
theorem Clippable.of_no_prepend {line : Text} (h : line.Seamless)
    (hMarks : ∀ c ∈ line.lead, BreakClass.ofChar c ≠ .prepend) : line.Clippable :=
  ⟨h, .of_no_prepend List.takeWhile_append_dropWhile.symm hMarks⟩

theorem Clippable.clusters_body {line : Text} (h : line.Clippable) :
    line.body.clusters = line.bodyClusters := by
  let first := line.visible.clusters.takeWhile (clusterWidth · = 0)
  have hSplit : line.visible.clusters = first ++ line.bodyClusters :=
    List.takeWhile_append_dropWhile.symm
  have hSeam : (line.lead ++ line.body).clusters = line.lead.clusters ++ line.body.clusters :=
    h.isSeam_lead
  have hLead : line.lead.clusters = first := clusters_flatten_of_append hSplit
  have hWhole : line.lead ++ line.body = line.visible := by
    rw [← flatten_clusters line.visible, hSplit, List.flatten_append]
    rfl
  rw [hWhole, hSplit, hLead] at hSeam
  exact (List.append_cancel_left hSeam).symm

/-- The clusters in the body of a line, where the line is cut as it is measured. -/
theorem filterMap_cluster?_bodyItems {line : Text} (h : line.Seamless) :
    line.bodyItems.filterMap Item.cluster? = line.bodyClusters := by
  have hCells : (fun item : Item => decide (item.cells = 0)) =
      fun item => item.cluster?.all (decide <| clusterWidth · = 0) := by
    funext item
    cases item <;> rfl
  rw [bodyClusters, clusters_visible_of_seamless h, ← filterMap_cluster?_items,
    List.dropWhile_filterMap, bodyItems, hCells]

/-- A range from the first column on keeps the first clusters in the body of a line, and blanks. -/
theorem Range.exists_clusters_kept {r : Range} (hStart : r.start = 0) (hStop : 0 < r.stop)
    {line : Text} (h : line.Seamless) :
    ∃ first rest n, line.bodyClusters = first ++ rest ∧
      (r.kept line).filterMap Item.cluster? = first ++ List.replicate n [' '] := by
  obtain ⟨body, hKept, ⟨c⟩⟩ := exists_kept_eq hStart hStop line
  have hLead : (line.leadItems.filter (·.cluster?.isNone)).filterMap Item.cluster? = [] := by
    refine List.filterMap_eq_nil_iff.mpr fun item hItem => ?_
    exact Option.isNone_iff_eq_none.mp (List.mem_filter.mp hItem).2
  refine ⟨c.first.filterMap Item.cluster?,
    (c.gone ++ (c.codes ++ c.rest)).filterMap Item.cluster?, c.blanks, ?_, ?_⟩
  · have hBody := congrArg (List.filterMap Item.cluster?) c.items_eq
    rwa [filterMap_cluster?_bodyItems h, List.filterMap_append] at hBody
  · rw [hKept, List.filterMap_append, hLead, c.filterMap_cluster?_kept]
    rfl

/-- What is cut out of a line from its first column on is no wider than asked for, once it is
measured again. -/
theorem width_cut_le {line : Text} (h : line.Clippable) {limit : Int} (hLimit : 0 < limit) :
    (line.cut 0 limit true).width ≤ limit := by
  let r : Range := ⟨0, 0 + limit, true⟩
  have hStop : 0 < r.stop := by
    show 0 < 0 + limit
    omega
  obtain ⟨first, rest, n, hBody, hKept⟩ := r.exists_clusters_kept rfl hStop h.seamless
  -- the clusters kept are the first ones of the body, so they are found again on their own
  have hFirst : clusters first.flatten = first := by
    have hClusters := h.clusters_body
    rw [hBody] at hClusters
    exact clusters_flatten_of_append hClusters
  have hVisible : (line.cut 0 limit true).visible = first.flatten ++ spaces n := by
    rw [cut_eq_flatMap_kept line 0 hLimit, visible_flatMap_items (r.scans_kept rfl hStop line),
      hKept, List.flatten_append, List.flatten_replicate_singleton]
    rfl
  -- the cells of what is kept are columns inside the range
  have hCells : clustersWidth first + n = itemsWidth (r.kept line) := by
    rw [itemsWidth_eq_clustersWidth, hKept, clustersWidth_append_blanks]
  have hInside : (itemsWidth (r.kept line) : Int) ≤ limit := by
    rw [r.itemsWidth_kept rfl line, Range.inside_eq]
    show ((min _ (0 + limit) - max _ 0).toNat : Int) ≤ limit
    omega
  calc ((line.cut 0 limit true).width : Int)
      = clustersWidth (clusters (first.flatten ++ spaces n)) := by
        rw [width_eq_clustersWidth, hVisible]
    _ ≤ (clustersWidth (clusters first.flatten) + n : Nat) :=
        Int.ofNat_le.mpr (clustersWidth_append_spaces first.flatten n)
    _ = itemsWidth (r.kept line) := by rw [hFirst, hCells]
    _ ≤ limit := hInside

/-- A line that is clipped to a width fits it, if it fits it anyhow or can be cut. -/
theorem width_clip_le_max {line : Text} {limit : Int} (h : limit < line.width → line.Clippable) :
    (line.clip limit).width ≤ max 0 limit := by
  unfold clip
  split
  · exact Int.le_max_left 0 limit
  · next hPos =>
    have hPos : 0 < limit := Int.not_le.mp hPos
    split
    · next hFits => exact Int.le_trans hFits (Int.le_max_right 0 limit)
    · next hWide =>
      exact Int.le_trans (width_cut_le (h (Int.not_le.mp hWide)) hPos) (Int.le_max_right 0 limit)

/-! ## Rows that fit -/

/-- All rows fit a width. -/
def FitAll (width : Int) (rows : List Text) : Prop := ∀ row ∈ rows, row.width ≤ max 0 width

instance (width : Int) (rows : List Text) : Decidable (FitAll width rows) :=
  inferInstanceAs (Decidable (∀ _ ∈ _, _))

theorem FitAll.slice {width : Int} {rows : List Text} (h : FitAll width rows) (v : Viewport) :
    FitAll width (v.slice rows) :=
  fun row hRow => h row (List.mem_of_mem_drop (List.mem_of_mem_take hRow))

end Text

open Text

/-- Whatever serves rows that fit draws rows that fit, in full and by windows. -/
theorem Component.Serves.fitAll {σ : Type} {inv : σ → Prop} {c : Component σ}
    {rows : Int → List Text} (hServes : c.Serves inv rows) {width : Int}
    (hRows : FitAll width (rows width)) {world : σ} (hInv : inv world) :
    FitAll width (c.render width world).1 ∧ ∀ v, FitAll width (c.view width v world).1.rows := by
  constructor
  · rw [(hServes.render width world hInv).1]
    exact hRows
  · intro v
    rw [(hServes.view width v world hInv).1]
    exact hRows.slice v

/-- **Clipped rows fit.** Lines that are clipped to a width fit it, and so do all rows that a label or
a transcript draws of them, whatever it remembers: a line that is too wide is required to be
`Clippable`. -/
theorem fitAll_clip (width : Int) {lines : List Text}
    (h : ∀ line ∈ lines, width < line.width → line.Clippable) :
    FitAll width (lines.map (Text.clip · width)) ∧
      (FitAll width (Label.component.render width { lines }).1 ∧
        ∀ v, FitAll width (Label.component.view width v { lines }).1.rows) ∧
      ∀ transcript : Transcript, transcript.lines = lines →
        FitAll width (Transcript.component.render width transcript).1 ∧
          ∀ v, FitAll width (Transcript.component.view width v transcript).1.rows := by
  have hRows : FitAll width (lines.map (Text.clip · width)) := by
    intro row hRow
    obtain ⟨line, hLine, rfl⟩ := List.mem_map.mp hRow
    exact width_clip_le_max (h line hLine)
  exact ⟨hRows, (Label.serves { lines }).fitAll hRows rfl,
    fun transcript hLines => (Transcript.serves lines).fitAll hRows hLines⟩

/-- An accent, a wide character, a tab and a letter, with escape sequences around the first three. -/
def accentedTab : Text := "\x1b[1m\u0301好\t\x1b[0mb".toList

theorem fitAll_clip_accentedTab :
    let transcript := (Transcript.draw 1 (Transcript.ofLines [accentedTab])).2
    (∀ line ∈ [accentedTab], (4 : Int) < line.width → line.Clippable) ∧
      FitAll 4 (Transcript.component.render 4 transcript).1 ∧
      accentedTab.width = 6 ∧
      (Transcript.component.render 4 transcript).1 = ["\x1b[1m好  \x1b[0m".toList] := by
  intro transcript
  have hLead : accentedTab.lead = ['\u0301'] := by decide +kernel
  have hClippable : accentedTab.Clippable := by
    refine .of_no_prepend (by decide +kernel) ?_
    rw [hLead, List.forall_mem_singleton]
    decide
  have hLines : ∀ line ∈ [accentedTab], (4 : Int) < line.width → line.Clippable := by
    intro line hLine _
    rwa [List.mem_singleton.mp hLine]
  exact ⟨hLines, ((fitAll_clip 4 hLines).2.2 transcript rfl).1, by decide +kernel, by decide +kernel⟩

/-- Two prepended marks, a tab with a variation selector and a letter. -/
def markedTab : Text := "\u0600\u0600\t\uFE0Fb".toList

/-- A letter and a variation selector with an escape sequence between them, and another letter. -/
def splitSelector : Text := "a\x1b[0m\uFE0Fb".toList

/-- The tab and the selector are one cluster of two cells after the marks, and nothing else stands
inside it. Clipping drops the marks, which take no cell, and then the tab is a cluster of its own
that takes three. The selector of the other line is measured with the letter before it, and cut
without. -/
theorem width_clip_gt :
    markedTab.Seamless ∧ markedTab.clip 2 = "\t\uFE0F".toList ∧ 2 < (markedTab.clip 2).width ∧
      splitSelector.clip 2 = splitSelector ∧ 2 < (splitSelector.clip 2).width ∧
      ¬FitAll 2 (Label.component.render 2 { lines := [markedTab, splitSelector] }).1 := by
  decide +kernel

end ScrollPane
