import ScrollPane.Proofs.Columns
import Mathlib.Data.List.Induction

/-!
# What a cut keeps

A cut walks over the items of a line and stops early, in one way at a cluster beyond its range and in
another by keeping nothing of what lies before it. What it keeps can be said of each item on its own,
by the column that the line has reached before it: clusters that have a cell inside the range, or
that take no cell and stand properly inside it, and escape sequences from the start of the range on
until a cluster stands beyond its end.

Where the cut is strict, the cells of what it keeps are just the columns of the line that lie inside
the range, each of them once.

## Main definitions

- `Text.Placed`: an item at its place in a line;
- `Text.Range.shows`: what a range keeps of an item at its place;
- `Text.Range.kept`: the items of a line that a range keeps.

## Main statements

- `Text.Range.walk_eq_kept`: the walk keeps these items;
- `Text.Range.itemsWidth_keptFrom`: the cells that a strict range keeps;
- `Text.cut_eq_kept`: both for the cut of a line.
-/

namespace ScrollPane.Text

/-! ## Items at their places -/

/-- The cells that an item takes. -/
def Item.cells : Item → Nat
  | .escape _ => 0
  | .cluster chars => chars.clusterWidth

/-- The cells that some items take next to one another. -/
def itemsWidth : List Item → Nat
  | [] => 0
  | item :: rest => item.cells + itemsWidth rest

theorem itemsWidth_append (items more : List Item) :
    itemsWidth (items ++ more) = itemsWidth items + itemsWidth more := by
  induction items with
  | nil => exact (Nat.zero_add _).symm
  | cons item items ih => rw [List.cons_append, itemsWidth, itemsWidth, ih, Nat.add_assoc]

theorem itemsWidth_concat (items : List Item) (item : Item) :
    itemsWidth (items ++ [item]) = itemsWidth items + item.cells :=
  itemsWidth_append items [item]

theorem itemsWidth_eq_clustersWidth (items : List Item) :
    itemsWidth items = clustersWidth (items.filterMap Item.cluster?) := by
  induction items with
  | nil => rfl
  | cons item items ih =>
    rw [itemsWidth]
    cases item with
    | escape code => exact (Nat.zero_add _).trans ih
    | cluster chars => exact congrArg (chars.clusterWidth + ·) ih

/-- The items of a line take the columns that a cut walks through. -/
theorem itemsWidth_items (line : Text) : itemsWidth line.items = line.columns := by
  rw [itemsWidth_eq_clustersWidth, filterMap_cluster?_items, columns]

/-- An item at its place in a line. -/
structure Placed where
  /-- The items before it. -/
  before : List Item
  item : Item
deriving DecidableEq, Repr

/-- The column that the line has reached before an item. -/
def Placed.col (p : Placed) : Nat := itemsWidth p.before

/-- The item is a cluster that begins at or beyond a column. -/
def Placed.Beyond (p : Placed) (stop : Int) : Prop := p.item.cluster?.isSome ∧ stop ≤ p.col

instance (p : Placed) (stop : Int) : Decidable (p.Beyond stop) :=
  inferInstanceAs (Decidable (_ ∧ _))

theorem Placed.not_beyond_escape (before : List Item) (code : Text) (stop : Int) :
    ¬Placed.Beyond ⟨before, .escape code⟩ stop := by
  rintro ⟨hCluster, -⟩
  cases hCluster

/-- Items that come after others, at their places. -/
def placedFrom (before : List Item) : List Item → List Placed
  | [] => []
  | item :: rest => ⟨before, item⟩ :: placedFrom (before ++ [item]) rest

/-- The items of a line at their places. -/
def placed (line : Text) : List Placed := placedFrom [] line.items

/-- Some cluster among the items begins at or beyond a column. -/
def Passes (items : List Item) (stop : Int) : Prop := ∃ p ∈ placedFrom [] items, p.Beyond stop

instance (items : List Item) (stop : Int) : Decidable (Passes items stop) :=
  inferInstanceAs (Decidable (∃ _ ∈ _, _))

theorem not_passes_nil (stop : Int) : ¬Passes [] stop := by
  simp [Passes, placedFrom]

theorem placedFrom_append (before items more : List Item) :
    placedFrom before (items ++ more) =
      placedFrom before items ++ placedFrom (before ++ items) more := by
  induction items generalizing before with
  | nil => simp [placedFrom]
  | cons item items ih => simp [placedFrom, ih]

/-- One more item passes a column only if it is a cluster beyond it. -/
theorem passes_concat (items : List Item) (item : Item) (stop : Int) :
    Passes (items ++ [item]) stop ↔ Passes items stop ∨ Placed.Beyond ⟨items, item⟩ stop := by
  unfold Passes
  rw [placedFrom_append, List.nil_append]
  simp [placedFrom, or_and_right, exists_or]

/-- As long as each item is an escape sequence, or begins before a column, the line has not passed
it. -/
theorem not_passes_concat {items : List Item} {item : Item} {stop : Int} (h : ¬Passes items stop)
    (hItem : ¬Placed.Beyond ⟨items, item⟩ stop) : ¬Passes (items ++ [item]) stop := by
  rw [passes_concat, not_or]
  exact ⟨h, hItem⟩

/-- The column only grows along a line. -/
theorem Passes.le_itemsWidth {items : List Item} {stop : Int} (h : Passes items stop) :
    stop ≤ itemsWidth items := by
  induction items using List.reverseRecOn with
  | nil => exact absurd h (not_passes_nil stop)
  | append_singleton items item ih =>
    rw [itemsWidth_concat]
    rcases (passes_concat items item stop).mp h with hBefore | ⟨-, hCol⟩
    · have hReached := ih hBefore
      omega
    · have hReached : stop ≤ itemsWidth items := hCol
      omega

/-! ## What a range keeps -/

namespace Range

/-- The number of cells inside the range, of `cells` ones from column `col` on. -/
def inside (r : Range) (col cells : Nat) : Nat :=
  (List.range' col cells).countP fun (c : Nat) => r.start ≤ c ∧ c < r.stop

/-- The range is strict, and a cluster of several cells from column `col` on is not contained in
it. -/
def Divides (r : Range) (col cells : Nat) : Prop :=
  r.strict = true ∧ 1 < cells ∧ ¬(r.start ≤ col ∧ (col + cells : Int) ≤ r.stop)

instance (r : Range) (col cells : Nat) : Decidable (r.Divides col cells) :=
  inferInstanceAs (Decidable (_ ∧ _ ∧ _))

/-- What the range keeps of an item at its place. -/
def shows (r : Range) (p : Placed) : List Item :=
  match p.item with
  | .escape code => if r.start ≤ p.col ∧ ¬Passes p.before r.stop then [.escape code] else []
  | .cluster chars =>
    if p.col < r.stop ∧ r.start < (p.col + chars.clusterWidth : Int) then
      if r.Divides p.col chars.clusterWidth then
        List.replicate (r.inside p.col chars.clusterWidth) (.cluster [' '])
      else [.cluster chars]
    else []

theorem shows_escape (r : Range) (before : List Item) (code : Text) :
    r.shows ⟨before, .escape code⟩ =
      if r.start ≤ itemsWidth before ∧ ¬Passes before r.stop then [.escape code] else [] := rfl

theorem shows_cluster (r : Range) (before : List Item) (chars : Text) :
    r.shows ⟨before, .cluster chars⟩ =
      if itemsWidth before < r.stop ∧ r.start < (itemsWidth before + chars.clusterWidth : Int) then
        if r.Divides (itemsWidth before) chars.clusterWidth then
          List.replicate (r.inside (itemsWidth before) chars.clusterWidth) (.cluster [' '])
        else [.cluster chars]
      else [] := rfl

/-- What the range keeps of items that come after others. -/
def keptFrom (r : Range) (before items : List Item) : List Item :=
  (placedFrom before items).flatMap r.shows

/-- What the range keeps of a line, in order. -/
def kept (r : Range) (line : Text) : List Item := line.placed.flatMap r.shows

theorem keptFrom_cons (r : Range) (before : List Item) (item : Item) (rest : List Item) :
    r.keptFrom before (item :: rest) =
      r.shows ⟨before, item⟩ ++ r.keptFrom (before ++ [item]) rest := rfl

theorem keptFrom_append (r : Range) (before items more : List Item) :
    r.keptFrom before (items ++ more) =
      r.keptFrom before items ++ r.keptFrom (before ++ items) more := by
  rw [keptFrom, placedFrom_append, List.flatMap_append]
  rfl

/-! ## Cells inside a range -/

theorem inside_add (r : Range) (col cells more : Nat) :
    r.inside col (cells + more) = r.inside col cells + r.inside (col + cells) more := by
  rw [inside, ← List.range'_append_1, List.countP_append]
  rfl

/-- The cells inside a range lie between the later of the two starts and the earlier of the two
ends. -/
theorem inside_eq (r : Range) (col cells : Nat) :
    r.inside col cells = (min (col + cells : Int) r.stop - max (col : Int) r.start).toNat := by
  induction cells with
  | zero =>
    simp [inside]
    omega
  | succ cells ih =>
    -- the last cell is inside or it is not
    have hLast : r.inside (col + cells) 1 =
        if r.start ≤ (col + cells : Nat) ∧ ((col + cells : Nat) : Int) < r.stop then 1 else 0 := by
      simp [inside, List.range'_one, List.countP_cons]
    rw [inside_add, ih, hLast]
    split <;> omega

/-- A range keeps nothing beyond a cluster that stands beyond its end. -/
theorem shows_of_passes {r : Range} {p : Placed} (h : Passes p.before r.stop) :
    r.shows p = [] := by
  have hReached : r.stop ≤ p.col := h.le_itemsWidth
  unfold shows
  split
  · exact if_neg fun hShown => hShown.2 h
  · exact if_neg fun hShown => Int.not_lt.mpr hReached hShown.1

theorem keptFrom_of_passes {r : Range} {before : List Item} (h : Passes before r.stop)
    (items : List Item) : r.keptFrom before items = [] := by
  induction items generalizing before with
  | nil => rfl
  | cons item items ih =>
    have hLater : Passes (before ++ [item]) r.stop := (passes_concat before item _).mpr (.inl h)
    rw [keptFrom_cons, shows_of_passes h, ih hLater]
    rfl

/-- The first cluster beyond the end of a range is the last item that the range looks at. -/
theorem keptFrom_of_beyond {r : Range} {before : List Item} {chars : Text}
    (hBeyond : r.stop ≤ itemsWidth before) (rest : List Item) :
    r.keptFrom before (.cluster chars :: rest) = [] := by
  have hPassed : Passes (before ++ [.cluster chars]) r.stop :=
    (passes_concat before _ _).mpr (.inr ⟨rfl, hBeyond⟩)
  have hNotShown : r.shows ⟨before, .cluster chars⟩ = [] :=
    if_neg fun hShown => Int.not_lt.mpr hBeyond hShown.1
  rw [keptFrom_cons, hNotShown, keptFrom_of_passes hPassed]
  rfl

theorem flatMap_chars_blanks (n : Nat) :
    (List.replicate n (Item.cluster [' '])).flatMap Item.chars = spaces n := by
  rw [List.flatMap_replicate]
  exact List.flatten_replicate_singleton

/-- A walk keeps of a cluster before the end of the range what the range shows of it. -/
theorem keep_eq_shows {r : Range} {before : List Item} (hBefore : itemsWidth before < r.stop)
    (chars : Text) :
    r.keep (itemsWidth before) chars = (r.shows ⟨before, .cluster chars⟩).flatMap Item.chars := by
  have hDivides : (r.strict && decide (1 < chars.clusterWidth) &&
      (decide ((itemsWidth before : Int) < r.start) ||
        decide (r.stop < (itemsWidth before + chars.clusterWidth : Int)))) = true ↔
      r.Divides (itemsWidth before) chars.clusterWidth := by
    simp only [Divides, Bool.and_eq_true, Bool.or_eq_true, decide_eq_true_eq, and_assoc,
      not_and_or, Int.not_le]
  -- either way a cluster is left out, replaced or kept whole
  simp only [keep, shows_cluster, hBefore, true_and, inside_eq, hDivides]
  by_cases hOutside : (itemsWidth before + chars.clusterWidth : Int) ≤ r.start
  · rw [if_pos hOutside, if_neg (Int.not_lt.mpr hOutside)]
    rfl
  · rw [if_neg hOutside, if_pos (Int.not_le.mp hOutside)]
    split
    · rw [flatMap_chars_blanks]
    · exact (List.append_nil chars).symm

/-- The walk and the rule for each item keep the same. -/
theorem walk_eq_kept (r : Range) {before : List Item} (hBefore : ¬Passes before r.stop)
    (items : List Item) :
    r.walk (itemsWidth before) items = (r.keptFrom before items).flatMap Item.chars := by
  induction items generalizing before with
  | nil => rfl
  | cons item items ih =>
    cases item with
    | escape code =>
      have hAfter : ¬Passes (before ++ [.escape code]) r.stop :=
        not_passes_concat hBefore (Placed.not_beyond_escape before code r.stop)
      -- an escape sequence takes no column, so the walk goes on at the same one
      have hSame : itemsWidth (before ++ [.escape code]) = itemsWidth before := itemsWidth_concat _ _
      have hRest := ih hAfter
      rw [hSame] at hRest
      rw [walk, keptFrom_cons, List.flatMap_append, ← hRest]
      simp only [shows_escape, hBefore, not_false_eq_true, and_true]
      split
      · rw [List.flatMap_singleton]
        rfl
      · rfl
    | cluster chars =>
      rw [walk]
      split
      · next hBeyond =>
        rw [keptFrom_of_beyond hBeyond]
        rfl
      · next hInside =>
        have hInside := Int.not_le.mp hInside
        have hAfter : ¬Passes (before ++ [.cluster chars]) r.stop :=
          not_passes_concat hBefore fun hBeyond => Int.not_lt.mpr hBeyond.2 hInside
        have hRest := ih hAfter
        rw [itemsWidth_concat] at hRest
        rw [keptFrom_cons, List.flatMap_append, ← hRest, keep_eq_shows hInside]
        rfl

/-! ## The cells that are kept -/

theorem itemsWidth_blanks (n : Nat) : itemsWidth (List.replicate n (.cluster [' '])) = n := by
  have hCell : Item.cells (.cluster [' ']) = 1 := by decide
  induction n with
  | zero => rfl
  | succ n ih => rw [List.replicate_succ, itemsWidth, hCell, ih, Nat.add_comm]

/-- A strict range keeps of an item as many cells as the item has inside it. -/
theorem itemsWidth_shows {r : Range} (hStrict : r.strict = true) (p : Placed) :
    itemsWidth (r.shows p) = r.inside p.col p.item.cells := by
  obtain ⟨before, item⟩ := p
  cases item with
  | escape code =>
    -- an escape sequence has no cells, kept or not
    rw [shows_escape, apply_ite itemsWidth]
    exact ite_self 0
  | cluster chars =>
    have hWhole : itemsWidth [.cluster chars] = chars.clusterWidth := rfl
    rw [shows_cluster]
    show _ = r.inside (itemsWidth before) chars.clusterWidth
    by_cases hShown : (itemsWidth before : Int) < r.stop ∧
        r.start < (itemsWidth before + chars.clusterWidth : Int)
    · -- some of the cluster is inside, and blanks stand for it where it is divided
      rw [if_pos hShown]
      by_cases hDivides : r.Divides (itemsWidth before) chars.clusterWidth
      · rw [if_pos hDivides, itemsWidth_blanks]
      · -- what is kept whole takes one cell at most, or lies inside the range
        rw [if_neg hDivides, hWhole, inside_eq]
        simp only [Divides, hStrict, true_and] at hDivides
        omega
    · rw [if_neg hShown, inside_eq]
      show 0 = _
      omega

/-- A strict range keeps the cells that items have inside it, each of them once. -/
theorem itemsWidth_keptFrom {r : Range} (hStrict : r.strict = true) (before items : List Item) :
    itemsWidth (r.keptFrom before items) = r.inside (itemsWidth before) (itemsWidth items) := by
  induction items generalizing before with
  | nil => rfl
  | cons item items ih =>
    rw [keptFrom_cons, itemsWidth_append, itemsWidth_shows hStrict, ih, itemsWidth_concat, itemsWidth,
      inside_add]
    rfl

end Range

/-- A cut consists of the items that its range keeps. -/
theorem cut_eq_flatMap_kept (line : Text) (start : Int) {length : Int} (hLength : 0 < length)
    (strict : Bool) :
    line.cut start length strict =
      (Range.kept ⟨start, start + length, strict⟩ line).flatMap Item.chars := by
  rw [cut, if_neg (Int.not_le.mpr hLength)]
  exact Range.walk_eq_kept _ (not_passes_nil _) line.items

/-- The cells that a strict range keeps of a line. -/
theorem Range.itemsWidth_kept {r : Range} (hStrict : r.strict = true) (line : Text) :
    itemsWidth (r.kept line) = r.inside 0 line.columns := by
  rw [← itemsWidth_items]
  exact itemsWidth_keptFrom hStrict [] line.items

/-- **What a cut keeps.** A cut of positive length keeps of a line, in order, every cluster that
begins before its end and ends after its start, and every escape sequence from its start on that
follows no cluster beyond its end. Clusters are kept whole, except that a strict cut replaces one of
several cells that is not contained in its range by a space for each cell inside. The cells that a
strict cut keeps are as many as the line has columns inside its range. -/
theorem cut_eq_kept (line : Text) (start : Int) {length : Int} (hLength : 0 < length)
    (strict : Bool) :
    let r : Range := ⟨start, start + length, strict⟩
    line.cut start length strict = (r.kept line).flatMap Item.chars ∧
      (strict = true →
        (itemsWidth (r.kept line) : Int) =
          max 0 (min (line.columns : Int) r.stop - max 0 r.start)) := by
  intro r
  refine ⟨cut_eq_flatMap_kept line start hLength strict, fun hStrict => ?_⟩
  have hKept : itemsWidth (r.kept line) = r.inside 0 line.columns := r.itemsWidth_kept hStrict line
  rw [hKept, Range.inside_eq]
  omega

/-- A wide character, a tab and two letters, with escape sequences before and between them. -/
def styledTab : Text := "\x1b[1m好\t\x1b[0mb\x1b[4mc".toList

/-- The range begins inside the wide character and ends inside the tab, so a strict cut has spaces
for both. Of the escape sequences it keeps the one that follows, up to the letter beyond. -/
theorem cut_eq_kept_styledTab :
    (0 : Int) < 3 ∧
      (styledTab.cut 1 3 true = (Range.kept ⟨1, 1 + 3, true⟩ styledTab).flatMap Item.chars ∧
        (true = true → (itemsWidth (Range.kept ⟨1, 1 + 3, true⟩ styledTab) : Int) =
          max 0 (min (styledTab.columns : Int) (1 + 3) - max 0 1))) ∧
      styledTab.columns = 7 ∧ styledTab.cut 1 3 true = "   \x1b[0m".toList ∧
      styledTab.cut 1 3 = "好\t\x1b[0m".toList :=
  ⟨by decide, cut_eq_kept styledTab 1 (by decide) true, by decide +kernel, by decide +kernel,
    by decide +kernel⟩

end ScrollPane.Text
