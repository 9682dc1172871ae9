import ScrollPane.Layout.Selection
import ScrollPane.Proofs.StyledCuts

/-!
# The text of highlighted lines

To highlight some columns, a line is cut three times, and what comes of it is put together again
with inverse video switched on and off in between. No cut knows of the others. Where both ends of
the highlight fall between two clusters, though, and each cluster takes a cell, the three cuts keep
each cluster once, so that the highlighted line shows the text that it showed before. Escape
sequences may be dropped or come twice; the visible text is none of their business.

## Main definitions

- `Text.IsBoundary`: columns between two clusters of a line.

## Main statements

- `Text.visible_cut_between`: what is cut out between two boundaries;
- `visible_highlightColumns`: highlighting shows the clusters before, between and after two
  boundaries;
- `highlight_keeps_text`: so it keeps the visible text and the width.
-/

namespace ScrollPane

namespace Text

/-! ## Clusters before, inside and beyond a range -/

theorem itemsWidth_map_cluster (clusters : List Text) :
    itemsWidth (clusters.map .cluster) = clustersWidth clusters := by
  induction clusters with
  | nil => rfl
  | cons cluster more ih => exact congrArg (cluster.clusterWidth + ·) ih

namespace Range

variable {r : Range} {before : List Item}

/-- A range keeps no cluster that ends where it begins, or before. -/
theorem keptFrom_of_le_start {clusters : List Text}
    (h : (itemsWidth before + clustersWidth clusters : Nat) ≤ r.start) :
    r.keptFrom before (clusters.map .cluster) = [] := by
  induction clusters generalizing before with
  | nil => rfl
  | cons cluster more ih =>
    rw [clustersWidth] at h
    have hLater : r.keptFrom (before ++ [.cluster cluster]) (more.map .cluster) = [] := by
      refine ih ?_
      rw [itemsWidth_concat, Item.cells]
      omega
    rw [List.map_cons, keptFrom_cons, hLater, shows_cluster, if_neg (by omega)]
    rfl

/-- A range keeps the clusters that lie inside it, if each takes a cell. -/
theorem keptFrom_of_inside {clusters : List Text} (hStart : r.start ≤ itemsWidth before)
    (hStop : (itemsWidth before + clustersWidth clusters : Nat) ≤ r.stop)
    (hCells : ∀ cluster ∈ clusters, 1 ≤ cluster.clusterWidth) :
    r.keptFrom before (clusters.map .cluster) = clusters.map .cluster := by
  induction clusters generalizing before with
  | nil => rfl
  | cons cluster more ih =>
    obtain ⟨hCell, hMore⟩ := List.forall_mem_cons.mp hCells
    rw [clustersWidth] at hStop
    have hWidth : itemsWidth (before ++ [.cluster cluster]) =
        itemsWidth before + cluster.clusterWidth := itemsWidth_concat _ _
    have hLater : r.keptFrom (before ++ [.cluster cluster]) (more.map .cluster) =
        more.map .cluster :=
      ih (by rw [hWidth]; omega) (by rw [hWidth]; omega) hMore
    -- the cluster is contained in the range, so it is not divided
    have hContained : ¬r.Divides (itemsWidth before) cluster.clusterWidth :=
      fun hDivides => hDivides.2.2 ⟨hStart, by omega⟩
    rw [List.map_cons, keptFrom_cons, hLater, shows_cluster, if_pos (by omega), if_neg hContained]
    rfl

/-- A range keeps no cluster from its end on. -/
theorem keptFrom_of_stop_le_before (h : r.stop ≤ itemsWidth before) (clusters : List Text) :
    r.keptFrom before (clusters.map .cluster) = [] := by
  cases clusters with
  | nil => rfl
  | cons cluster more => exact keptFrom_of_beyond h _

/-- A range that begins and ends between clusters keeps those between. -/
theorem keptFrom_between {first mid : List Text} (hStart : r.start = clustersWidth first)
    (hStop : r.stop = clustersWidth (first ++ mid))
    (hCells : ∀ cluster ∈ mid, 1 ≤ cluster.clusterWidth) (rest : List Text) :
    r.keptFrom [] ((first ++ (mid ++ rest)).map .cluster) = mid.map .cluster := by
  rw [clustersWidth_append] at hStop
  have hFirst : itemsWidth ([] ++ first.map .cluster) = clustersWidth first :=
    itemsWidth_map_cluster first
  have hMid : itemsWidth ([] ++ first.map .cluster ++ mid.map .cluster) =
      clustersWidth first + clustersWidth mid := by
    rw [itemsWidth_append, hFirst, itemsWidth_map_cluster]
  have hBefore : r.keptFrom [] (first.map .cluster) = [] :=
    keptFrom_of_le_start (by rw [itemsWidth]; omega)
  have hInside : r.keptFrom ([] ++ first.map .cluster) (mid.map .cluster) = mid.map .cluster :=
    keptFrom_of_inside (by omega) (by omega) hCells
  have hBeyond : r.keptFrom ([] ++ first.map .cluster ++ mid.map .cluster) (rest.map .cluster) = [] :=
    keptFrom_of_stop_le_before (by omega) rest
  rw [List.map_append, List.map_append, keptFrom_append, keptFrom_append, hBefore, hInside, hBeyond,
    List.nil_append, List.append_nil]

end Range

/-! ## Boundaries -/

/-- A column at which a cluster of the line begins, or the last one ends. -/
def IsBoundary (line : Text) (col : Int) : Prop :=
  ∃ first, first <+: line.visible.clusters ∧ col = clustersWidth first

/-- Two boundaries divide the clusters of a line into those before, between and after them. -/
theorem IsBoundary.exists_split {line : Text} {start stop : Int} (hStart : line.IsBoundary start)
    (hStop : line.IsBoundary stop) (hLt : start < stop) :
    ∃ first mid rest, line.visible.clusters = first ++ (mid ++ rest) ∧
      start = clustersWidth first ∧ stop = clustersWidth (first ++ mid) := by
  obtain ⟨first, hFirst, rfl⟩ := hStart
  obtain ⟨upTo, hUpTo, rfl⟩ := hStop
  rcases List.prefix_or_prefix_of_prefix hFirst hUpTo with ⟨mid, rfl⟩ | ⟨mid, rfl⟩
  · obtain ⟨rest, hRest⟩ := hUpTo
    exact ⟨first, mid, rest, by rw [← hRest, List.append_assoc], rfl, rfl⟩
  · -- the one with more clusters takes no fewer columns
    rw [clustersWidth_append] at hLt
    omega

/-- Between two boundaries a cut shows the clusters that lie there. -/
theorem visible_cut_between {line : Text} (hPlain : esc ∉ line.visible) (hWhole : line.Undivided)
    {first mid rest : List Text} (hClusters : line.visible.clusters = first ++ (mid ++ rest))
    (hCells : ∀ cluster ∈ mid, 1 ≤ cluster.clusterWidth) (strict : Bool) :
    (line.cut (clustersWidth first) (clustersWidth mid) strict).visible = mid.flatten := by
  by_cases hLength : (0 : Int) < clustersWidth mid
  · let r : Range := ⟨clustersWidth first, clustersWidth first + clustersWidth mid, strict⟩
    have hStop : r.stop = clustersWidth (first ++ mid) := by
      rw [clustersWidth_append, Int.natCast_add]
    have hKept : r.kept line.visible = mid.map .cluster := by
      show r.keptFrom [] line.visible.items = _
      rw [items_of_plain hPlain, hClusters]
      exact Range.keptFrom_between rfl hStop hCells rest
    rw [visible_cut_of_pos hPlain hWhole _ hLength, hKept, List.flatMap_map]
    exact List.flatMap_id
  · -- clusters that take cells take up no column only if there are none
    cases mid with
    | nil => rfl
    | cons cluster more =>
      have hCell := hCells cluster List.mem_cons_self
      rw [clustersWidth] at hLength
      omega

end Text

open Text

/-! ## Highlighting -/

/-- A range of columns that is empty within the line highlights nothing. -/
theorem highlightColumns_of_empty {line : Text} {start stop : Int} {width : Nat}
    (h : clamp stop 0 width ≤ clamp start 0 width) : highlightColumns line start stop width = line :=
  if_pos h

/-- Inverse video is switched on and off by one complete escape sequence each. -/
theorem escapeLength?_inverse : escapeLength? inverse = some inverse.length := by
  decide

theorem escapeLength?_resetStyle : escapeLength? resetStyle = some resetStyle.length := by
  decide

/-- A line whose clusters are divided in three by the columns asked for is cut in these three, which
are put together again around inverse video. -/
theorem highlightColumns_of_split {line : Text} {start stop : Int} {first mid rest : List Text}
    (hClusters : line.visible.clusters = first ++ (mid ++ rest))
    (hFrom : clamp start 0 line.width = clustersWidth first)
    (hTo : clamp stop 0 line.width = clustersWidth (first ++ mid))
    (hSome : ¬clamp stop 0 line.width ≤ clamp start 0 line.width) :
    highlightColumns line start stop line.width =
      line.cut 0 (clustersWidth first) true ++ inverse ++
        line.cut (clustersWidth first) (clustersWidth mid) true ++ resetStyle ++
        line.cut (clustersWidth (first ++ mid)) (clustersWidth rest) true := by
  have hWidth : (line.width : Int) = clustersWidth (first ++ mid) + clustersWidth rest := by
    rw [width_eq_clustersWidth, hClusters, ← List.append_assoc, clustersWidth_append,
      Int.natCast_add]
  have hMid : (clustersWidth (first ++ mid) : Int) = clustersWidth first + clustersWidth mid := by
    rw [clustersWidth_append, Int.natCast_add]
  have hLength : clamp stop 0 line.width - clamp start 0 line.width = clustersWidth mid := by
    omega
  have hRemains : (line.width : Int) - clamp stop 0 line.width = clustersWidth rest := by
    omega
  simp only [highlightColumns]
  rw [if_neg hSome, hLength, hRemains, hFrom, hTo]

/-- What is put together around two escape sequences shows its three parts. -/
theorem visible_highlighted {before middle : Text} (hBefore : esc ∉ before.visible)
    (hMiddle : esc ∉ middle.visible) (after : Text) :
    (before ++ inverse ++ middle ++ resetStyle ++ after).visible =
      before.visible ++ (middle.visible ++ after.visible) := by
  simp only [List.append_assoc]
  rw [visible_append hBefore, visible_escape_append escapeLength?_inverse, visible_append hMiddle,
    visible_escape_append escapeLength?_resetStyle]

/-- Highlighting from one boundary to another shows the clusters before, between and after them. -/
theorem visible_highlightColumns {line : Text} (hPlain : esc ∉ line.visible)
    (hWhole : line.Undivided) (hCells : ∀ cluster ∈ line.visible.clusters, 1 ≤ cluster.clusterWidth)
    {start stop : Int} (hStart : line.IsBoundary (clamp start 0 line.width))
    (hStop : line.IsBoundary (clamp stop 0 line.width)) :
    (highlightColumns line start stop line.width).visible = line.visible := by
  by_cases hEmpty : clamp stop 0 line.width ≤ clamp start 0 line.width
  · rw [highlightColumns_of_empty hEmpty]
  · obtain ⟨first, mid, rest, hClusters, hFrom, hTo⟩ :=
      hStart.exists_split hStop (Int.not_le.mp hEmpty)
    rw [hClusters] at hCells
    simp only [List.forall_mem_append] at hCells
    obtain ⟨hFirstCells, hBetweenCells, hRestCells⟩ := hCells
    -- the three cuts, each of them between two boundaries
    have hFirst : line.visible.clusters = [] ++ (first ++ (mid ++ rest)) := hClusters
    have hLast : line.visible.clusters = (first ++ mid) ++ (rest ++ []) := by
      rw [hClusters, List.append_nil, List.append_assoc]
    have hBefore : (line.cut 0 (clustersWidth first) true).visible = first.flatten :=
      visible_cut_between hPlain hWhole hFirst hFirstCells true
    have hMiddle : (line.cut (clustersWidth first) (clustersWidth mid) true).visible =
        mid.flatten :=
      visible_cut_between hPlain hWhole hClusters hBetweenCells true
    have hAfter : (line.cut (clustersWidth (first ++ mid)) (clustersWidth rest) true).visible =
        rest.flatten :=
      visible_cut_between hPlain hWhole hLast hRestCells true
    calc (highlightColumns line start stop line.width).visible
        = first.flatten ++ (mid.flatten ++ rest.flatten) := by
          rw [highlightColumns_of_split hClusters hFrom hTo hEmpty,
            visible_highlighted (esc_notMem_visible_cut hPlain _ _ _)
              (esc_notMem_visible_cut hPlain _ _ _), hBefore, hMiddle, hAfter]
      _ = line.visible := by
          rw [← List.flatten_append, ← List.flatten_append, ← hClusters, flatten_clusters]

/-- **Highlighting keeps the text.** Where no escape character is left in the visible text of a line,
no escape sequence divides one of its clusters, and each cluster takes a cell, highlighting from one
boundary to another changes neither the visible text nor the width, wherever the columns asked for
lie before they are moved into the line. Of any line at all, a range that is empty then leaves the
line as it is. -/
theorem highlight_keeps_text (line : Text) :
    (esc ∉ line.visible → line.Undivided →
      (∀ cluster ∈ line.visible.clusters, 1 ≤ cluster.clusterWidth) →
      ∀ start stop : Int, line.IsBoundary (clamp start 0 line.width) →
        line.IsBoundary (clamp stop 0 line.width) →
        (highlightColumns line start stop line.width).visible = line.visible ∧
          (highlightColumns line start stop line.width).width = line.width) ∧
      ∀ start stop : Int, clamp stop 0 line.width ≤ clamp start 0 line.width →
        highlightColumns line start stop line.width = line := by
  constructor
  · intro hPlain hWhole hCells start stop hStart hStop
    have hVisible := visible_highlightColumns hPlain hWhole hCells hStart hStop
    exact ⟨hVisible, width_eq_of_visible_eq hVisible⟩
  · intro start stop hEmpty
    exact highlightColumns_of_empty hEmpty

/-- In the styled link the tab is highlighted. The underline that is switched on before it and the end
of the link after it are kept on both sides of a cut. A range that ends before the line begins
highlights nothing. -/
theorem highlight_keeps_text_styledLink :
    (esc ∉ styledLink.visible ∧ styledLink.Undivided ∧
      (∀ cluster ∈ styledLink.visible.clusters, 1 ≤ cluster.clusterWidth) ∧
      styledLink.IsBoundary (clamp 2 0 styledLink.width) ∧
      styledLink.IsBoundary (clamp 5 0 styledLink.width) ∧
      clamp (-2) 0 styledLink.width ≤ clamp (-4) 0 styledLink.width) ∧
      (highlightColumns styledLink 2 5 styledLink.width).visible = styledLink.visible ∧
      highlightColumns styledLink (-4) (-2) styledLink.width = styledLink ∧
      highlightColumns styledLink 2 5 styledLink.width =
        ("\x1b]8;;a\x1b[1mb\x07好\x1b[4m" ++ "\x1b[7m" ++ "\x1b[4m\t\x1b]8;;\x1b\\\x1b[0m" ++
          "\x1b[0m" ++ "\x1b]8;;\x1b\\\x1b[0mc").toList := by
  have hPlain : esc ∉ styledLink.visible := by decide +kernel
  have hWhole : styledLink.Undivided := by decide +kernel
  have hCells : ∀ cluster ∈ styledLink.visible.clusters, 1 ≤ cluster.clusterWidth := by
    decide +kernel
  have hStart : styledLink.IsBoundary (clamp 2 0 styledLink.width) :=
    ⟨[['好']], by decide +kernel, by decide +kernel⟩
  have hStop : styledLink.IsBoundary (clamp 5 0 styledLink.width) :=
    ⟨[['好'], ['\t']], by decide +kernel, by decide +kernel⟩
  have hEmpty : clamp (-2) 0 styledLink.width ≤ clamp (-4) 0 styledLink.width := by decide +kernel
  exact ⟨⟨hPlain, hWhole, hCells, hStart, hStop, hEmpty⟩,
    ((highlight_keeps_text styledLink).1 hPlain hWhole hCells 2 5 hStart hStop).1,
    (highlight_keeps_text styledLink).2 (-4) (-2) hEmpty, by decide +kernel⟩

end ScrollPane
