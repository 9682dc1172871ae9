import ScrollPane.Proofs.Clusters
import ScrollPane.Proofs.Scanning
import ScrollPane.Text.Cut

/-!
# The columns of a line

A line is measured and cut in different ways. To measure it, its escape sequences are removed and
the text that is left is divided into clusters; a cut walks over the clusters of each run between
two escape sequences. Both come to the same columns where every escape sequence stands between two
clusters of the visible text. An escape sequence inside a cluster, such as between the two letters
of a flag, divides the cluster for the cut alone, and the columns differ.

## Main definitions

- `Text.columns`: the columns that a cut walks through;
- `Text.Seamless`: no escape sequence stands inside a cluster.

## Main statements

- `Text.clusters_visible_of_seamless`: the visible text has the clusters of the runs;
- `Text.width_eq_columns`: such a line is as wide as a cut finds it, and is cut where it was measured;
- `Text.width_ne_columns_flag`: a line that is not.
-/

namespace ScrollPane.Text

/-! ## Columns -/

/-- The clusters of a piece. -/
def Piece.clusters : Piece → List Text
  | .plain run => run.clusters
  | .escape _ => []

/-- The columns that a cut walks through: the cells of the clusters of each run of a line. -/
def columns (line : Text) : Nat := clustersWidth (line.pieces.flatMap Piece.clusters)

/-- The cluster that an item is, if it is one. -/
def Item.cluster? : Item → Option Text
  | .escape _ => none
  | .cluster chars => some chars

/-- The characters of an item. -/
def Item.chars : Item → Text
  | .escape code => code
  | .cluster chars => chars

theorem Piece.filterMap_cluster?_items (piece : Piece) :
    piece.items.filterMap Item.cluster? = piece.clusters := by
  cases piece with
  | escape code => rfl
  | plain run =>
    rw [items, List.filterMap_map]
    exact List.filterMap_some

/-- A cut meets the clusters of the runs of a line. -/
theorem filterMap_cluster?_items (line : Text) :
    line.items.filterMap Item.cluster? = line.pieces.flatMap Piece.clusters := by
  rw [items, List.filterMap_flatMap]
  exact congrArg (line.pieces.flatMap ·) (funext Piece.filterMap_cluster?_items)

/-! ## Escape sequences between clusters -/

/-- The visible text of some tokens. -/
def shown (tokens : List Token) : Text := tokens.filterMap Token.char?

/-- No escape sequence of the line stands inside a cluster of its visible text. -/
def Seamless (line : Text) : Prop :=
  ∀ i < line.tokens.length, line.tokens[i]?.bind Token.char? = none →
    IsSeam (shown (line.tokens.take i)) (shown (line.tokens.drop i))

instance (line : Text) : Decidable line.Seamless :=
  inferInstanceAs (Decidable (∀ _ < _, _ → _))

theorem Seamless.isSeam {line : Text} (h : line.Seamless) {before after : List Token} {code : Text}
    (hTokens : line.tokens = before ++ .escape code :: after) :
    IsSeam (shown before) (shown after) := by
  have hHere := h before.length
  rw [hTokens] at hHere
  have hSeam := hHere (by simp) (by simp [Token.char?])
  rwa [List.take_left', List.drop_left'] at hSeam <;> rfl

theorem shown_append (before after : List Token) :
    shown (before ++ after) = shown before ++ shown after :=
  List.filterMap_append

theorem shown_map_char (run : Text) : shown (run.map .char) = run := by
  rw [shown, List.filterMap_map]
  exact List.filterMap_some

theorem flatMap_clusters_map_char (run : Text) :
    (Piece.ofTokens (run.map .char)).flatMap Piece.clusters = run.clusters := by
  cases run with
  | nil => rfl
  | cons c run =>
    rw [Piece.ofTokens_char_cons]
    exact List.append_nil _

/-- Where every escape sequence of some tokens stands at a seam, the clusters of their visible text
are those of their runs. -/
theorem clusters_shown_of_isSeam (run : Text) (tokens : List Token)
    (h : ∀ before code after, run.map .char ++ tokens = before ++ .escape code :: after →
      IsSeam (shown before) (shown after)) :
    (run ++ shown tokens).clusters =
      (Piece.ofTokens (run.map .char ++ tokens)).flatMap Piece.clusters := by
  -- `run` is what has been read since the last escape sequence
  induction tokens generalizing run with
  | nil =>
    rw [List.append_nil, flatMap_clusters_map_char]
    exact congrArg clusters run.append_nil
  | cons token tokens ih =>
    cases token with
    | char c =>
      have hRun : run.map .char ++ .char c :: tokens = (run ++ [c]).map .char ++ tokens := by simp
      have hLonger := ih (run ++ [c]) (by rwa [← hRun])
      rw [hRun, ← hLonger, List.append_assoc]
      rfl
    | escape code =>
      have hSeam : IsSeam run (shown tokens) := by
        have hHere := h (run.map .char) code tokens rfl
        rwa [shown_map_char] at hHere
      -- from one escape sequence to the next the text is divided as if it stood alone
      have hLater : (shown tokens).clusters = (Piece.ofTokens tokens).flatMap Piece.clusters := by
        refine ih [] fun before code' after hTokens => ?_
        obtain rfl : tokens = before ++ .escape code' :: after := hTokens
        have hNext := h (run.map .char ++ .escape code :: before) code' after (by simp)
        have hShown : shown (run.map .char ++ .escape code :: before) = run ++ shown before := by
          rw [shown_append, shown_map_char]
          rfl
        have hRest : shown (before ++ .escape code' :: after) = shown before ++ shown after :=
          shown_append before _
        rw [hShown] at hNext
        rw [hRest] at hSeam
        exact hSeam.of_append hNext
      rw [Piece.ofTokens_append_escape, List.flatMap_append, flatMap_clusters_map_char,
        List.flatMap_cons, ← hLater]
      exact hSeam

/-- Where no escape sequence stands inside a cluster, a cut meets the clusters of the visible
text. -/
theorem clusters_visible_of_seamless {line : Text} (h : line.Seamless) :
    line.visible.clusters = line.pieces.flatMap Piece.clusters :=
  clusters_shown_of_isSeam [] line.tokens fun _ _ _ hTokens => h.isSeam hTokens

/-! ## Cutting at a measured column -/

/-- A range that starts at the beginning of a line and ends with one of its clusters keeps what comes
before that end, if each cluster takes up some cells. -/
theorem Range.exists_walk_eq {col : Int} (hCol : 0 ≤ col) (strict : Bool) {items : List Item}
    {first rest : List Text} (hClusters : items.filterMap Item.cluster? = first ++ rest)
    (hCells : ∀ cluster ∈ first, 0 < cluster.clusterWidth) :
    ∃ before after, items = before ++ after ∧ before.filterMap Item.cluster? = first ∧
      Range.walk ⟨0, col + clustersWidth first, strict⟩ col items = before.flatMap Item.chars := by
  induction items generalizing col first with
  | nil =>
    obtain ⟨rfl, -⟩ := List.append_eq_nil_iff.mp hClusters.symm
    exact ⟨[], [], rfl, rfl, rfl⟩
  | cons item items ih =>
    cases item with
    | escape code =>
      obtain ⟨before, after, rfl, hFirst, hWalk⟩ := ih hCol hClusters hCells
      refine ⟨.escape code :: before, after, rfl, hFirst, ?_⟩
      rw [Range.walk, if_pos hCol, hWalk]
      rfl
    | cluster chars =>
      cases first with
      | nil =>
        -- the range ends where this cluster begins
        refine ⟨[], .cluster chars :: items, rfl, rfl, ?_⟩
        rw [Range.walk, if_pos (by simp [clustersWidth])]
        rfl
      | cons cluster first =>
        obtain ⟨rfl, hMore⟩ := List.cons.inj hClusters
        obtain ⟨hPos, hCells⟩ := List.forall_mem_cons.mp hCells
        have hStop : col + clustersWidth (chars :: first) =
            col + chars.clusterWidth + clustersWidth first := by
          rw [clustersWidth, Int.natCast_add, Int.add_assoc]
        obtain ⟨before, after, rfl, hFirst, hWalk⟩ :=
          ih (by omega : 0 ≤ col + chars.clusterWidth) hMore hCells
        refine ⟨.cluster chars :: before, after, rfl, congrArg _ hFirst, ?_⟩
        -- the cluster lies inside the range, so it is kept whole
        have hKeep : Range.keep ⟨0, col + clustersWidth (chars :: first), strict⟩ col chars =
            chars := by
          rw [hStop, Range.keep, if_neg (by dsimp only; omega), if_neg]
          simp only [Bool.and_eq_true, Bool.or_eq_true, decide_eq_true_eq]
          omega
        rw [Range.walk, if_neg (by dsimp only; omega), hKeep, hStop, hWalk]
        rfl

/-- **Measuring and cutting share one notion of columns** where no escape sequence stands inside a
cluster: the line is as wide as a cut finds it. And if each of its clusters takes up some cells, a
cut that ends at the column measured up to some cluster keeps all up to there, and no cluster
beyond. -/
theorem width_eq_columns {line : Text} (h : line.Seamless) :
    line.width = line.columns ∧
      ((∀ cluster ∈ line.visible.clusters, 0 < cluster.clusterWidth) →
        ∀ first rest, line.visible.clusters = first ++ rest → ∀ strict,
          ∃ before after, line.items = before ++ after ∧ before.filterMap Item.cluster? = first ∧
            line.cut 0 (clustersWidth first) strict = before.flatMap Item.chars) := by
  have hClusters := clusters_visible_of_seamless h
  refine ⟨?_, fun hCells first rest hSplit strict => ?_⟩
  · rw [width_eq_clustersWidth, columns, hClusters]
  · rw [cut]
    split
    · next hEmpty =>
      -- clusters that take up cells take up no column only if there are none
      cases first with
      | nil => exact ⟨[], line.items, rfl, rfl, rfl⟩
      | cons cluster first =>
        have hPos := hCells cluster (hSplit ▸ List.mem_cons_self)
        rw [clustersWidth] at hEmpty
        omega
    · have hItems : line.items.filterMap Item.cluster? = first ++ rest := by
        rw [filterMap_cluster?_items, ← hClusters, hSplit]
      have hFirst : ∀ cluster ∈ first, 0 < cluster.clusterWidth := fun cluster hMem =>
        hCells cluster (hSplit ▸ List.mem_append_left rest hMem)
      exact Range.exists_walk_eq (Int.le_refl 0) strict hItems hFirst

/-- A letter with an accent, then a flag, each with escape sequences around it. -/
def styledFlag : Text := "\x1b[1me\u0301\x1b[0m\x1b[7m🇩🇪\x1b[0m".toList

/-- Two clusters of three columns in all. The first one is cut at the column it is measured to end
at, along with the escape sequences that follow. -/
theorem width_eq_columns_styledFlag :
    styledFlag.Seamless ∧ styledFlag.width = styledFlag.columns ∧ styledFlag.width = 3 ∧
      styledFlag.cut 0 1 true = "\x1b[1me\u0301\x1b[0m\x1b[7m".toList := by
  have hSeamless : styledFlag.Seamless := by decide +kernel
  exact ⟨hSeamless, (width_eq_columns hSeamless).1, by decide +kernel, by decide +kernel⟩

/-- A flag with an escape sequence between its two letters. -/
def splitFlag : Text := "🇩\x1b[0m🇪".toList

/-- The flag is measured as one cluster of two columns, and cut as two clusters of two columns each:
a cut at its width loses the second letter. -/
theorem width_ne_columns_flag :
    splitFlag.width = 2 ∧ splitFlag.columns = 4 ∧
      splitFlag.cut 0 splitFlag.width = "🇩\x1b[0m".toList := by
  decide +kernel

end ScrollPane.Text
