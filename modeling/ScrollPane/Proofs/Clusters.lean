import ScrollPane.Text.Width
import Mathlib.Algebra.Ring.Nat

/-!
# Clusters of texts

A text is divided into clusters from left to right, and nothing that comes later moves a boundary
that has been found. So the clusters of a text up to some boundary are clusters of their own. The
clusters from there on need not be: what follows a boundary may still depend on what was before it.
A place where neither side depends on the other is a *seam*.

## Main definitions

- `Text.IsSeam`: both sides of a place in a text are divided as if the other were not there.

## Main statements

- `Text.flatten_clusters`: the clusters of a text join up to it;
- `Text.clusters_flatten_of_append`: the first clusters of a text are divided alike on their own;
- `Text.IsSeam.of_append`: a seam stays one if the text is shortened to another seam before it;
- `Text.IsSeam.of_no_prepend`: where no prepended mark comes before, every boundary is a seam;
- `Text.width_eq_sum_clusterWidth`: counting printable ASCII agrees with measuring clusters;
- `Text.clustersWidth_append_spaces`: spaces at the end take no more than one cell each.
-/

namespace ScrollPane.Text

open Unicode (BreakClass)

/-! ## Joining clusters -/

theorem splitCluster_append_flatten (s : BreakState) (t : Text) :
    (splitCluster s t).1 ++ (splitCluster s t).2.flatten = t := by
  induction t generalizing s with
  | nil => rfl
  | cons c rest ih =>
    simp only [splitCluster]
    split
    · rw [List.flatten_cons, List.nil_append, List.cons_append, ih]
    · rw [List.cons_append, ih]

/-- The clusters of a text join up to it. -/
theorem flatten_clusters (t : Text) : t.clusters.flatten = t := by
  cases t with
  | nil => rfl
  | cons c rest => rw [clusters, List.flatten_cons, List.cons_append, splitCluster_append_flatten]

/-- What is split off first does not depend on what comes after it. -/
theorem splitCluster_of_append {s : BreakState} {t : Text} {first rest : List Text}
    (h : (splitCluster s t).2 = first ++ rest) :
    splitCluster s ((splitCluster s t).1 ++ first.flatten) = ((splitCluster s t).1, first) := by
  -- along the text; wherever the clusters kept end, so does the shortened text
  induction t generalizing s first with
  | nil =>
    obtain rfl : first = [] := (List.append_eq_nil_iff.mp h.symm).1
    rfl
  | cons c t ih =>
    cases hOpens : (s.step (BreakClass.ofChar c)).1 with
    | false =>
      simp only [splitCluster, hOpens, Bool.false_eq_true, if_false] at h ⊢
      simp only [List.cons_append, splitCluster, hOpens, Bool.false_eq_true, if_false, ih h]
    | true =>
      simp only [splitCluster, hOpens, if_true] at h ⊢
      cases first with
      | nil => rfl
      | cons cluster first =>
        obtain ⟨rfl, hLater⟩ := List.cons.inj h
        simp only [List.flatten_cons, List.nil_append, List.cons_append, splitCluster, hOpens,
          if_true, ih hLater]

/-- The first clusters of a text are divided alike on their own. -/
theorem clusters_flatten_of_append {t : Text} {first rest : List Text}
    (h : t.clusters = first ++ rest) : clusters first.flatten = first := by
  cases first with
  | nil => rfl
  | cons cluster first =>
    cases t with
    | nil => cases h
    | cons c t =>
      obtain ⟨rfl, hLater⟩ := List.cons.inj h
      rw [List.flatten_cons, List.cons_append, clusters, splitCluster_of_append hLater]

/-! ## Seams -/

/-- The two parts of a text are divided into clusters each as if it stood alone. -/
def IsSeam (before after : Text) : Prop :=
  (before ++ after).clusters = before.clusters ++ after.clusters

instance (before after : Text) : Decidable (IsSeam before after) :=
  inferInstanceAs (Decidable (_ = _))

/-- Between two seams the text is divided as if it stood alone, so the second is a seam also of the
text that begins at the first. -/
theorem IsSeam.of_append {start before after : Text} (hFirst : IsSeam start (before ++ after))
    (hSecond : IsSeam (start ++ before) after) : IsSeam before after := by
  unfold IsSeam at *
  rw [List.append_assoc, hFirst] at hSecond
  -- the clusters up to the first seam are the first of those up to the second
  rcases List.append_eq_append_iff.mp hSecond with ⟨between, hStart, hRest⟩ | ⟨between, hStart, hRest⟩
  · have hBetween : between.flatten = before := by
      have hJoined := congrArg List.flatten hStart
      rw [List.flatten_append, flatten_clusters, flatten_clusters] at hJoined
      exact (List.append_cancel_left hJoined).symm
    have hOwn : before.clusters = between := hBetween ▸ clusters_flatten_of_append hRest
    rw [hRest, hOwn]
  · -- the other way round there is nothing between the two
    have hJoined := congrArg List.flatten hStart
    rw [List.flatten_append, flatten_clusters, flatten_clusters, List.append_assoc] at hJoined
    have hNothing := List.self_eq_append_right.mp hJoined
    obtain rfl : before = [] := (List.append_eq_nil_iff.mp hNothing).1
    rfl

/-! ## Printable ASCII -/

theorem printableAscii_table : ∀ n < 0x7F, 0x20 ≤ n →
    BreakClass.ofChar (Char.ofNat n) = .other ∧ clusterWidth [Char.ofNat n] = 1 := by
  decide +kernel

/-- A printable ASCII character joins no other, and takes one cell. -/
theorem ofChar_of_isPrintableAscii {c : Char} (h : isPrintableAscii c = true) :
    BreakClass.ofChar c = .other ∧ clusterWidth [c] = 1 := by
  simp only [isPrintableAscii, Bool.and_eq_true, decide_eq_true_eq] at h
  have hTable := printableAscii_table c.toNat (Nat.lt_succ_of_le h.2) h.1
  rwa [Char.ofNat_toNat] at hTable

theorem splitCluster_of_isPrintableAscii {t : Text} (h : t.all isPrintableAscii = true) :
    splitCluster .base t = ([], t.map ([·])) := by
  induction t with
  | nil => rfl
  | cons c rest ih =>
    rw [List.all_cons, Bool.and_eq_true] at h
    obtain ⟨hClass, -⟩ := ofChar_of_isPrintableAscii h.1
    have hStep : BreakState.step .base .other = (true, .base) := rfl
    simp only [splitCluster, hClass, hStep, if_true, ih h.2, List.map_cons]

/-- Each character of a printable ASCII text is a cluster of its own. -/
theorem clusters_of_isPrintableAscii {t : Text} (h : t.all isPrintableAscii = true) :
    t.clusters = t.map ([·]) := by
  cases t with
  | nil => rfl
  | cons c rest =>
    rw [List.all_cons, Bool.and_eq_true] at h
    obtain ⟨hClass, -⟩ := ofChar_of_isPrintableAscii h.1
    have hStart : BreakState.start .other = .base := rfl
    rw [clusters, hClass, hStart, splitCluster_of_isPrintableAscii h.2]
    rfl

theorem clustersWidth_of_isPrintableAscii {t : Text} (h : t.all isPrintableAscii = true) :
    clustersWidth t.clusters = t.length := by
  rw [clusters_of_isPrintableAscii h]
  induction t with
  | nil => rfl
  | cons c rest ih =>
    rw [List.all_cons, Bool.and_eq_true] at h
    obtain ⟨-, hCells⟩ := ofChar_of_isPrintableAscii h.1
    rw [List.map_cons, clustersWidth, hCells, ih h.2, List.length_cons, Nat.add_comm]

/-- A line is as wide as the clusters of its visible text, whether or not they are looked for. -/
theorem width_eq_clustersWidth (line : Text) :
    line.width = clustersWidth line.visible.clusters := by
  simp only [width]
  split
  · next hPrintable => exact (clustersWidth_of_isPrintableAscii hPrintable).symm
  · rfl

theorem clustersWidth_eq_sum (clusters : List Text) :
    clustersWidth clusters = (clusters.map clusterWidth).sum := by
  induction clusters with
  | nil => rfl
  | cons cluster more ih => rw [clustersWidth, ih, List.map_cons, List.sum_cons]

/-- **Counting agrees with measuring.** The width of any line is the sum of the cells that the clusters
of its visible text take. Where that text is printable ASCII, or empty, and its characters are just
counted, each of them is a cluster of its own and takes one cell. -/
theorem width_eq_sum_clusterWidth (line : Text) :
    line.width = (line.visible.clusters.map clusterWidth).sum ∧
      (line.visible.all isPrintableAscii = true →
        line.width = line.visible.length ∧ line.visible.clusters = line.visible.map ([·]) ∧
          ∀ cluster ∈ line.visible.clusters, clusterWidth cluster = 1) := by
  refine ⟨(width_eq_clustersWidth line).trans (clustersWidth_eq_sum _), fun hPrintable => ?_⟩
  have hClusters := clusters_of_isPrintableAscii hPrintable
  refine ⟨if_pos hPrintable, hClusters, ?_⟩
  rw [hClusters]
  refine List.forall_mem_map.mpr fun c hMem => ?_
  exact (ofChar_of_isPrintableAscii (List.all_eq_true.mp hPrintable c hMem)).2

/-- Two words between a link and its end, and a style code that shows nothing. -/
theorem width_eq_sum_clusterWidth_styled :
    let line : Text := "\x1b]8;;a\x07to do\x1b]8;;\x1b\\~".toList
    let blank : Text := "\x1b[0m".toList
    (line.visible.all isPrintableAscii = true ∧ blank.visible.all isPrintableAscii = true) ∧
      line.width = (line.visible.clusters.map clusterWidth).sum ∧
      line.width = line.visible.length ∧ line.width = 6 ∧ blank.width = blank.visible.length := by
  intro line blank
  have hLine : line.visible.all isPrintableAscii = true := by decide +kernel
  have hBlank : blank.visible.all isPrintableAscii = true := by decide +kernel
  obtain ⟨hSum, hCounted⟩ := width_eq_sum_clusterWidth line
  exact ⟨⟨hLine, hBlank⟩, hSum, (hCounted hLine).1, by decide +kernel,
    ((width_eq_sum_clusterWidth blank).2 hBlank).1⟩

/-- The width of a line is that of its visible text. -/
theorem width_eq_of_visible_eq {line other : Text} (h : line.visible = other.visible) :
    line.width = other.width := by
  rw [width_eq_clustersWidth, width_eq_clustersWidth, h]

/-! ## After a prepended mark

Where a boundary is found, what comes next is read as if the text began there. The one exception are
the controls after a prepended mark, which marks may join as if they were letters. -/

theorem eq_prepend_of_start {k : BreakClass} (h : BreakState.start k = .afterPrepend) :
    k = .prepend := by
  cases k with
  | prepend => rfl
  | _ => cases h

theorem eq_prepend_of_step {s : BreakState} {k : BreakClass} (h : (s.step k).2 = .afterPrepend) :
    k = .prepend := by
  cases k with
  | prepend => rfl
  | _ => cases s <;> cases h

theorem step_of_boundary {s : BreakState} {k : BreakClass} (hMark : s ≠ .afterPrepend)
    (hBoundary : (s.step k).1 = true) : (s.step k).2 = .start k := by
  cases s with
  | afterPrepend => exact absurd rfl hMark
  | _ => cases k <;> first | rfl | cases hBoundary

theorem clusters_flatten_of_splitCluster {s : BreakState} {t : Text} {first rest : List Text}
    (hMark : s ≠ .afterPrepend) (h : (splitCluster s t).2 = first ++ rest)
    (hMarks : ∀ c ∈ (splitCluster s t).1 ++ first.flatten, BreakClass.ofChar c ≠ .prepend) :
    clusters rest.flatten = rest := by
  -- along the text, as long as the first clusters last
  induction t generalizing s first with
  | nil =>
    obtain rfl : rest = [] := (List.append_eq_nil_iff.mp h.symm).2
    rfl
  | cons c t ih =>
    have hNext : BreakClass.ofChar c ≠ .prepend → (s.step (BreakClass.ofChar c)).2 ≠ .afterPrepend :=
      fun hClass hState => hClass (eq_prepend_of_step hState)
    cases hOpens : (s.step (BreakClass.ofChar c)).1 with
    | false =>
      simp only [splitCluster, hOpens, Bool.false_eq_true, if_false, List.cons_append,
        List.forall_mem_cons] at h hMarks
      exact ih (hNext hMarks.1) h hMarks.2
    | true =>
      simp only [splitCluster, hOpens, if_true, List.nil_append] at h hMarks
      cases first with
      | nil =>
        -- the rest begins here, in the state in which a text begins
        obtain rfl := h
        rw [List.flatten_cons, List.cons_append, splitCluster_append_flatten, clusters,
          step_of_boundary hMark hOpens]
      | cons cluster first =>
        obtain ⟨rfl, hLater⟩ := List.cons.inj h
        rw [List.flatten_cons, List.cons_append, List.forall_mem_cons] at hMarks
        exact ih (hNext hMarks.1) hLater hMarks.2

/-- The last clusters of a text are divided alike on their own, if there is no prepended mark before
them. -/
theorem clusters_flatten_of_no_prepend {t : Text} {first rest : List Text}
    (h : t.clusters = first ++ rest)
    (hMarks : ∀ c ∈ first.flatten, BreakClass.ofChar c ≠ .prepend) :
    clusters rest.flatten = rest := by
  cases first with
  | nil =>
    have hWhole : rest.flatten = t := by
      rw [← flatten_clusters t, h]
      rfl
    rw [hWhole, h]
    rfl
  | cons cluster first =>
    cases t with
    | nil => cases h
    | cons c t =>
      obtain ⟨rfl, hLater⟩ := List.cons.inj h
      rw [List.flatten_cons, List.cons_append, List.forall_mem_cons] at hMarks
      obtain ⟨hClass, hMarks⟩ := hMarks
      exact clusters_flatten_of_splitCluster (fun hState => hClass (eq_prepend_of_start hState))
        hLater hMarks

/-- Where no prepended mark comes before, every boundary is a seam. -/
theorem IsSeam.of_no_prepend {t : Text} {first rest : List Text} (h : t.clusters = first ++ rest)
    (hMarks : ∀ c ∈ first.flatten, BreakClass.ofChar c ≠ .prepend) :
    IsSeam first.flatten rest.flatten := by
  unfold IsSeam
  rw [clusters_flatten_of_append h, clusters_flatten_of_no_prepend h hMarks, ← h,
    ← List.flatten_append, ← h, flatten_clusters]

/-! ## Spaces at the end

A space is a cluster of its own, except after a prepended mark. That mark makes no emoji sequence, so
its cluster grows no wider by the space than the space would be alone. -/

/-- A space holds on to a prepended mark before it, and to nothing else. -/
theorem step_other (s : BreakState) : s.step .other = (decide (s ≠ .afterPrepend), .base) := by
  cases s <;> rfl

theorem contains_prependTable {c : Char} (h : BreakClass.ofChar c = .prepend) :
    BreakClass.prependTable.contains c.toNat = true := by
  unfold BreakClass.ofChar at h
  split at h
  · unfold BreakClass.ofSyllable at h
    split at h <;> cases h
  · split at h
    · next entry hFind =>
      have hOnly : ∀ entry ∈ BreakClass.tables,
          entry.1 = .prepend → entry.2 = BreakClass.prependTable := by
        simp [BreakClass.tables]
      have hContains := List.find?_some hFind
      rwa [hOnly entry (List.mem_of_find?_eq_some hFind) h] at hContains
    · cases h

/-- A prepended mark makes no emoji sequence. -/
theorem not_emoji_of_prepend {c : Char} (h : BreakClass.ofChar c = .prepend) :
    isEmojiPart c = false ∧ isPictograph c = false := by
  have hRanges : ∀ r ∈ BreakClass.prependTable,
      r.2 < 0x200D ∨ 0xFE0F < r.1 ∧ r.2 < 0x1F000 := by decide
  have hAscending : BreakClass.prependTable.Ascending := by decide
  obtain ⟨r, hMem, hFrom, hTo⟩ := hAscending.contains_iff.mp (contains_prependTable h)
  have hOutside := hRanges r hMem
  simp only [isEmojiPart, isPictograph, Bool.or_eq_false_iff, Bool.and_eq_false_iff,
    beq_eq_false_iff_ne, decide_eq_false_iff_not]
  omega

/-- A space that joins a prepended mark makes its cluster at most one cell wider. -/
theorem clusterWidth_concat_space {cluster : Text} {c : Char} (hLast : cluster.getLast? = some c)
    (hPrepend : BreakClass.ofChar c = .prepend) :
    clusterWidth (cluster ++ [' ']) ≤ clusterWidth cluster + 1 := by
  have hSpace : isEmojiPart ' ' = false := by decide
  match cluster with
  | [] => cases hLast
  | [first] =>
    obtain rfl : first = c := Option.some.inj hLast
    obtain ⟨hPart, hPictograph⟩ := not_emoji_of_prepend hPrepend
    have hTab : first ≠ '\t' := by
      rintro rfl
      exact absurd hPrepend (by decide)
    have hAlone : clusterWidth [first] = Unicode.cells first := if_neg hTab
    have hNoEmoji : ([first, ' '].any isEmojiPart || isPictograph first) = false := by
      simp [hPart, hSpace, hPictograph]
    have hTwo : clusterWidth [first, ' '] =
        if Unicode.isFormat first then 0 else Unicode.cells first := by
      simp only [clusterWidth, hNoEmoji, Bool.false_eq_true, if_false]
    rw [hAlone, List.singleton_append, hTwo]
    split <;> omega
  | first :: second :: more =>
    -- a cluster of several characters is as wide as its first one makes it
    have hAny : (first :: second :: (more ++ [' '])).any isEmojiPart =
        (first :: second :: more).any isEmojiPart := by
      simp [hSpace]
    simp only [clusterWidth, List.cons_append, hAny]
    omega

/-- A space at the end of what goes on with a cluster that has begun with `opened`. -/
theorem clustersWidth_splitCluster_concat_space (s : BreakState) (opened t : Text)
    (hPrepend : s = .afterPrepend →
      ∃ c, opened.getLast? = some c ∧ BreakClass.ofChar c = .prepend) :
    let before := splitCluster s t
    let after := splitCluster s (t ++ [' '])
    clustersWidth ((opened ++ after.1) :: after.2) ≤
      clustersWidth ((opened ++ before.1) :: before.2) + 1 := by
  induction t generalizing s opened with
  | nil =>
    have hClass : BreakClass.ofChar ' ' = .other := by decide
    have hCells : clusterWidth [' '] = 1 := by decide
    by_cases hJoins : s = .afterPrepend
    · obtain ⟨c, hLast, hMark⟩ := hPrepend hJoins
      have hWider := clusterWidth_concat_space hLast hMark
      simp [splitCluster, hClass, step_other, hJoins, clustersWidth, hWider]
    · simp [splitCluster, hClass, step_other, hJoins, clustersWidth, hCells]
  | cons c t ih =>
    simp only [List.cons_append, splitCluster]
    split
    · -- another cluster begins with this character
      have hNext := ih (s.step (BreakClass.ofChar c)).2 [c] fun h => ⟨c, rfl, eq_prepend_of_step h⟩
      simp only [clustersWidth, List.singleton_append, List.append_nil] at hNext ⊢
      omega
    · have hSame := ih (s.step (BreakClass.ofChar c)).2 (opened ++ [c]) fun h =>
        ⟨c, by simp, eq_prepend_of_step h⟩
      simpa only [List.append_assoc, List.singleton_append] using hSame

theorem clustersWidth_concat_space (t : Text) :
    clustersWidth (clusters (t ++ [' '])) ≤ clustersWidth t.clusters + 1 := by
  cases t with
  | nil => decide
  | cons c t =>
    exact clustersWidth_splitCluster_concat_space _ [c] t fun h => ⟨c, rfl, eq_prepend_of_start h⟩

/-- The cells of some clusters and of those after them add up. -/
theorem clustersWidth_append (clusters more : List Text) :
    clustersWidth (clusters ++ more) = clustersWidth clusters + clustersWidth more := by
  induction clusters with
  | nil => exact (Nat.zero_add _).symm
  | cons cluster rest ih =>
    rw [List.cons_append, clustersWidth, clustersWidth, ih, Nat.add_assoc]

/-- Spaces that are clusters of their own take one cell each. -/
theorem clustersWidth_append_blanks (clusters : List Text) (n : Nat) :
    clustersWidth (clusters ++ List.replicate n [' ']) = clustersWidth clusters + n := by
  have hCell : clusterWidth [' '] = 1 := by decide
  have hBlanks : clustersWidth (List.replicate n [' ']) = n := by
    induction n with
    | zero => rfl
    | succ n ih => rw [List.replicate_succ, clustersWidth, hCell, ih, Nat.add_comm]
  rw [clustersWidth_append, hBlanks]

/-- Spaces at the end of a text take at most one cell each. -/
theorem clustersWidth_append_spaces (t : Text) (n : Nat) :
    clustersWidth (clusters (t ++ spaces n)) ≤ clustersWidth t.clusters + n := by
  induction n with
  | zero =>
    rw [spaces, List.replicate_zero, List.append_nil]
    exact Nat.le_refl _
  | succ n ih =>
    have hMore := clustersWidth_concat_space (t ++ spaces n)
    rw [spaces, List.replicate_succ', ← List.append_assoc]
    exact Nat.le_trans hMore (Nat.succ_le_succ ih)

end ScrollPane.Text
