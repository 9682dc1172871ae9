import ScrollPane.Proofs.KeptItems
import ScrollPane.Proofs.Rescanning

/-!
# Cutting styled lines

Styling is transparent to a cut: what a cut shows of a styled line is what it shows of the visible
text alone. On the way the line is taken apart and put together again, and two things can go wrong
with that. An escape sequence inside a cluster divides it for the cut, and an escape character in the
visible text may open a sequence with what comes to stand after it. Without these, the tokens of a
line stand on their own: they are found again in whatever order they are put together, whatever has
been dropped between them.

## Main definitions

- `Text.Undivided`: no escape sequence divides a cluster;
- `Text.Token.Stands`: tokens that are found again wherever they stand.

## Main statements

- `Text.visible_append`: the visible text of two lines, one after the other;
- `Text.Range.filter_keptFrom`: of the clusters a range keeps the same, with and without escape
  sequences between them;
- `Text.visible_cut`: cutting a line and removing its escape sequences commute.
-/

namespace ScrollPane.Text

/-! ## Tokens that stand on their own -/

/-- The token is found again wherever it stands: it is a whole escape sequence, or a character that
does not open one. -/
def Token.Stands : Token → Prop
  | .char c => c ≠ esc
  | .escape code => escapeLength? code = some code.length

/-- Only an escape character opens an escape sequence. -/
theorem escapeLength?_cons_of_ne {c : Char} (h : c ≠ esc) (t : Text) :
    escapeLength? (c :: t) = none := by
  unfold escapeLength?
  split
  · next hOpens => exact absurd (List.cons.inj hOpens).1 h
  · next hOpens => exact absurd (List.cons.inj hOpens).1 h
  · next hOpens => exact absurd (List.cons.inj hOpens).1 h
  · rfl

/-- Tokens that stand on their own are found again before any others that are. -/
theorem Scans.append_of_stands {first rest : List Token} (hFirst : ∀ token ∈ first, token.Stands)
    (hRest : Scans rest) : Scans (first ++ rest) := by
  induction first with
  | nil => exact hRest
  | cons token first ih =>
    obtain ⟨hToken, hMore⟩ := List.forall_mem_cons.mp hFirst
    cases token with
    | char c => exact ⟨escapeLength?_cons_of_ne hToken _, ih hMore⟩
    | escape code => exact ⟨hToken, ih hMore⟩

theorem scans_of_stands {ts : List Token} (h : ∀ token ∈ ts, token.Stands) : Scans ts := by
  have hWhole : Scans (ts ++ []) := Scans.append_of_stands h trivial
  rwa [List.append_nil] at hWhole

/-- Tokens that are found again stand on their own, if none of their characters could open an escape
sequence. -/
theorem Scans.stands {ts : List Token} (h : Scans ts) (hPlain : esc ∉ shown ts) :
    ∀ token ∈ ts, token.Stands := by
  induction ts with
  | nil => exact fun _ hMem => absurd hMem List.not_mem_nil
  | cons token ts ih =>
    refine List.forall_mem_cons.mpr ?_
    cases token with
    | char c =>
      have hShown : esc ∉ c :: shown ts := hPlain
      obtain ⟨hFirst, hMore⟩ := not_or.mp (mt List.mem_cons.mpr hShown)
      exact ⟨Ne.symm hFirst, ih h.2 hMore⟩
    | escape code => exact ⟨h.1, ih h.2 hPlain⟩

/-- Of tokens that stand on their own, no character could open an escape sequence. -/
theorem esc_notMem_shown {ts : List Token} (h : ∀ token ∈ ts, token.Stands) : esc ∉ shown ts := by
  intro hMem
  obtain ⟨token, hToken, hChar⟩ := List.mem_filterMap.mp hMem
  have hStands := h token hToken
  cases token with
  | char c => exact hStands (Option.some.inj hChar)
  | escape code => cases hChar

/-- The tokens of a line whose visible text has no escape character in it. -/
theorem stands_tokens {line : Text} (h : esc ∉ line.visible) : ∀ token ∈ line.tokens, token.Stands :=
  (scans_tokens line).stands h

/-- Nothing that comes after such a line changes how it is scanned. -/
theorem tokens_append {line : Text} (h : esc ∉ line.visible) (more : Text) :
    (line ++ more).tokens = line.tokens ++ more.tokens := by
  have hScans : Scans (line.tokens ++ more.tokens) :=
    Scans.append_of_stands (stands_tokens h) (scans_tokens more)
  calc (line ++ more).tokens
      = tokens ((line.tokens ++ more.tokens).flatMap Token.chars) := by
        rw [List.flatMap_append, flatMap_chars_tokens, flatMap_chars_tokens]
    _ = line.tokens ++ more.tokens := tokens_flatMap_chars hScans

/-- The visible text of a line, and then another one. -/
theorem visible_append {line : Text} (h : esc ∉ line.visible) (more : Text) :
    (line ++ more).visible = line.visible ++ more.visible := by
  rw [visible, tokens_append h, List.filterMap_append]
  rfl

/-! ## The items of plain text -/

/-- The item is a cluster. -/
def Item.isCluster (item : Item) : Bool := item.cluster?.isSome

theorem filter_isCluster (items : List Item) :
    items.filter Item.isCluster = (items.filterMap Item.cluster?).map .cluster := by
  induction items with
  | nil => rfl
  | cons item items ih =>
    cases item with
    | escape code => exact ih
    | cluster chars => exact congrArg (Item.cluster chars :: ·) ih

theorem itemsWidth_filter_isCluster (items : List Item) :
    itemsWidth (items.filter Item.isCluster) = itemsWidth items := by
  induction items with
  | nil => rfl
  | cons item items ih =>
    rw [itemsWidth, ← ih]
    cases item with
    | escape code => exact (Nat.zero_add _).symm
    | cluster chars => rfl

theorem flatMap_chars_filter_isCluster (items : List Item) :
    (items.filter Item.isCluster).flatMap Item.chars = (items.filterMap Item.cluster?).flatten := by
  rw [filter_isCluster, List.flatMap_map]
  exact List.flatMap_id

/-- Text without an escape character in it consists of its clusters. -/
theorem items_of_plain {t : Text} (h : esc ∉ t) : t.items = t.clusters.map .cluster := by
  have hTokens : t.tokens = t.map .char := by
    have hStands : ∀ token ∈ t.map Token.char, token.Stands := by
      refine List.forall_mem_map.mpr fun c hMem hEsc => ?_
      exact h (hEsc ▸ hMem)
    have hChars : (t.map Token.char).flatMap Token.chars = t := by
      rw [List.flatMap_map]
      exact List.flatMap_singleton' t
    have hFound := tokens_flatMap_chars (scans_of_stands hStands)
    rwa [hChars] at hFound
  cases t with
  | nil => rfl
  | cons c t =>
    rw [items, pieces, hTokens, Piece.ofTokens_char_cons]
    exact List.append_nil _

/-! ## Lines whose clusters are whole -/

/-- No escape sequence divides a cluster of the visible text: its clusters are those of the runs. -/
def Undivided (line : Text) : Prop :=
  line.visible.clusters = line.pieces.flatMap Piece.clusters

instance (line : Text) : Decidable line.Undivided :=
  inferInstanceAs (Decidable (_ = _))

/-- The items of the visible text are the clusters among those of the line. -/
theorem Undivided.items_visible {line : Text} (h : line.Undivided) (hPlain : esc ∉ line.visible) :
    line.visible.items = line.items.filter Item.isCluster := by
  rw [items_of_plain hPlain, filter_isCluster, filterMap_cluster?_items, h]

/-! ## What a range keeps of the clusters -/

namespace Range

/-- A range keeps an item as it is, or blanks in its place. -/
theorem eq_or_eq_of_mem_shows {r : Range} {p : Placed} {item : Item} (h : item ∈ r.shows p) :
    item = p.item ∨ item = .cluster [' '] := by
  obtain ⟨before, whole⟩ := p
  cases whole with
  | escape code =>
    rw [shows_escape] at h
    split at h
    · exact .inl (List.mem_singleton.mp h)
    · cases h
  | cluster chars =>
    rw [shows_cluster] at h
    split at h
    · split at h
      · exact .inr (List.eq_of_mem_replicate h)
      · exact .inl (List.mem_singleton.mp h)
    · cases h

/-- What a range keeps of a cluster depends on the clusters before it alone, and consists of
clusters. -/
theorem filter_shows (r : Range) (before : List Item) (item : Item) :
    (r.shows ⟨before, item⟩).filter Item.isCluster =
      r.keptFrom (before.filter Item.isCluster) ([item].filter Item.isCluster) := by
  cases item with
  | escape code =>
    rw [shows_escape, apply_ite (List.filter Item.isCluster)]
    exact ite_self []
  | cluster chars =>
    have hKept : r.keptFrom (before.filter Item.isCluster) [.cluster chars] =
        r.shows ⟨before.filter Item.isCluster, .cluster chars⟩ := List.append_nil _
    show _ = r.keptFrom (before.filter Item.isCluster) [.cluster chars]
    rw [hKept, shows_cluster, shows_cluster, itemsWidth_filter_isCluster]
    -- the cluster is left out, replaced by blanks or kept whole
    split
    · split
      · exact List.filter_replicate_of_pos rfl
      · rfl
    · rfl

/-- Of the clusters a range keeps the same, with and without escape sequences between them. -/
theorem filter_keptFrom (r : Range) (before items : List Item) :
    (r.keptFrom before items).filter Item.isCluster =
      r.keptFrom (before.filter Item.isCluster) (items.filter Item.isCluster) := by
  induction items generalizing before with
  | nil => rfl
  | cons item items ih =>
    have hBefore : (before ++ [item]).filter Item.isCluster =
        before.filter Item.isCluster ++ [item].filter Item.isCluster := List.filter_append _ _
    have hItems : (item :: items).filter Item.isCluster =
        [item].filter Item.isCluster ++ items.filter Item.isCluster := List.filter_append [item] _
    rw [keptFrom_cons, List.filter_append, filter_shows, ih, hBefore, hItems, keptFrom_append]

theorem item_mem_of_mem_placedFrom {before items : List Item} {p : Placed}
    (h : p ∈ placedFrom before items) : p.item ∈ items := by
  induction items generalizing before with
  | nil => cases h
  | cons item items ih =>
    rcases List.mem_cons.mp h with rfl | hLater
    · exact List.mem_cons_self
    · exact List.mem_cons_of_mem item (ih hLater)

/-- What a range keeps stands on its own, if the line does. -/
theorem stands_kept (r : Range) {line : Text} (h : ∀ token ∈ line.tokens, token.Stands) :
    ∀ token ∈ (r.kept line).flatMap Item.tokens, token.Stands := by
  intro token hToken
  obtain ⟨item, hItem, hToken⟩ := List.mem_flatMap.mp hToken
  obtain ⟨p, hPlaced, hShown⟩ := List.mem_flatMap.mp hItem
  rcases eq_or_eq_of_mem_shows hShown with rfl | rfl
  · refine h token ?_
    rw [← flatMap_tokens_items]
    exact List.mem_flatMap.mpr ⟨p.item, item_mem_of_mem_placedFrom hPlaced, hToken⟩
  · obtain rfl : token = .char ' ' := List.mem_singleton.mp hToken
    have hSpace : ' ' ≠ esc := by decide
    exact hSpace

end Range

/-! ## Cuts of styled lines -/

/-- What is cut out of a line shows the clusters that its range keeps. -/
theorem visible_flatMap_kept (r : Range) {line : Text} (h : esc ∉ line.visible) :
    visible ((r.kept line).flatMap Item.chars) = ((r.kept line).filterMap Item.cluster?).flatten :=
  visible_flatMap_items (scans_of_stands (r.stands_kept (stands_tokens h)))

/-- A cut of no columns is empty. -/
theorem cut_of_nonpos (line : Text) (start : Int) {length : Int} (hLength : length ≤ 0)
    (strict : Bool) : line.cut start length strict = [] :=
  if_pos hLength

/-- No escape character comes to be visible by a cut. -/
theorem esc_notMem_visible_cut {line : Text} (h : esc ∉ line.visible) (start length : Int)
    (strict : Bool) : esc ∉ (line.cut start length strict).visible := by
  by_cases hLength : 0 < length
  · let r : Range := ⟨start, start + length, strict⟩
    have hStands := r.stands_kept (stands_tokens h)
    rw [cut_eq_flatMap_kept line start hLength, ← flatMap_chars_flatMap_tokens,
      visible_flatMap_chars (scans_of_stands hStands)]
    exact esc_notMem_shown hStands
  · rw [cut_of_nonpos line start (Int.not_lt.mp hLength)]
    exact List.not_mem_nil

/-- A cut of some columns shows what its range keeps of the visible text. -/
theorem visible_cut_of_pos {line : Text} (hPlain : esc ∉ line.visible) (hWhole : line.Undivided)
    (start : Int) {length : Int} (hLength : 0 < length) (strict : Bool) :
    (line.cut start length strict).visible =
      (Range.kept ⟨start, start + length, strict⟩ line.visible).flatMap Item.chars := by
  let r : Range := ⟨start, start + length, strict⟩
  have hKept : r.kept line.visible = (r.kept line).filter Item.isCluster := by
    show r.keptFrom [] line.visible.items = (r.keptFrom [] line.items).filter Item.isCluster
    rw [hWhole.items_visible hPlain, Range.filter_keptFrom]
    rfl
  calc (line.cut start length strict).visible
      = ((r.kept line).filterMap Item.cluster?).flatten := by
        rw [cut_eq_flatMap_kept line start hLength, visible_flatMap_kept r hPlain]
    _ = (r.kept line.visible).flatMap Item.chars := by
        rw [hKept, flatMap_chars_filter_isCluster]

/-- **Styling is transparent to a cut.** Where no escape character is left in the visible text of a
line, and no escape sequence divides one of its clusters, a cut of the line shows what the same cut
makes of the visible text, whatever columns it asks for, strict or not. -/
theorem visible_cut {line : Text} (hPlain : esc ∉ line.visible) (hWhole : line.Undivided)
    (start length : Int) (strict : Bool) :
    (line.cut start length strict).visible = line.visible.cut start length strict := by
  by_cases hLength : 0 < length
  · rw [visible_cut_of_pos hPlain hWhole start hLength,
      cut_eq_flatMap_kept line.visible start hLength]
  · -- without columns both cuts are empty
    have hEmpty := Int.not_lt.mp hLength
    rw [cut_of_nonpos line start hEmpty, cut_of_nonpos line.visible start hEmpty]
    rfl

/-- A link whose address holds an escape sequence, then a wide character, a tab and a letter, with
styles between them. -/
def styledLink : Text := "\x1b]8;;a\x1b[1mb\x07好\x1b[4m\t\x1b]8;;\x1b\\\x1b[0mc".toList

/-- The cut begins inside the wide character and ends inside the tab. -/
theorem visible_cut_styledLink :
    esc ∉ styledLink.visible ∧ styledLink.Undivided ∧
      (styledLink.cut 1 3 true).visible = styledLink.visible.cut 1 3 true ∧
      styledLink.visible = "好\tc".toList ∧
      styledLink.cut 1 3 true = " \x1b[4m  \x1b]8;;\x1b\\\x1b[0m".toList := by
  have hPlain : esc ∉ styledLink.visible := by decide +kernel
  have hWhole : styledLink.Undivided := by decide +kernel
  exact ⟨hPlain, hWhole, visible_cut hPlain hWhole 1 3 true, by decide +kernel, by decide +kernel⟩

end ScrollPane.Text
