import ScrollPane.Proofs.StyledCuts
import Mathlib.Data.List.Infix

/-!
# Clipping printable lines

Where the visible text of a line is printable ASCII, each of its characters takes one column, and
escape sequences may stand anywhere between them. To clip such a line is to stop reading its tokens
before the first character that is one too many: no escape sequence before that one is lost, not even
those directly behind the last character kept, and none after it comes along. So the clipped line is
scanned as a beginning of the tokens that it is made of, and clipping it once more is to stop reading
earlier.

## Main definitions

- `Text.Printable`: lines whose visible text is printable ASCII;
- `Text.upTo`: the tokens up to a number of characters, and the escape sequences that follow.

## Main statements

- `Text.escape_prefix_upTo_iff`: which escape sequences are among these tokens;
- `Text.Printable.clip_eq_upTo`: a printable line is clipped to them;
- `Text.clip_printable`: what is seen of a clipped line, clipping twice, and the escape sequences kept.
-/

namespace ScrollPane.Text

/-! ## Tokens up to a number of characters -/

/-- The tokens up to `n` characters. The escape sequences directly behind the last of these are
included. -/
def upTo : Nat → List Token → List Token
  | _, [] => []
  | n, .escape code :: rest => .escape code :: upTo n rest
  | 0, .char _ :: _ => []
  | n + 1, .char c :: rest => .char c :: upTo n rest

theorem shown_upTo (n : Nat) (ts : List Token) : shown (upTo n ts) = (shown ts).take n := by
  induction ts generalizing n with
  | nil =>
    rw [upTo]
    exact List.take_nil.symm
  | cons token ts ih =>
    cases token with
    | escape code => exact ih n
    | char c =>
      cases n with
      | zero => rfl
      | succ n => exact congrArg (c :: ·) (ih n)

theorem upTo_isPrefix (n : Nat) (ts : List Token) : upTo n ts <+: ts := by
  induction ts generalizing n with
  | nil => rw [upTo]
  | cons token ts ih =>
    cases token with
    | escape code => exact (List.prefix_cons_inj _).mpr (ih n)
    | char c =>
      cases n with
      | zero => exact List.nil_prefix
      | succ n => exact (List.prefix_cons_inj _).mpr (ih n)

/-- All tokens are there if they have no more characters than that. -/
theorem upTo_of_length_le {n : Nat} {ts : List Token} (h : (shown ts).length ≤ n) :
    upTo n ts = ts := by
  induction ts generalizing n with
  | nil => rw [upTo]
  | cons token ts ih =>
    cases token with
    | escape code => exact congrArg (Token.escape code :: ·) (ih h)
    | char c =>
      have hMore : (shown ts).length + 1 ≤ n := h
      obtain ⟨m, rfl⟩ : ∃ m, n = m + 1 :=
        Nat.exists_eq_add_of_le' (Nat.le_trans (Nat.le_add_left 1 _) hMore)
      exact congrArg (Token.char c :: ·) (ih (Nat.le_of_succ_le_succ hMore))

/-- To stop twice is to stop where one stops first. -/
theorem upTo_upTo (n m : Nat) (ts : List Token) : upTo n (upTo m ts) = upTo (min m n) ts := by
  induction ts generalizing n m with
  | nil => rw [upTo, upTo, upTo]
  | cons token ts ih =>
    cases token with
    | escape code => exact congrArg (Token.escape code :: ·) (ih n m)
    | char c =>
      cases m with
      | zero => rw [Nat.zero_min, upTo, upTo]
      | succ m =>
        cases n with
        | zero => rw [Nat.min_zero, upTo, upTo, upTo]
        | succ n =>
          rw [Nat.succ_min_succ]
          exact congrArg (Token.char c :: ·) (ih n m)

/-- An escape sequence is among the tokens up to a number of characters just if no more characters
than that come before it. -/
theorem escape_prefix_upTo_iff (before after : List Token) (code : Text) (n : Nat) :
    before ++ [.escape code] <+: upTo n (before ++ .escape code :: after) ↔
      (shown before).length ≤ n := by
  induction before generalizing n with
  | nil =>
    refine iff_of_true ?_ (Nat.zero_le n)
    exact (List.prefix_cons_inj _).mpr List.nil_prefix
  | cons token before ih =>
    cases token with
    | escape _ => exact (List.prefix_cons_inj _).trans (ih n)
    | char c =>
      cases n with
      | zero => exact iff_of_false (by simp [upTo]) (Nat.not_succ_le_zero _)
      | succ n => exact ((List.prefix_cons_inj _).trans (ih n)).trans Nat.succ_le_succ_iff.symm

/-! ## Printable lines -/

/-- The visible text of the line is printable ASCII. -/
def Printable (line : Text) : Prop := line.visible.all isPrintableAscii = true

instance (line : Text) : Decidable line.Printable :=
  inferInstanceAs (Decidable (_ = true))

/-- The item that a token is on its own. -/
def Token.item : Token → Item
  | .char c => .cluster [c]
  | .escape code => .escape code

/-- Items whose clusters are single characters are those of their tokens. -/
theorem map_item_flatMap_tokens {items : List Item}
    (h : ∀ chars ∈ items.filterMap Item.cluster?, ∃ c, chars = [c]) :
    (items.flatMap Item.tokens).map Token.item = items := by
  induction items with
  | nil => rfl
  | cons item items ih =>
    rw [List.flatMap_cons, List.map_append]
    cases item with
    | escape code => exact congrArg (Item.escape code :: ·) (ih h)
    | cluster chars =>
      obtain ⟨⟨c, rfl⟩, hMore⟩ := List.forall_mem_cons.mp h
      exact congrArg (Item.cluster [c] :: ·) (ih hMore)

namespace Printable

variable {line : Text}

/-- The escape character is not printable. -/
theorem esc_notMem_visible (h : line.Printable) : esc ∉ line.visible := by
  intro hMem
  have hEsc := List.all_eq_true.mp h esc hMem
  exact absurd hEsc (by decide)

/-- Printable characters never join, so no escape sequence stands inside a cluster. -/
theorem seamless (h : line.Printable) : line.Seamless := by
  intro i _ _
  have hParts : (shown (line.tokens.take i) ++ shown (line.tokens.drop i)).all isPrintableAscii := by
    rw [← shown_append, List.take_append_drop]
    exact h
  have hBoth := hParts
  rw [List.all_append, Bool.and_eq_true] at hBoth
  rw [IsSeam, clusters_of_isPrintableAscii hParts, clusters_of_isPrintableAscii hBoth.1,
    clusters_of_isPrintableAscii hBoth.2, List.map_append]

/-- A printable line consists of its tokens. -/
theorem items_eq_map_item (h : line.Printable) : line.items = line.tokens.map Token.item := by
  have hSingle : ∀ chars ∈ line.items.filterMap Item.cluster?, ∃ c, chars = [c] := by
    rw [filterMap_cluster?_items, ← clusters_visible_of_seamless h.seamless,
      clusters_of_isPrintableAscii h]
    exact List.forall_mem_map.mpr fun c _ => ⟨c, rfl⟩
  have hItems := map_item_flatMap_tokens hSingle
  rw [flatMap_tokens_items] at hItems
  exact hItems.symm

theorem width_eq_length (h : line.Printable) : line.width = line.visible.length := if_pos h

end Printable

/-! ## Clipping -/

/-- From some column on, a range takes of printable characters as many as there are columns left, with
the escape sequences before and directly behind them. -/
theorem Range.walk_map_item {col n : Nat} (strict : Bool) {ts : List Token}
    (h : (shown ts).all isPrintableAscii = true) :
    Range.walk ⟨0, (col + n : Nat), strict⟩ col (ts.map Token.item) =
      (upTo n ts).flatMap Token.chars := by
  induction ts generalizing col n with
  | nil => rw [upTo]; rfl
  | cons token ts ih =>
    cases token with
    | escape code =>
      rw [List.map_cons, Token.item, walk, if_pos (Int.natCast_nonneg col), ih h]
      rfl
    | char c =>
      have hBoth : isPrintableAscii c = true ∧ (shown ts).all isPrintableAscii = true :=
        (Bool.and_eq_true _ _).mp h
      obtain ⟨-, hCell⟩ := ofChar_of_isPrintableAscii hBoth.1
      -- each character is one column, so the columns left count the characters still to come
      rw [List.map_cons, Token.item, walk, hCell]
      cases n with
      | zero => exact if_pos (Int.le_refl _)
      | succ n =>
        -- a character of one cell is kept as it is
        have hKeep : Range.keep ⟨0, (col + (n + 1) : Nat), strict⟩ col [c] = [c] := by
          rw [keep, hCell, if_neg (by dsimp only; omega)]
          exact if_neg (by simp)
        have hNext : (col + (n + 1) : Nat) = col + 1 + n := by omega
        rw [if_neg (by dsimp only; omega), hKeep, hNext]
        exact congrArg (c :: ·) (ih hBoth.2)

namespace Printable

variable {line : Text}

/-- A printable line is clipped to the tokens up to as many characters as there are columns. -/
theorem clip_eq_upTo (h : line.Printable) {limit : Int} (hLimit : 0 < limit) :
    line.clip limit = (upTo limit.toNat line.tokens).flatMap Token.chars := by
  rw [clip, if_neg (Int.not_le.mpr hLimit)]
  split
  · next hFits =>
    -- all characters fit, so nothing is left out
    have hLength : (shown line.tokens).length ≤ limit.toNat := by
      rw [h.width_eq_length] at hFits
      exact Int.ofNat_le.mp (Int.le_trans hFits (Int.self_le_toNat limit))
    rw [upTo_of_length_le hLength, flatMap_chars_tokens]
  · have hRange : (0 + limit : Int) = (0 + limit.toNat : Nat) := by omega
    rw [cut, if_neg (Int.not_le.mpr hLimit), hRange, h.items_eq_map_item]
    exact Range.walk_map_item true h

/-- It is scanned again as these tokens. -/
theorem tokens_clip (h : line.Printable) {limit : Int} (hLimit : 0 < limit) :
    (line.clip limit).tokens = upTo limit.toNat line.tokens := by
  have hStands : ∀ token ∈ upTo limit.toNat line.tokens, token.Stands := fun token hToken =>
    stands_tokens h.esc_notMem_visible token ((upTo_isPrefix _ _).subset hToken)
  rw [h.clip_eq_upTo hLimit, tokens_flatMap_chars (scans_of_stands hStands)]

theorem visible_clip (h : line.Printable) (limit : Int) :
    (line.clip limit).visible = line.visible.take limit.toNat := by
  by_cases hLimit : 0 < limit
  · rw [visible, h.tokens_clip hLimit]
    exact shown_upTo limit.toNat line.tokens
  · have hNone : line.clip limit = [] := if_pos (Int.not_lt.mp hLimit)
    rw [hNone, Int.toNat_of_nonpos (Int.not_lt.mp hLimit), List.take_zero]
    rfl

theorem clip (h : line.Printable) (limit : Int) : (line.clip limit).Printable := by
  have hTake : ∀ c ∈ line.visible.take limit.toNat, isPrintableAscii c = true := fun c hMem =>
    List.all_eq_true.mp h c (List.mem_of_mem_take hMem)
  rw [Printable, h.visible_clip, List.all_eq_true]
  exact hTake

/-- Clipping twice is clipping to the smaller of the two widths. -/
theorem clip_clip (h : line.Printable) (first second : Int) :
    (line.clip first).clip second = line.clip (min first second) := by
  by_cases hFirst : 0 < first
  · by_cases hSecond : 0 < second
    · have hMin : (min first second).toNat = min first.toNat second.toNat := by omega
      rw [(h.clip first).clip_eq_upTo hSecond, h.tokens_clip hFirst, upTo_upTo,
        h.clip_eq_upTo (Int.lt_min.mpr ⟨hFirst, hSecond⟩), hMin]
    · -- nothing is left in the end
      have hMin : min first second ≤ 0 := by omega
      rw [Text.clip, if_pos (Int.not_lt.mp hSecond), Text.clip, if_pos hMin]
  · have hNothing : line.clip first = [] := if_pos (Int.not_lt.mp hFirst)
    have hMin : line.clip (min first second) = [] := if_pos (by omega)
    rw [hNothing, hMin, Text.clip]
    split
    · rfl
    · next hSecond => exact if_pos (Int.le_of_lt (Int.not_le.mp hSecond))

/-- A clipped line is a beginning of the line. -/
theorem clip_isPrefix (h : line.Printable) {limit : Int} (hLimit : 0 < limit) :
    line.clip limit <+: line := by
  have hPrefix := (upTo_isPrefix limit.toNat line.tokens).flatMap Token.chars
  rwa [← h.clip_eq_upTo hLimit, flatMap_chars_tokens] at hPrefix

/-- It has an escape sequence of the line in it just if at most as many characters come before as
there are columns. -/
theorem escape_prefix_clip_iff (h : line.Printable) {limit : Int} (hLimit : 0 < limit)
    {before after : List Token} {code : Text}
    (hTokens : line.tokens = before ++ .escape code :: after) :
    (before ++ [Token.escape code]).flatMap Token.chars <+: line.clip limit ↔
      (shown before).length ≤ limit := by
  have hCount : (shown before).length ≤ limit.toNat ↔ (shown before).length ≤ limit := by omega
  rw [← hCount, ← escape_prefix_upTo_iff before after code, ← hTokens]
  constructor
  · -- what comes before is scanned alike in the clipped line, which begins with it
    rintro ⟨rest, hClip⟩
    have hStands : ∀ token ∈ before ++ [Token.escape code], token.Stands := by
      intro token hToken
      refine stands_tokens h.esc_notMem_visible token ?_
      rw [hTokens, List.append_cons]
      exact List.mem_append_left after hToken
    have hOwn := tokens_flatMap_chars (scans_of_stands hStands)
    have hPlain : esc ∉ visible ((before ++ [Token.escape code]).flatMap Token.chars) := by
      rw [visible, hOwn]
      exact esc_notMem_shown hStands
    refine ⟨tokens rest, ?_⟩
    rw [← h.tokens_clip hLimit, ← hClip, tokens_append hPlain, hOwn]
  · intro hPrefix
    rw [h.clip_eq_upTo hLimit]
    exact hPrefix.flatMap Token.chars

end Printable

/-- **Clipping of printable lines.** What is seen of a clipped line are the first characters of what is
seen of the line, as many as there are columns. Clipping twice is clipping once, to the smaller of the
two widths, escape sequences included. And a line clipped to some columns is a beginning of the line
that has in it every escape sequence before the cut or directly at it, and none beyond. -/
theorem clip_printable {line : Text} (h : line.Printable) :
    (∀ limit : Int, (line.clip limit).visible = line.visible.take (max 0 limit).toNat) ∧
      (∀ first second : Int, (line.clip first).clip second = line.clip (min first second)) ∧
      ∀ limit : Int, 0 < limit →
        line.clip limit <+: line ∧
          ∀ before code after, line.tokens = before ++ .escape code :: after →
            ((before ++ [Token.escape code]).flatMap Token.chars <+: line.clip limit ↔
              (shown before).length ≤ limit) := by
  refine ⟨fun limit => ?_, h.clip_clip, fun limit hLimit => ⟨h.clip_isPrefix hLimit, ?_⟩⟩
  · have hCount : (max 0 limit).toNat = limit.toNat := by omega
    rw [hCount, h.visible_clip]
  · intro before code after hTokens
    exact h.escape_prefix_clip_iff hLimit hTokens

/-- Two letters with a link around the first, and four escape sequences between them. -/
def linkedLetters : Text := "\x1b[1m\x1b]8;;a\x07x\x1b]8;;\x07\x1b[0m\x1b[4m\x1b_b\x1b\\y\x1b[0m".toList

/-- Clipped to one column it keeps all of these, and loses the one at its end. -/
theorem clip_printable_linkedLetters :
    linkedLetters.Printable ∧ (0 : Int) < 1 ∧
      (linkedLetters.clip 1).visible = linkedLetters.visible.take (max 0 1 : Int).toNat ∧
      (linkedLetters.clip 2).clip 1 = linkedLetters.clip (min 2 1) ∧
      linkedLetters.clip 1 <+: linkedLetters ∧
      linkedLetters.clip 1 = "\x1b[1m\x1b]8;;a\x07x\x1b]8;;\x07\x1b[0m\x1b[4m\x1b_b\x1b\\".toList := by
  have hPrintable : linkedLetters.Printable := by decide +kernel
  obtain ⟨hVisible, hTwice, hPrefix⟩ := clip_printable hPrintable
  exact ⟨hPrintable, by decide, hVisible 1, hTwice 2 1, (hPrefix 1 (by decide)).1, by decide +kernel⟩

end ScrollPane.Text
