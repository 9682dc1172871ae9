import ScrollPane.Text.Escape

/-!
# The scan of a line

The scan takes each character of a line into one token and drops none, so its tokens, and likewise
the pieces made of them, join up to the line again. An escape sequence ends the piece before it, so
the pieces of a line are those of the part before the sequence and those of the part after it.

## Main statements

- `Text.flatMap_chars_tokens`: the tokens of a line join up to it;
- `Text.flatMap_chars_pieces`: so do its pieces;
- `Text.Piece.ofTokens_append_escape`: the pieces around an escape sequence.
-/

namespace ScrollPane.Text

/-! ## Escape sequences -/

/-- An escape sequence has at least the two characters that open it. -/
theorem two_le_escapeLength? {t : Text} {n : Nat} (h : escapeLength? t = some n) : 2 ≤ n := by
  unfold escapeLength? at h
  split at h
  · obtain ⟨m, -, rfl⟩ := Option.map_eq_some_iff.mp h
    exact Nat.le_add_left 2 m
  · obtain ⟨m, -, rfl⟩ := Option.map_eq_some_iff.mp h
    exact Nat.le_add_left 2 m
  · obtain ⟨m, -, rfl⟩ := Option.map_eq_some_iff.mp h
    exact Nat.le_add_left 2 m
  · cases h

/-- The look-up at a position inside a text is that of the text from there on. -/
theorem escapeAt?_of_le {t : Text} {pos : Nat} (hInside : pos ≤ t.length) :
    t.escapeAt? pos =
      (escapeLength? (t.drop pos)).map fun n => { code := (t.drop pos).take n, length := n } := by
  have hStart : min (pos : Int).toNat t.length = pos := by omega
  simp only [escapeAt?, hStart]
  congr 1
  funext n
  congr 1
  omega

/-! ## Tokens -/

/-- The characters of a token. -/
def Token.chars : Token → Text
  | .char c => [c]
  | .escape code => code

theorem flatMap_chars_tokensFrom (skip : Nat) (t : Text) :
    (tokensFrom skip t).flatMap Token.chars = t.drop skip := by
  induction t generalizing skip with
  | nil => cases skip <;> rfl
  | cons c rest ih =>
    cases skip with
    | succ skip => exact ih skip
    | zero =>
      simp only [tokensFrom]
      split
      · next n hLength =>
        -- what an escape takes beyond its first character is what the scan then skips
        obtain ⟨m, rfl⟩ : ∃ m, n = m + 1 :=
          Nat.exists_eq_add_of_le' (Nat.le_of_succ_le (two_le_escapeLength? hLength))
        rw [List.flatMap_cons, ih, Token.chars, Nat.add_sub_cancel, List.take_succ_cons,
          List.cons_append, List.take_append_drop, List.drop_zero]
      · rw [List.flatMap_cons, ih]
        rfl

/-- The tokens of a line join up to it. -/
theorem flatMap_chars_tokens (line : Text) : line.tokens.flatMap Token.chars = line :=
  flatMap_chars_tokensFrom 0 line

/-! ## Pieces -/

/-- The characters of a piece. -/
def Piece.chars : Piece → Text
  | .plain run => run
  | .escape code => code

theorem Piece.flatMap_chars_ofTokens (tokens : List Token) :
    (ofTokens tokens).flatMap Piece.chars = tokens.flatMap Token.chars := by
  induction tokens with
  | nil => rfl
  | cons token rest ih =>
    cases token with
    | escape code =>
      rw [ofTokens, List.flatMap_cons, ih]
      rfl
    | char c =>
      rw [List.flatMap_cons, ← ih]
      simp only [ofTokens]
      -- the character opens a run, or goes before the run that comes next
      split
      · next run more hNext =>
        rw [hNext]
        rfl
      · rfl

/-- An escape sequence divides the pieces before it from those after it. -/
theorem Piece.ofTokens_append_escape (before : List Token) (code : Text) (after : List Token) :
    ofTokens (before ++ .escape code :: after) = ofTokens before ++ .escape code :: ofTokens after := by
  induction before with
  | nil => rfl
  | cons token before ih =>
    rw [List.cons_append]
    cases token with
    | escape _ => rw [ofTokens, ih, ofTokens, List.cons_append]
    | char c =>
      simp only [ofTokens, ih]
      cases ofTokens before with
      | nil => rfl
      | cons piece more => cases piece <;> rfl

/-- Characters without an escape sequence among them are one piece. -/
theorem Piece.ofTokens_char_cons (c : Char) (run : Text) :
    ofTokens ((c :: run).map .char) = [.plain (c :: run)] := by
  induction run generalizing c with
  | nil => rfl
  | cons next run ih =>
    rw [List.map_cons, ofTokens, ih]

/-- The pieces of a line join up to it. -/
theorem flatMap_chars_pieces (line : Text) : line.pieces.flatMap Piece.chars = line :=
  (Piece.flatMap_chars_ofTokens line.tokens).trans line.flatMap_chars_tokens

end ScrollPane.Text
