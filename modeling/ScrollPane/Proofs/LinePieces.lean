import ScrollPane.Proofs.Rescanning
import Mathlib.Data.List.Chain

/-!
# The pieces of a line

The pieces of a line agree with the other ways to look for escape sequences in it. The runs between
the sequences are the visible text, and each run is as long as can be. The look-up at a position finds
a sequence where a piece begins that is one, and finds nothing at any character of a run, be it an
escape character that opens nothing or part of a command string that is never ended. At a character
in the middle of a sequence another one may begin, but that is not a place where the scan looks.

## Main definitions

- `Text.Piece.tokens`: the tokens that a piece is made of;
- `Text.Piece.run?`: the run of a piece that is no escape sequence.

## Main statements

- `Text.Piece.flatMap_tokens_pieces`: the tokens of a line, piece by piece;
- `Text.escapeAt?_escape_piece`, `Text.escapeAt?_plain_piece`: what is found in a piece;
- `Text.pieces_partition`: what the pieces of a line are.
-/

namespace ScrollPane.Text

namespace Piece

/-! ## The tokens of a piece -/

/-- The tokens of a piece. -/
def tokens : Piece → List Token
  | .plain run => run.map .char
  | .escape code => [.escape code]

/-- The run of characters of a piece that is no escape sequence. -/
def run? : Piece → Option Text
  | .plain run => some run
  | .escape _ => none

/-- The tokens of pieces have their characters. -/
theorem flatMap_chars_flatMap_tokens (pieces : List Piece) :
    (pieces.flatMap tokens).flatMap Token.chars = pieces.flatMap chars := by
  have hPiece : ∀ piece : Piece, piece.tokens.flatMap Token.chars = piece.chars := by
    intro piece
    cases piece with
    | plain run =>
      rw [tokens, List.flatMap_map]
      exact List.flatMap_singleton' run
    | escape code => exact List.append_nil code
  rw [List.flatMap_assoc]
  exact congrArg (pieces.flatMap ·) (funext hPiece)

theorem shown_flatMap_tokens (pieces : List Piece) :
    shown (pieces.flatMap tokens) = (pieces.filterMap run?).flatten := by
  induction pieces with
  | nil => rfl
  | cons piece pieces ih =>
    rw [List.flatMap_cons, shown_append, ih]
    cases piece with
    | plain run =>
      rw [tokens, shown_map_char]
      rfl
    | escape code => rfl

/-- Joining characters into runs keeps the tokens. -/
theorem flatMap_tokens_joined (line : List Token) : (ofTokens line).flatMap tokens = line := by
  induction line with
  | nil => rfl
  | cons token rest ih =>
    cases token with
    | escape code =>
      rw [ofTokens, List.flatMap_cons, ih]
      rfl
    | char c =>
      simp only [ofTokens]
      split
      · next run more hNext =>
        rw [hNext] at ih
        exact congrArg (Token.char c :: ·) ih
      · exact congrArg (Token.char c :: ·) ih

/-- The tokens of a line, piece by piece. -/
theorem flatMap_tokens_pieces (line : Text) : line.pieces.flatMap tokens = line.tokens :=
  flatMap_tokens_joined line.tokens

/-! ## Runs -/

/-- Of two pieces next to one another at least one is an escape sequence. -/
def Divided (p q : Piece) : Prop := p.run? = none ∨ q.run? = none

instance (p q : Piece) : Decidable (p.Divided q) := inferInstanceAs (Decidable (_ ∨ _))

/-- Runs are as long as can be. -/
theorem isChain_ofTokens (line : List Token) : (ofTokens line).IsChain Divided := by
  induction line with
  | nil => exact .nil
  | cons token rest ih =>
    cases token with
    | escape code =>
      rw [ofTokens, List.isChain_cons]
      exact ⟨fun _ _ => .inl rfl, ih⟩
    | char c =>
      simp only [ofTokens]
      split
      · next run more hNext =>
        -- the run has grown at its beginning, where no piece comes before it
        rw [hNext, List.isChain_cons] at ih
        rw [List.isChain_cons]
        refine ⟨fun next hNext => .inr ?_, ih.2⟩
        exact (ih.1 next hNext).resolve_left (Option.some_ne_none run)
      · next hOther =>
        rw [List.isChain_cons]
        refine ⟨fun next hNext => ?_, ih⟩
        cases next with
        | escape code => exact .inr rfl
        | plain run =>
          obtain ⟨more, hRest⟩ := List.head?_eq_some_iff.mp hNext
          exact absurd hRest (hOther run more)

/-- No run is empty. -/
theorem run_ne_nil {line : List Token} {run : Text} (h : .plain run ∈ ofTokens line) : run ≠ [] := by
  induction line generalizing run with
  | nil => cases h
  | cons token rest ih =>
    cases token with
    | escape code =>
      rw [ofTokens, List.mem_cons] at h
      rcases h with h | h
      · cases h
      · exact ih h
    | char c =>
      simp only [ofTokens] at h
      split at h
      · next first more hNext =>
        rcases List.mem_cons.mp h with h | h
        · obtain rfl := Piece.plain.inj h
          exact List.cons_ne_nil c first
        · refine ih ?_
          rw [hNext]
          exact List.mem_cons_of_mem _ h
      · rcases List.mem_cons.mp h with h | h
        · obtain rfl := Piece.plain.inj h
          exact List.cons_ne_nil c []
        · exact ih h

end Piece

/-! ## What is found at a token -/

section Tokens

variable {line : Text} {before after : List Token}

/-- The look-up where some tokens of a line end sees the characters of those after them. -/
theorem escapeAt?_tokens (hSplit : line.tokens = before ++ after) :
    line.escapeAt? (before.flatMap Token.chars).length =
      (escapeLength? (after.flatMap Token.chars)).map fun n =>
        { code := (after.flatMap Token.chars).take n, length := n } := by
  have hLine : before.flatMap Token.chars ++ after.flatMap Token.chars = line := by
    rw [← List.flatMap_append, ← hSplit, flatMap_chars_tokens]
  have hInside : (before.flatMap Token.chars).length ≤ line.length := by
    rw [← hLine, List.length_append]
    exact Nat.le_add_right _ _
  have hDrop : line.drop (before.flatMap Token.chars).length = after.flatMap Token.chars := by
    rw [← hLine, List.drop_left]
  rw [escapeAt?_of_le hInside, hDrop]

/-- The tokens from some place on are found again. -/
theorem scans_after (hSplit : line.tokens = before ++ after) : Scans after := by
  have hScans := scans_tokens line
  rw [hSplit] at hScans
  exact hScans.of_append

/-- Nothing is found at a character. -/
theorem escapeAt?_char_token {c : Char} (hSplit : line.tokens = before ++ .char c :: after) :
    line.escapeAt? (before.flatMap Token.chars).length = none := by
  have hNone : escapeLength? ((Token.char c :: after).flatMap Token.chars) = none :=
    (scans_after hSplit).1
  rw [escapeAt?_tokens hSplit, hNone]
  rfl

/-- An escape sequence is found where it begins. -/
theorem escapeAt?_escape_token {code : Text} (hSplit : line.tokens = before ++ .escape code :: after) :
    line.escapeAt? (before.flatMap Token.chars).length = some { code, length := code.length } := by
  have hFound : escapeLength? (code ++ after.flatMap Token.chars) = some code.length :=
    isLocal_escapeLength?.append (scans_after hSplit).1 _
  have hChars : (Token.escape code :: after).flatMap Token.chars =
      code ++ after.flatMap Token.chars := rfl
  rw [escapeAt?_tokens hSplit, hChars, hFound, Option.map_some, List.take_left]

end Tokens

/-! ## What is found in a piece -/

section Pieces

variable {line : Text} {before after : List Piece}

/-- The tokens of a line around those of a piece. -/
theorem tokens_eq_of_pieces {piece : Piece} (hSplit : line.pieces = before ++ piece :: after) :
    line.tokens = before.flatMap Piece.tokens ++ (piece.tokens ++ after.flatMap Piece.tokens) := by
  rw [← List.flatMap_cons, ← List.flatMap_append, ← hSplit, Piece.flatMap_tokens_pieces]

/-- A piece that is an escape sequence is found where it begins. -/
theorem escapeAt?_escape_piece {code : Text}
    (hSplit : line.pieces = before ++ .escape code :: after) :
    line.escapeAt? (before.flatMap Piece.chars).length = some { code, length := code.length } := by
  rw [← Piece.flatMap_chars_flatMap_tokens]
  exact escapeAt?_escape_token (tokens_eq_of_pieces hSplit)

/-- Nothing is found at any character of a run. -/
theorem escapeAt?_plain_piece {run : Text} (hSplit : line.pieces = before ++ .plain run :: after)
    {i : Nat} (hInside : i < run.length) :
    line.escapeAt? ((before.flatMap Piece.chars).length + i : Nat) = none := by
  obtain ⟨first, c, rest, rfl, rfl⟩ : ∃ first c rest, run = first ++ c :: rest ∧ first.length = i :=
    ⟨run.take i, run[i], run.drop (i + 1), by simp, by simp; omega⟩
  -- the characters of the run before that one are tokens before it
  have hTokens : line.tokens = (before ++ [Piece.plain first]).flatMap Piece.tokens ++
      .char c :: (rest.map .char ++ after.flatMap Piece.tokens) := by
    rw [tokens_eq_of_pieces hSplit]
    simp [Piece.tokens]
  have hNone := escapeAt?_char_token hTokens
  rw [Piece.flatMap_chars_flatMap_tokens] at hNone
  simpa [Piece.chars] using hNone

end Pieces

/-- **The pieces of a line.** They are a partition of the line: joined up they are the line, and the runs
among them are its visible text; none is empty, and no run stands next to another. Where a piece that
is an escape sequence begins, the look-up finds it, and it finds nothing at any character of a run. -/
theorem pieces_partition (line : Text) :
    line.pieces.flatMap Piece.chars = line ∧
      (line.pieces.filterMap Piece.run?).flatten = line.visible ∧
      (∀ piece ∈ line.pieces, piece.chars ≠ []) ∧
      line.pieces.IsChain Piece.Divided ∧
      (∀ before code after, line.pieces = before ++ .escape code :: after →
        line.escapeAt? (before.flatMap Piece.chars).length = some { code, length := code.length }) ∧
      ∀ before run after, line.pieces = before ++ .plain run :: after → ∀ i < run.length,
        line.escapeAt? ((before.flatMap Piece.chars).length + i : Nat) = none := by
  refine ⟨line.flatMap_chars_pieces, ?_, ?_, Piece.isChain_ofTokens _, ?_, ?_⟩
  · rw [← Piece.shown_flatMap_tokens, Piece.flatMap_tokens_pieces]
    rfl
  · intro piece hMem
    cases piece with
    | plain run => exact Piece.run_ne_nil hMem
    | escape code =>
      obtain ⟨before, after, hSplit⟩ := List.append_of_mem hMem
      have hComplete : escapeLength? code = some code.length :=
        (scans_after (tokens_eq_of_pieces hSplit)).1
      have hTwo := two_le_escapeLength? hComplete
      exact List.ne_nil_of_length_pos (Nat.lt_of_lt_of_le Nat.two_pos hTwo)
  · exact fun before code after hSplit => escapeAt?_escape_piece hSplit
  · exact fun before run after hSplit i hInside => escapeAt?_plain_piece hSplit hInside

/-- A command string with a style code in its body, then one that is never ended, and an escape
character at the end. The style code inside the second one is found, and its opening is not. -/
theorem pieces_partition_openLink :
    let line : Text := "\x1b_k\x1b[0m\x07b\x1b]8;a\x1b[31m\x1b".toList
    let image : Piece := .escape "\x1b_k\x1b[0m\x07".toList
    let run : Text := "b\x1b]8;a".toList
    let code : Text := "\x1b[31m".toList
    let last : Piece := .plain ['\x1b']
    (line.pieces = [image] ++ .plain run :: [.escape code, last] ∧ 1 < run.length ∧
        line.escapeAt? 9 = none) ∧
      line.pieces = [image, .plain run] ++ .escape code :: [last] ∧
      line.escapeAt? 14 = some { code, length := 5 } := by
  intro line image run code last
  obtain ⟨-, -, -, -, hEscape, hPlain⟩ := pieces_partition line
  have hRun : line.pieces = [image] ++ .plain run :: [.escape code, last] := by decide +kernel
  have hCode : line.pieces = [image, .plain run] ++ .escape code :: [last] := by decide +kernel
  have hInside : 1 < run.length := by decide +kernel
  exact ⟨⟨hRun, hInside, hPlain _ run _ hRun 1 hInside⟩, hCode, hEscape _ code _ hCode⟩

end ScrollPane.Text
