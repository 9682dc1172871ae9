import ScrollPane.Proofs.Columns

/-!
# Scanning a line again

A line that is put together from tokens of another one is scanned again from its characters, and may
come apart into other tokens. An escape sequence is complete whatever comes after it, so it is found
again. A character outside the escape sequences is one because of all that comes after it, such as a
command string that is never ended: it stays outside if the line is shortened, or if some of it
gives way to blanks.

## Main definitions

- `Text.IsLocal`: lengths that are found by the characters they count;
- `Text.Scans`: tokens that a scan finds again in their characters;
- `Text.Item.tokens`: the tokens of an item.

## Main statements

- `Text.isLocal_escapeLength?`: an escape sequence is complete whatever comes after it;
- `Text.tokens_flatMap_chars`: the scan of such tokens;
- `Text.visible_flatMap_items`: the visible text of items whose tokens are found again;
- `Text.Scans.append_filter`, `Text.Scans.append_blanks`: tokens that are left out or give way to
  blanks.
-/

namespace ScrollPane.Text

/-! ## Complete escape sequences -/

/-- A length of the head of a text that is found by the characters of that head alone. -/
def IsLocal (length? : Text → Option Nat) : Prop :=
  ∀ {t : Text} {n : Nat}, length? t = some n →
    0 < n ∧ n ≤ t.length ∧ ∀ u, length? (t.take n ++ u) = some n

theorem IsLocal.append {length? : Text → Option Nat} (hLocal : IsLocal length?) {t : Text} {n : Nat}
    (h : length? t = some n) (u : Text) : length? (t ++ u) = some n := by
  obtain ⟨-, -, hOwn⟩ := hLocal h
  have hMore := hOwn (t.drop n ++ u)
  rwa [← List.append_assoc, List.take_append_drop] at hMore

/-- There is nothing at the head of a text if there is nothing once more text has come after it. -/
theorem IsLocal.eq_none_of_append {length? : Text → Option Nat} (hLocal : IsLocal length?)
    {t u : Text} (h : length? (t ++ u) = none) : length? t = none := by
  cases hLength : length? t with
  | none => rfl
  | some n =>
    rw [hLocal.append hLength] at h
    cases h

theorem isLocal_controlLength? : IsLocal controlLength? := by
  intro t n h
  induction t generalizing n with
  | nil => cases h
  | cons c rest ih =>
    rw [controlLength?] at h
    split at h
    · next hParameter =>
      obtain ⟨m, hRest, rfl⟩ := Option.map_eq_some_iff.mp h
      obtain ⟨-, hLength, hOwn⟩ := ih hRest
      refine ⟨Nat.succ_pos m, Nat.succ_le_succ hLength, fun u => ?_⟩
      rw [List.take_succ_cons, List.cons_append, controlLength?, if_pos hParameter, hOwn]
      rfl
    · next hParameter =>
      split at h
      · next hFinal =>
        obtain rfl := Option.some.inj h
        refine ⟨Nat.one_pos, Nat.succ_le_succ (Nat.zero_le _), fun u => ?_⟩
        rw [List.take_succ_cons, List.cons_append, controlLength?, if_neg hParameter, if_pos hFinal]
      · cases h

theorem commandLength?_cons (c : Char) (t : Text) :
    commandLength? (c :: t) =
      if c = '\x07' then some 1
      else if c = '\x1b' ∧ t.head? = some '\\' then some 2
      else (commandLength? t).map (· + 1) := by
  by_cases hBell : c = '\x07'
  · subst hBell
    rfl
  · by_cases hEscape : c = '\x1b' ∧ t.head? = some '\\'
    · obtain ⟨rfl, hNext⟩ := hEscape
      obtain ⟨rest, rfl⟩ := List.head?_eq_some_iff.mp hNext
      rfl
    · rw [if_neg hBell, if_neg hEscape, commandLength?]
      · exact hBell
      · rintro rest rfl rfl
        exact hEscape ⟨rfl, rfl⟩

theorem isLocal_commandLength? : IsLocal commandLength? := by
  intro t n h
  induction t generalizing n with
  | nil => cases h
  | cons c rest ih =>
    rw [commandLength?_cons] at h
    split at h
    · next hBell =>
      obtain rfl := Option.some.inj h
      refine ⟨Nat.one_pos, Nat.succ_le_succ (Nat.zero_le _), fun u => ?_⟩
      rw [List.take_succ_cons, List.cons_append, commandLength?_cons, if_pos hBell]
    · next hBell =>
      split at h
      · next hEscape =>
        obtain rfl := Option.some.inj h
        obtain ⟨rfl, hNext⟩ := hEscape
        obtain ⟨more, rfl⟩ := List.head?_eq_some_iff.mp hNext
        exact ⟨Nat.two_pos, Nat.succ_le_succ (Nat.succ_le_succ (Nat.zero_le _)), fun u => rfl⟩
      · next hEscape =>
        obtain ⟨m, hRest, rfl⟩ := Option.map_eq_some_iff.mp h
        obtain ⟨hPos, hLength, hOwn⟩ := ih hRest
        refine ⟨Nat.succ_pos m, Nat.succ_le_succ hLength, fun u => ?_⟩
        -- the character after the first one is among those taken
        have hHead : (rest.take m ++ u).head? = rest.head? := by
          rw [List.head?_append, List.head?_take, if_neg (Nat.ne_of_gt hPos)]
          cases rest with
          | nil => exact absurd (Nat.lt_of_lt_of_le hPos hLength) (Nat.lt_irrefl 0)
          | cons next more => rfl
        rw [List.take_succ_cons, List.cons_append, commandLength?_cons, if_neg hBell, hHead,
          if_neg hEscape, hOwn]
        rfl

/-- Two characters may open what is found locally. -/
theorem IsLocal.opened {length? : Text → Option Nat} (hLocal : IsLocal length?) {rest : Text}
    {n : Nat} (h : (length? rest).map (· + 2) = some n) :
    0 < n ∧ n ≤ rest.length + 2 ∧
      ∃ m, n = m + 2 ∧ ∀ u, (length? (rest.take m ++ u)).map (· + 2) = some n := by
  obtain ⟨m, hRest, rfl⟩ := Option.map_eq_some_iff.mp h
  obtain ⟨-, hLength, hOwn⟩ := hLocal hRest
  exact ⟨Nat.succ_pos _, Nat.add_le_add_right hLength 2, m, rfl,
    fun u => congrArg (Option.map (· + 2)) (hOwn u)⟩

/-- An escape sequence is complete whatever comes after it. -/
theorem isLocal_escapeLength? : IsLocal escapeLength? := by
  intro t n h
  unfold escapeLength? at h
  split at h
  · obtain ⟨hPos, hLength, m, rfl, hOwn⟩ := isLocal_controlLength?.opened h
    exact ⟨hPos, hLength, hOwn⟩
  · obtain ⟨hPos, hLength, m, rfl, hOwn⟩ := isLocal_commandLength?.opened h
    exact ⟨hPos, hLength, hOwn⟩
  · obtain ⟨hPos, hLength, m, rfl, hOwn⟩ := isLocal_commandLength?.opened h
    exact ⟨hPos, hLength, hOwn⟩
  · cases h

/-! ## Blanks in the place of characters -/

theorem commandLength?_cons_eq_none {c : Char} {t : Text} :
    commandLength? (c :: t) = none ↔
      c ≠ '\x07' ∧ ¬(c = '\x1b' ∧ t.head? = some '\\') ∧ commandLength? t = none := by
  rw [commandLength?_cons]
  split
  · simp_all
  · split <;> simp_all

/-- There is no terminator in a part of a text that has none. -/
theorem commandLength?_eq_none_of_append {a b : Text} (h : commandLength? (a ++ b) = none) :
    commandLength? b = none := by
  induction a with
  | nil => exact h
  | cons c a ih =>
    obtain ⟨-, -, hRest⟩ := commandLength?_cons_eq_none.mp h
    exact ih hRest

/-- A blank is no part of a terminator, so none is joined across it. -/
theorem commandLength?_blank {a b : Text} (hFirst : commandLength? a = none)
    (hSecond : commandLength? b = none) : commandLength? (a ++ ' ' :: b) = none := by
  induction a with
  | nil =>
    refine commandLength?_cons_eq_none.mpr ⟨by decide, ?_, hSecond⟩
    rintro ⟨hFirst, -⟩
    exact absurd hFirst (by decide)
  | cons c a ih =>
    obtain ⟨hBell, hEscape, hRest⟩ := commandLength?_cons_eq_none.mp hFirst
    refine commandLength?_cons_eq_none.mpr ⟨hBell, ?_, ih hRest⟩
    -- an escape character at the end of `a` has the blank after it
    rintro ⟨rfl, hNext⟩
    cases a with
    | nil => cases hNext
    | cons next more => exact hEscape ⟨rfl, hNext⟩

/-- A blank ends the parameters of a control sequence without completing it. -/
theorem controlLength?_blank {a : Text} (h : controlLength? a = none) (b : Text) :
    controlLength? (a ++ ' ' :: b) = none := by
  induction a with
  | nil => rfl
  | cons c a ih =>
    rw [controlLength?] at h
    rw [List.cons_append, controlLength?]
    split at h
    · next hParameter => rw [if_pos hParameter, ih (Option.map_eq_none_iff.mp h)]; rfl
    · next hParameter =>
      rw [if_neg hParameter]
      split at h
      · cases h
      · next hFinal => exact if_neg hFinal

theorem escapeLength?_cons_cons_eq_none {c d : Char} {t : Text} :
    escapeLength? (c :: d :: t) = none ↔
      (c = '\x1b' → (d = '[' → controlLength? t = none) ∧
        (d = ']' ∨ d = '_' → commandLength? t = none)) := by
  unfold escapeLength?
  split <;> simp_all

theorem escapeLength?_blank {u gone b : Text} (h : escapeLength? (u ++ (gone ++ b)) = none) :
    escapeLength? (u ++ ' ' :: b) = none := by
  -- what opens a sequence is not the blank, so it lies in `u` as a whole
  match u with
  | [] => rfl
  | [c] => exact escapeLength?_cons_cons_eq_none.mpr fun _ => by simp
  | c :: d :: u =>
    have hLonger := escapeLength?_cons_cons_eq_none.mp h
    refine escapeLength?_cons_cons_eq_none.mpr fun hFirst => ⟨fun hSecond => ?_, fun hSecond => ?_⟩
    · -- parameters that have not been completed before the blank are not completed at all
      have hControl := (hLonger hFirst).1 hSecond
      exact controlLength?_blank (isLocal_controlLength?.eq_none_of_append hControl) b
    · -- a command string has its terminator on one side of the blank, but neither side has one
      have hCommand := (hLonger hFirst).2 hSecond
      exact commandLength?_blank (isLocal_commandLength?.eq_none_of_append hCommand)
        (commandLength?_eq_none_of_append (commandLength?_eq_none_of_append hCommand))

/-- Where no escape sequence begins, none does after some of what follows has given way to
blanks. -/
theorem escapeLength?_blanks {u gone b : Text} {n : Nat} (hGone : n = 0 → gone = [])
    (h : escapeLength? (u ++ (gone ++ b)) = none) : escapeLength? (u ++ (spaces n ++ b)) = none := by
  cases n with
  | zero =>
    rw [hGone rfl] at h
    exact h
  | succ n =>
    -- the first blank takes the place of what is gone, and the others come in before it
    induction n with
    | zero => exact escapeLength?_blank h
    | succ n ih =>
      have hLonger := ih fun h => absurd h (Nat.succ_ne_zero n)
      exact @escapeLength?_blank u [] _ hLonger

/-! ## Tokens that are found again -/

/-- Each token is found again where its characters stand before those of the tokens after it. -/
def Scans : List Token → Prop
  | [] => True
  | .char c :: rest => escapeLength? (c :: rest.flatMap Token.chars) = none ∧ Scans rest
  | .escape code :: rest => escapeLength? code = some code.length ∧ Scans rest

theorem scans_tokensFrom (skip : Nat) (t : Text) : Scans (tokensFrom skip t) := by
  induction t generalizing skip with
  | nil => cases skip <;> trivial
  | cons c rest ih =>
    cases skip with
    | succ skip => exact ih skip
    | zero =>
      simp only [tokensFrom]
      split
      · next n hLength =>
        -- the code is the part of the text by which it has been found
        obtain ⟨-, hWithin, hOwn⟩ := isLocal_escapeLength? hLength
        refine ⟨?_, ih _⟩
        rw [List.length_take_of_le hWithin, ← hOwn [], List.append_nil]
      · next hNone =>
        refine ⟨?_, ih 0⟩
        rw [flatMap_chars_tokensFrom]
        exact hNone

/-- The tokens of a line are found again. -/
theorem scans_tokens (line : Text) : Scans line.tokens := scans_tokensFrom 0 line

theorem tokensFrom_append (skipped t : Text) : tokensFrom skipped.length (skipped ++ t) = t.tokens := by
  induction skipped with
  | nil => rfl
  | cons c skipped ih => exact ih

/-- Tokens that are found again are those of their characters. -/
theorem tokens_flatMap_chars {ts : List Token} (h : Scans ts) :
    tokens (ts.flatMap Token.chars) = ts := by
  induction ts with
  | nil => rfl
  | cons token ts ih =>
    rw [List.flatMap_cons]
    cases token with
    | char c =>
      obtain ⟨hNone, hRest⟩ := h
      simp only [Token.chars, tokens, List.cons_append, List.nil_append, tokensFrom, hNone]
      exact congrArg _ (ih hRest)
    | escape code =>
      obtain ⟨hCode, hRest⟩ := h
      cases code with
      | nil => cases hCode
      | cons c code =>
        -- the scan takes the whole code, and goes on after it
        have hWhole := isLocal_escapeLength?.append hCode (ts.flatMap Token.chars)
        simp only [Token.chars, tokens, List.cons_append] at hWhole ⊢
        simp only [tokensFrom, hWhole]
        rw [← List.cons_append, List.take_left, List.length_cons, Nat.add_sub_cancel,
          tokensFrom_append, ih hRest]

/-- The visible text of tokens that are found again. -/
theorem visible_flatMap_chars {ts : List Token} (h : Scans ts) :
    visible (ts.flatMap Token.chars) = ts.filterMap Token.char? := by
  rw [visible, tokens_flatMap_chars h]

/-- A complete escape sequence is scanned as one, and what comes after it as if it stood alone. -/
theorem tokens_escape_append {code : Text} (h : escapeLength? code = some code.length)
    (more : Text) : (code ++ more).tokens = .escape code :: more.tokens := by
  have hScans : Scans (.escape code :: more.tokens) := ⟨h, scans_tokens more⟩
  have hFound := tokens_flatMap_chars hScans
  rwa [List.flatMap_cons, flatMap_chars_tokens] at hFound

/-- A complete escape sequence shows nothing, whatever comes after it. -/
theorem visible_escape_append {code : Text} (h : escapeLength? code = some code.length)
    (more : Text) : (code ++ more).visible = more.visible := by
  rw [visible, tokens_escape_append h]
  rfl

theorem Scans.of_append {before after : List Token} (h : Scans (before ++ after)) :
    Scans after := by
  induction before with
  | nil => exact h
  | cons token before ih =>
    cases token with
    | char c => exact ih h.2
    | escape code => exact ih h.2

/-- Characters outside the escape sequences may be left out at the beginning. -/
theorem Scans.append_filter {first rest : List Token} (h : Scans (first ++ rest)) :
    Scans (first.filter (·.char?.isNone) ++ rest) := by
  induction first with
  | nil => exact h
  | cons token first ih =>
    cases token with
    | char c => exact ih h.2
    | escape code => exact ⟨h.1, ih h.2⟩

/-- Escape sequences are found again without what comes after them. -/
theorem Scans.of_escapes {codes rest : List Token} (hCodes : ∀ token ∈ codes, token.char? = none)
    (h : Scans (codes ++ rest)) : Scans codes := by
  induction codes with
  | nil => trivial
  | cons token codes ih =>
    obtain ⟨hToken, hMore⟩ := List.forall_mem_cons.mp hCodes
    cases token with
    | char c => cases hToken
    | escape code => exact ⟨h.1, ih hMore h.2⟩

theorem Scans.blanks {ts : List Token} (h : Scans ts) (n : Nat) :
    Scans (List.replicate n (.char ' ') ++ ts) := by
  induction n with
  | zero => exact h
  | succ n ih => exact ⟨rfl, ih⟩

/-- A line may be shortened, or some of it give way to blanks, if only escape sequences come after
these. -/
theorem Scans.append_blanks {first gone codes rest : List Token} {n : Nat}
    (hCodes : ∀ token ∈ codes, token.char? = none) (hGone : n = 0 → gone = [])
    (h : Scans (first ++ (gone ++ (codes ++ rest)))) :
    Scans (first ++ (List.replicate n (.char ' ') ++ codes)) := by
  induction first with
  | nil => exact (Scans.of_escapes hCodes h.of_append.of_append).blanks n
  | cons token first ih =>
    cases token with
    | escape code => exact ⟨h.1, ih h.2⟩
    | char c =>
      refine ⟨?_, ih h.2⟩
      -- all characters after this one may be what keeps it from opening an escape sequence
      have hBlanks : (List.replicate n (Token.char ' ')).flatMap Token.chars = spaces n := by
        rw [List.flatMap_replicate]
        exact List.flatten_replicate_singleton
      have hLine : escapeLength? (c :: (first ++ (gone ++ (codes ++ rest))).flatMap Token.chars) =
          none := h.1
      simp only [List.flatMap_append] at hLine
      have hShorter : escapeLength? ((c :: first.flatMap Token.chars) ++
          (gone.flatMap Token.chars ++ codes.flatMap Token.chars)) = none := by
        refine isLocal_escapeLength?.eq_none_of_append (u := rest.flatMap Token.chars) ?_
        simpa only [List.cons_append, List.append_assoc] using hLine
      have hBlank := escapeLength?_blanks (fun hZero => by rw [hGone hZero]; rfl) hShorter
      show escapeLength? (c :: (first ++ (List.replicate n (Token.char ' ') ++ codes)).flatMap _) = none
      rw [List.flatMap_append, List.flatMap_append, hBlanks]
      exact hBlank

/-! ## The tokens of items -/

/-- The tokens of an item. -/
def Item.tokens : Item → List Token
  | .escape code => [.escape code]
  | .cluster chars => chars.map .char

theorem Item.flatMap_chars_tokens (item : Item) : item.tokens.flatMap Token.chars = item.chars := by
  cases item with
  | escape code => exact List.append_nil code
  | cluster chars =>
    rw [tokens, List.flatMap_map]
    exact List.flatMap_singleton' chars

theorem flatMap_chars_flatMap_tokens (items : List Item) :
    (items.flatMap Item.tokens).flatMap Token.chars = items.flatMap Item.chars := by
  rw [List.flatMap_assoc]
  exact congrArg (items.flatMap ·) (funext Item.flatMap_chars_tokens)

theorem flatMap_tokens_clusters (run : Text) :
    (run.clusters.map Item.cluster).flatMap Item.tokens = run.map .char := by
  calc (run.clusters.map Item.cluster).flatMap Item.tokens
      = run.clusters.flatMap (·.map .char) := List.flatMap_map _ _ _
    _ = run.clusters.flatten.map .char := by rw [List.map_flatten, List.flatMap_def]
    _ = run.map .char := by rw [flatten_clusters]

theorem Piece.flatMap_tokens_ofTokens (tokens : List Token) :
    ((ofTokens tokens).flatMap Piece.items).flatMap Item.tokens = tokens := by
  induction tokens with
  | nil => rfl
  | cons token rest ih =>
    cases token with
    | escape code =>
      rw [ofTokens, List.flatMap_cons, List.flatMap_append, ih]
      rfl
    | char c =>
      simp only [ofTokens]
      split
      · next run more hNext =>
        rw [hNext, List.flatMap_cons, List.flatMap_append, Piece.items, flatMap_tokens_clusters] at ih
        rw [List.flatMap_cons, List.flatMap_append, Piece.items, flatMap_tokens_clusters,
          List.map_cons, List.cons_append, ih]
      · rw [List.flatMap_cons, List.flatMap_append, Piece.items, flatMap_tokens_clusters, ih]
        rfl

/-- The tokens of an item that is no cluster are no characters. -/
theorem Item.char?_of_mem_tokens {item : Item} (h : item.cluster?.isNone) :
    ∀ token ∈ item.tokens, token.char? = none := by
  cases item with
  | escape code =>
    intro token hToken
    obtain rfl := List.mem_singleton.mp hToken
    rfl
  | cluster chars => cases h

/-- Leaving out the clusters leaves out the characters. -/
theorem flatMap_tokens_filter (items : List Item) :
    (items.filter (·.cluster?.isNone)).flatMap Item.tokens =
      (items.flatMap Item.tokens).filter (·.char?.isNone) := by
  induction items with
  | nil => rfl
  | cons item items ih =>
    rw [List.flatMap_cons, List.filter_append, ← ih]
    cases item with
    | escape code => rfl
    | cluster chars =>
      have hNone : (chars.map Token.char).filter (·.char?.isNone) = [] := by
        simp [List.filter_eq_nil_iff, Token.char?]
      rw [Item.tokens, hNone]
      rfl

/-- The items of a line have its tokens. -/
theorem flatMap_tokens_items (line : Text) : line.items.flatMap Item.tokens = line.tokens :=
  Piece.flatMap_tokens_ofTokens line.tokens

theorem shown_flatMap_tokens (items : List Item) :
    shown (items.flatMap Item.tokens) = (items.filterMap Item.cluster?).flatten := by
  induction items with
  | nil => rfl
  | cons item items ih =>
    rw [List.flatMap_cons, shown_append, ih]
    cases item with
    | escape code => rfl
    | cluster chars =>
      rw [Item.tokens, shown_map_char]
      rfl

/-- The visible text of items whose tokens are found again is that of their clusters. -/
theorem visible_flatMap_items {items : List Item} (h : Scans (items.flatMap Item.tokens)) :
    visible (items.flatMap Item.chars) = (items.filterMap Item.cluster?).flatten := by
  rw [← flatMap_chars_flatMap_tokens, visible_flatMap_chars h]
  exact shown_flatMap_tokens items

end ScrollPane.Text
