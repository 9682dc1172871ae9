import ScrollPane.Proofs.Rescanning

/-!
# The grammar of escape sequences

Which texts are escape sequences, apart from how they are found. A command string may hold a further
terminator in its body, so one escape sequence can begin with another. The one that is found is the
shortest: an escape sequence is complete whatever comes after it, so a longer one that begins with
it is never reached.

## Main definitions

- `Text.IsEscape`: the texts that are escape sequences;
- `Text.Finds`: lengths that are found just where a text of a language begins;
- `Text.EscapeAt.IsShortest`: the shortest escape sequence at a position.

## Main statements

- `Text.Finds.eq_some_iff`, `Text.Finds.eq_none_iff`: what is found are the shortest texts of the
  language;
- `Text.finds_escape`: escape sequences are found;
- `Text.lookUp_finds_shortest`: the look-up at a position.
-/

namespace ScrollPane.Text

/-! ## The grammar -/

/-- What follows `ESC [` in a control sequence: parameters and a final letter. -/
def IsControlRest (t : Text) : Prop :=
  ∃ parameters final, (∀ c ∈ parameters, c.isDigit = true ∨ c = ';') ∧
    final ∈ ['m', 'G', 'K', 'H', 'J'] ∧ t = parameters ++ [final]

/-- What follows the opening of a command string: any body and a terminator. -/
def IsCommandRest (t : Text) : Prop :=
  ∃ body terminator, (terminator = ['\x07'] ∨ terminator = ['\x1b', '\\']) ∧ t = body ++ terminator

/-- A text that is an escape sequence as a whole. -/
inductive IsEscape : Text → Prop where
  | control {rest : Text} (hRest : IsControlRest rest) : IsEscape ('\x1b' :: '[' :: rest)
  | command {opening : Char} {rest : Text} (hOpening : opening = ']' ∨ opening = '_')
      (hRest : IsCommandRest rest) : IsEscape ('\x1b' :: opening :: rest)

/-! ## Lengths that find a language -/

/-- A length is found locally, just where a text of the language begins, and it is that of one. -/
structure Finds (length? : Text → Option Nat) (language : Text → Prop) : Prop where
  isLocal : IsLocal length?
  sound : ∀ {t : Text} {n : Nat}, length? t = some n → language (t.take n)
  complete : ∀ {t : Text}, language t → ∃ n, length? t = some n

namespace Finds

variable {length? : Text → Option Nat} {language : Text → Prop}

/-- Where a text of the language begins, a length is found, and it is no longer than that text. -/
theorem exists_le (h : Finds length? language) {t code : Text} (hPrefix : code <+: t)
    (hCode : language code) : ∃ n ≤ code.length, length? t = some n := by
  obtain ⟨rest, rfl⟩ := hPrefix
  obtain ⟨n, hFound⟩ := h.complete hCode
  obtain ⟨-, hLength, -⟩ := h.isLocal hFound
  exact ⟨n, hLength, IsLocal.append h.isLocal hFound rest⟩

theorem eq_none_iff (h : Finds length? language) {t : Text} :
    length? t = none ↔ ∀ code, code <+: t → ¬language code := by
  constructor
  · intro hNone code hPrefix hCode
    obtain ⟨n, -, hFound⟩ := h.exists_le hPrefix hCode
    rw [hNone] at hFound
    cases hFound
  · intro hNever
    cases hFound : length? t with
    | none => rfl
    | some n => exact absurd (h.sound hFound) (hNever _ (List.take_prefix n t))

/-- What is found is the text of the language that no shorter one begins. -/
theorem eq_some_iff (h : Finds length? language) {t : Text} {n : Nat} :
    length? t = some n ↔
      n ≤ t.length ∧ language (t.take n) ∧ ∀ p, p <+: t.take n → p ≠ t.take n → ¬language p := by
  constructor
  · intro hFound
    obtain ⟨-, hLength, -⟩ := h.isLocal hFound
    refine ⟨hLength, h.sound hFound, ?_⟩
    rintro p hPrefix hProper hCode
    -- a shorter one would have been found in its place
    obtain ⟨m, hShort, hFirst⟩ := h.exists_le (hPrefix.trans (List.take_prefix n t)) hCode
    obtain rfl := Option.some.inj (hFirst.symm.trans hFound)
    apply hProper
    apply hPrefix.eq_of_length_le
    rw [List.length_take]
    omega
  · rintro ⟨hLength, hCode, hShortest⟩
    -- what is found is no longer than that text, and a proper prefix of it has been ruled out
    obtain ⟨m, hShort, hFound⟩ := h.exists_le (List.take_prefix n t) hCode
    have hLe : m ≤ n := by
      rw [List.length_take] at hShort
      omega
    have hPrefix : t.take m <+: t.take n := List.take_prefix_take_left hLe
    have hSame : t.take m = t.take n := by
      by_cases hSame : t.take m = t.take n
      · exact hSame
      · exact absurd (h.sound hFound) (hShortest _ hPrefix hSame)
    have hLengths := congrArg List.length hSame
    rw [List.length_take, List.length_take] at hLengths
    obtain rfl : m = n := by omega
    exact hFound

end Finds

/-! ## Escape sequences are found -/

theorem isParameter_iff {c : Char} : isParameter c = true ↔ c.isDigit = true ∨ c = ';' := by
  simp [isParameter]

theorem isFinal_iff {c : Char} : isFinal c = true ↔ c ∈ ['m', 'G', 'K', 'H', 'J'] := by
  simp [isFinal, or_assoc]

theorem isControlRest_take {t : Text} {n : Nat} (h : controlLength? t = some n) :
    IsControlRest (t.take n) := by
  induction t generalizing n with
  | nil => cases h
  | cons c rest ih =>
    rw [controlLength?] at h
    split at h
    · next hParameter =>
      obtain ⟨m, hRest, rfl⟩ := Option.map_eq_some_iff.mp h
      obtain ⟨parameters, final, hParameters, hFinal, hTake⟩ := ih hRest
      refine ⟨c :: parameters, final, ?_, hFinal, by rw [List.take_succ_cons, hTake]; rfl⟩
      exact List.forall_mem_cons.mpr ⟨isParameter_iff.mp hParameter, hParameters⟩
    · split at h
      · next hFinal =>
        obtain rfl := Option.some.inj h
        exact ⟨[], c, by simp, isFinal_iff.mp hFinal, rfl⟩
      · cases h

theorem controlLength?_of_isControlRest {t : Text} (h : IsControlRest t) :
    ∃ n, controlLength? t = some n := by
  obtain ⟨parameters, final, hParameters, hFinal, rfl⟩ := h
  induction parameters with
  | nil =>
    -- no letter is a parameter
    have hLetter : isParameter final = false := by
      simp only [List.mem_cons, List.not_mem_nil, or_false] at hFinal
      rcases hFinal with rfl | rfl | rfl | rfl | rfl <;> rfl
    exact ⟨1, by simp [controlLength?, hLetter, isFinal_iff.mpr hFinal]⟩
  | cons c parameters ih =>
    obtain ⟨hFirst, hMore⟩ := List.forall_mem_cons.mp hParameters
    obtain ⟨n, hRest⟩ := ih hMore
    exact ⟨n + 1, by simp [controlLength?, isParameter_iff.mpr hFirst, hRest]⟩

theorem finds_control : Finds controlLength? IsControlRest where
  isLocal := isLocal_controlLength?
  sound := isControlRest_take
  complete := controlLength?_of_isControlRest

theorem isCommandRest_take {t : Text} {n : Nat} (h : commandLength? t = some n) :
    IsCommandRest (t.take n) := by
  induction t generalizing n with
  | nil => cases h
  | cons c rest ih =>
    rw [commandLength?_cons] at h
    split at h
    · next hBell =>
      obtain rfl := Option.some.inj h
      exact ⟨[], ['\x07'], .inl rfl, by rw [hBell]; rfl⟩
    · split at h
      · next hEscape =>
        obtain rfl := Option.some.inj h
        obtain ⟨rfl, hNext⟩ := hEscape
        obtain ⟨more, rfl⟩ := List.head?_eq_some_iff.mp hNext
        exact ⟨[], ['\x1b', '\\'], .inr rfl, rfl⟩
      · obtain ⟨m, hRest, rfl⟩ := Option.map_eq_some_iff.mp h
        obtain ⟨body, terminator, hTerminator, hTake⟩ := ih hRest
        exact ⟨c :: body, terminator, hTerminator, by rw [List.take_succ_cons, hTake]; rfl⟩

theorem commandLength?_of_isCommandRest {t : Text} (h : IsCommandRest t) :
    ∃ n, commandLength? t = some n := by
  obtain ⟨body, terminator, hTerminator, rfl⟩ := h
  apply Option.ne_none_iff_exists'.mp
  intro hNone
  -- the terminator is found at the latest
  have hLast := commandLength?_eq_none_of_append hNone
  rcases hTerminator with rfl | rfl <;> cases hLast

theorem finds_command : Finds commandLength? IsCommandRest where
  isLocal := isLocal_commandLength?
  sound := isCommandRest_take
  complete := commandLength?_of_isCommandRest

theorem isEscape_take {t : Text} {n : Nat} (h : escapeLength? t = some n) :
    IsEscape (t.take n) := by
  unfold escapeLength? at h
  split at h
  · obtain ⟨m, hRest, rfl⟩ := Option.map_eq_some_iff.mp h
    exact .control (finds_control.sound hRest)
  · obtain ⟨m, hRest, rfl⟩ := Option.map_eq_some_iff.mp h
    exact .command (.inl rfl) (finds_command.sound hRest)
  · obtain ⟨m, hRest, rfl⟩ := Option.map_eq_some_iff.mp h
    exact .command (.inr rfl) (finds_command.sound hRest)
  · cases h

theorem escapeLength?_of_isEscape {t : Text} (h : IsEscape t) : ∃ n, escapeLength? t = some n := by
  cases h with
  | control hRest =>
    obtain ⟨n, hFound⟩ := finds_control.complete hRest
    exact ⟨n + 2, by simp [escapeLength?, hFound]⟩
  | command hOpening hRest =>
    obtain ⟨n, hFound⟩ := finds_command.complete hRest
    rcases hOpening with rfl | rfl
    · exact ⟨n + 2, by simp [escapeLength?, hFound]⟩
    · exact ⟨n + 2, by simp [escapeLength?, hFound]⟩

theorem finds_escape : Finds escapeLength? IsEscape where
  isLocal := isLocal_escapeLength?
  sound := isEscape_take
  complete := escapeLength?_of_isEscape

/-! ## Look-up at a position -/

/-- The code of that length at a position of the text is an escape sequence, and no proper prefix of
it is one. -/
structure EscapeAt.IsShortest (e : EscapeAt) (t : Text) (pos : Nat) : Prop where
  length_nonneg : 0 ≤ e.length
  inside : pos + e.length ≤ t.length
  code_eq : e.code = (t.drop pos).take e.length.toNat
  isEscape : IsEscape e.code
  shortest : ∀ p, p <+: e.code → p ≠ e.code → ¬IsEscape p

theorem escapeAt?_eq_some_iff {t : Text} {pos : Nat} (hInside : pos ≤ t.length) {e : EscapeAt} :
    t.escapeAt? pos = some e ↔ e.IsShortest t pos := by
  rw [escapeAt?_of_le hInside, Option.map_eq_some_iff]
  constructor
  · rintro ⟨n, hFound, rfl⟩
    obtain ⟨hLength, hCode, hShortest⟩ := finds_escape.eq_some_iff.mp hFound
    rw [List.length_drop] at hLength
    exact ⟨Int.natCast_nonneg n, by show (pos + n : Int) ≤ _; omega, rfl, hCode, hShortest⟩
  · intro hShortest
    obtain ⟨code, length⟩ := e
    obtain ⟨hNonneg, hInside, hCode, hEscape, hShortest⟩ := hShortest
    obtain ⟨n, rfl⟩ := Int.eq_ofNat_of_zero_le hNonneg
    obtain rfl : code = (t.drop pos).take n := hCode
    have hLength : n ≤ (t.drop pos).length := by
      rw [List.length_drop]
      simp only at hInside
      omega
    exact ⟨n, finds_escape.eq_some_iff.mpr ⟨hLength, hEscape, hShortest⟩, rfl⟩

theorem escapeAt?_eq_none_iff {t : Text} {pos : Nat} (hInside : pos ≤ t.length) :
    t.escapeAt? pos = none ↔ ∀ p, p <+: t.drop pos → ¬IsEscape p := by
  rw [escapeAt?_of_le hInside, Option.map_eq_none_iff]
  exact finds_escape.eq_none_iff

/-- A position stands for the nearest one in the text, but lengths count from the former. -/
theorem escapeAt?_eq_map (t : Text) (pos : Int) :
    let start := max 0 (min pos t.length)
    t.escapeAt? pos =
      (t.escapeAt? start).map fun e => { e with length := start + e.length - pos } := by
  intro start
  have hStart : min start.toNat t.length = min pos.toNat t.length := by omega
  have hNat : ((min pos.toNat t.length : Nat) : Int) = start := by omega
  simp only [escapeAt?, hStart, Option.map_map]
  congr 1
  funext n
  simp only [Function.comp_apply]
  congr 1
  omega

theorem lookUp_of_isPosition {pos : Int} (h : IsPosition pos) (t : Text) :
    t.lookUp pos = .ok (t.escapeAt? pos) :=
  if_pos h

/-- A look-up has no answer just where the position cannot be looked up. -/
theorem lookUp_eq_error_iff {t : Text} {pos : Int} :
    t.lookUp pos = .error .positionTooLarge ↔ ¬IsPosition pos := by
  unfold lookUp
  split
  · next hPosition => simp [hPosition]
  · next hTooLarge => simp [hTooLarge]

/-- The nearest position in a text can be looked up, too. -/
theorem IsPosition.nearest {pos : Int} (h : IsPosition pos) (t : Text) :
    IsPosition (max 0 (min pos t.length)) := by
  unfold IsPosition at *
  omega

/-- **The look-up finds the shortest escape sequence.** At each position of a text that can be looked
up, what is found is the escape sequence that no shorter one begins, and it is the only such one;
nothing is found just where no escape sequence begins. Other positions stand for the nearest end of
the text, and the length counts from them. There is no answer just where the position is no integer
of 64 bits. -/
theorem lookUp_finds_shortest (t : Text) :
    (∀ pos : Nat, IsPosition pos → pos ≤ t.length →
        (∀ e, t.lookUp pos = .ok (some e) ↔ e.IsShortest t pos) ∧
          (t.lookUp pos = .ok none ↔ ∀ p, p <+: t.drop pos → ¬IsEscape p) ∧
          ∀ e e' : EscapeAt, e.IsShortest t pos → e'.IsShortest t pos → e = e') ∧
      (∀ pos : Int, IsPosition pos →
        let start := max 0 (min pos t.length)
        ∃ found?, t.lookUp start = .ok found? ∧
          t.lookUp pos = .ok (found?.map fun e => { e with length := start + e.length - pos })) ∧
      ∀ pos : Int, t.lookUp pos = .error .positionTooLarge ↔ ¬IsPosition pos := by
  refine ⟨?_, ?_, fun pos => lookUp_eq_error_iff⟩
  · intro pos hPosition hInside
    have hLookUp : ∀ found?, t.lookUp pos = .ok found? ↔ t.escapeAt? pos = found? := by
      intro found?
      rw [lookUp_of_isPosition hPosition, Except.ok.injEq]
    refine ⟨fun e => ?_, ?_, ?_⟩
    · rw [hLookUp, escapeAt?_eq_some_iff hInside]
    · rw [hLookUp, escapeAt?_eq_none_iff hInside]
    · intro e e' hFirst hSecond
      have hFound := (escapeAt?_eq_some_iff hInside).mpr hFirst
      have hFound' := (escapeAt?_eq_some_iff hInside).mpr hSecond
      exact Option.some.inj (hFound.symm.trans hFound')
  · intro pos hPosition start
    refine ⟨t.escapeAt? start, lookUp_of_isPosition (hPosition.nearest t) t, ?_⟩
    rw [lookUp_of_isPosition hPosition, escapeAt?_eq_map]

/-- A command string with a style code in its body, and one more terminator after its own. -/
def link : Text := "\x1b]8;\x1b[0m\x07b\x07".toList

/-- It is found up to its own terminator, from before the text as well, and nothing begins at its
second character. The whole text is an escape sequence too, but not the shortest. -/
theorem lookUp_finds_shortest_link :
    let e : EscapeAt := { code := "\x1b]8;\x1b[0m\x07".toList, length := 9 }
    (IsPosition 0 ∧ 0 ≤ link.length ∧ IsPosition 1 ∧ 1 ≤ link.length ∧ IsPosition (-3)) ∧
      e.IsShortest link 0 ∧ IsEscape link ∧ (∀ p, p <+: link.drop 1 → ¬IsEscape p) ∧
      link.lookUp (-3) = .ok (some { e with length := 12 }) := by
  intro e
  have hStart : 0 ≤ link.length := Nat.zero_le _
  have hSecond : 1 ≤ link.length := by decide +kernel
  have hBefore : IsPosition (-3) := by decide
  obtain ⟨hInside, hNearest, -⟩ := lookUp_finds_shortest link
  obtain ⟨hFound, -, -⟩ := hInside 0 (by decide) hStart
  obtain ⟨-, hNone, -⟩ := hInside 1 (by decide) hSecond
  have hShortest : e.IsShortest link 0 := (hFound e).mp (by rfl)
  refine ⟨⟨by decide, hStart, by decide, hSecond, hBefore⟩, hShortest, ?_, hNone.mp (by rfl), ?_⟩
  · exact .command (.inl rfl) ⟨"8;\x1b[0m\x07b".toList, ['\x07'], .inl rfl, rfl⟩
  · obtain ⟨found?, hHere, hFirst⟩ := hNearest (-3) hBefore
    -- the position stands for the start, where the sequence has been found
    have hSame : link.lookUp (max 0 (min (-3) link.length)) = .ok (some e) :=
      (hFound e).mpr hShortest
    obtain rfl := Except.ok.inj (hHere.symm.trans hSame)
    exact hFirst

/-- The first position that cannot be looked up has no answer, although the end of the text that it
would stand for has one. -/
theorem lookUp_beyond_words :
    let t : Text := ['x']
    let pos : Int := 0x8000000000000000
    t.lookUp (max 0 (min pos t.length)) = .ok none ∧
      t.lookUp pos = .error .positionTooLarge ∧ ¬∃ found?, t.lookUp pos = .ok found? := by
  intro t pos
  have hError : t.lookUp pos = .error .positionTooLarge := lookUp_eq_error_iff.mpr (by decide)
  refine ⟨by decide +kernel, hError, ?_⟩
  rintro ⟨found?, hAnswer⟩
  rw [hError] at hAnswer
  cases hAnswer

end ScrollPane.Text
