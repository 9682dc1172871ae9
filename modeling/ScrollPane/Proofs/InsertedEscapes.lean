import ScrollPane.Proofs.StyledCuts

/-!
# Escape sequences put into a line

Putting two texts together can make an escape sequence out of the end of one and the beginning of the
other, and a command string that was left open swallows what comes after it. Neither can happen at a
place before which no escape character is left in the visible text. There a line is scanned up to the
place as if it ended there, so complete escape sequences that are put in are found as they are, and
what the line shows and how wide it is stay the same.

## Main statements

- `Text.tokens_insert_escapes`: how a line with escape sequences put into it is scanned;
- `Text.visible_insert_escape`: escape sequences are neither seen nor measured.
-/

namespace ScrollPane.Text

/-- The look-up at the start finds all of a text just if the text is one complete escape sequence. -/
theorem escapeAt?_zero_eq_some_iff {code : Text} :
    code.escapeAt? 0 = some { code, length := code.length } ↔
      escapeLength? code = some code.length := by
  have hLookUp : code.escapeAt? 0 =
      (escapeLength? code).map fun n => { code := code.take n, length := n } :=
    escapeAt?_of_le (Nat.zero_le _)
  rw [hLookUp, Option.map_eq_some_iff]
  constructor
  · rintro ⟨n, hFound, hWhole⟩
    obtain ⟨-, hLength⟩ := EscapeAt.mk.inj hWhole
    rwa [Int.ofNat_inj.mp hLength] at hFound
  · intro hFound
    exact ⟨code.length, hFound, by rw [List.take_length]⟩

/-- Complete escape sequences are scanned one after the other. -/
theorem tokens_flatten_append {codes : List Text}
    (hCodes : ∀ code ∈ codes, escapeLength? code = some code.length) (more : Text) :
    tokens (codes.flatten ++ more) = codes.map .escape ++ more.tokens := by
  induction codes with
  | nil => rfl
  | cons code codes ih =>
    obtain ⟨hCode, hMore⟩ := List.forall_mem_cons.mp hCodes
    rw [List.flatten_cons, List.append_assoc, tokens_escape_append hCode, ih hMore]
    rfl

/-- A line into which complete escape sequences have been put is scanned as before, on both sides of
them. -/
theorem tokens_insert_escapes {before : Text} (hPlain : esc ∉ before.visible) {codes : List Text}
    (hCodes : ∀ code ∈ codes, escapeLength? code = some code.length) (after : Text) :
    (before ++ codes.flatten ++ after).tokens =
      before.tokens ++ (codes.map .escape ++ after.tokens) := by
  -- what comes before is closed, whatever follows it, and so is each sequence after it
  rw [List.append_assoc, tokens_append hPlain, tokens_flatten_append hCodes]

/-- They do not change what the line shows. -/
theorem visible_insert_escapes {before : Text} (hPlain : esc ∉ before.visible) {codes : List Text}
    (hCodes : ∀ code ∈ codes, escapeLength? code = some code.length) (after : Text) :
    (before ++ codes.flatten ++ after).visible = before.visible ++ after.visible := by
  have hNothing : (codes.map Token.escape).filterMap Token.char? = [] := by
    refine List.filterMap_eq_nil_iff.mpr (List.forall_mem_map.mpr fun code _ => ?_)
    rfl
  calc (before ++ codes.flatten ++ after).visible
      = (before.tokens ++ (codes.map Token.escape ++ after.tokens)).filterMap Token.char? := by
        rw [visible, tokens_insert_escapes hPlain hCodes]
    _ = before.visible ++ after.visible := by
        rw [List.filterMap_append, List.filterMap_append, hNothing]
        rfl

/-- **Escape sequences are neither seen nor measured.** Where no escape character is left in the visible
text of what comes before, a complete escape sequence can be put in: what is seen is the visible text
of what comes before and of what comes after, as it is without the sequence, and the width is the
same. -/
theorem visible_insert_escape {before code : Text}
    (hCode : code.escapeAt? 0 = some { code, length := code.length })
    (hPlain : esc ∉ before.visible) (after : Text) :
    (before ++ code ++ after).visible = before.visible ++ after.visible ∧
      before.visible ++ after.visible = (before ++ after).visible ∧
      (before ++ code ++ after).width = (before ++ after).width := by
  have hComplete : ∀ c ∈ [code], escapeLength? c = some c.length :=
    List.forall_mem_singleton.mpr (escapeAt?_zero_eq_some_iff.mp hCode)
  have hWith : (before ++ code ++ after).visible = before.visible ++ after.visible := by
    have hInserted := visible_insert_escapes hPlain hComplete after
    rwa [List.flatten_singleton] at hInserted
  have hWithout : before.visible ++ after.visible = (before ++ after).visible :=
    (visible_append hPlain after).symm
  exact ⟨hWith, hWithout, width_eq_of_visible_eq (hWith.trans hWithout)⟩

/-- A link that has a style code in its address is put between a styled letter and what could be the
end of a style code. -/
theorem visible_insert_escape_link :
    let before : Text := "\x1b[1ma".toList
    let code : Text := "\x1b]8;\x1b[0m\x07".toList
    let after : Text := "[4m\x07好".toList
    code.escapeAt? 0 = some { code, length := code.length } ∧ esc ∉ before.visible ∧
      (before ++ code ++ after).visible = before.visible ++ after.visible ∧
      (before ++ code ++ after).visible = "a[4m\x07好".toList ∧
      (before ++ code ++ after).width = (before ++ after).width := by
  intro before code after
  have hCode : code.escapeAt? 0 = some { code, length := code.length } := by decide +kernel
  have hPlain : esc ∉ before.visible := by decide +kernel
  obtain ⟨hVisible, -, hWidth⟩ := visible_insert_escape hCode hPlain after
  exact ⟨hCode, hPlain, hVisible, by decide +kernel, hWidth⟩

/-- An escape character that is left in the visible text makes a style code of what comes after, unless
another sequence is put in between. -/
example :
    visible ("\x1b" ++ "[1ma").toList = ['a'] ∧
      visible ("\x1b" ++ "\x1b[0m" ++ "[1ma").toList = "\x1b[1ma".toList := by
  decide +kernel

end ScrollPane.Text
