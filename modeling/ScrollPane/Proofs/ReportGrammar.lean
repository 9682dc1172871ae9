import ScrollPane.Mouse.Decoder
import Mathlib.Data.List.TakeWhile

/-!
# The grammar of mouse reports

A report is an opening, three fields of digits with semicolons between them, and a final letter. The
shape by which mouse input is told from keys is looser: the opening, then anything up to the only
letter that may be final. Since neither digits nor semicolons are such letters, every report has that
shape.

## Main definitions

- `Mouse.IsField`: the texts that are fields of a report;
- `Mouse.Report.IsSpelledBy`: the texts that spell a report, in as many ways as leading zeros allow;
- `Mouse.isInner`: the characters that do not end a report.

## Main statements

- `Mouse.Report.ofText?_eq_some_iff`: a text is read as the report it spells;
- `Mouse.isReportShaped_iff`: what a text looks like that has the shape of one;
- `Mouse.Chunk.isMouse_of_event`: what decodes to an event has that shape.
-/

namespace ScrollPane.Mouse

/-! ## Fields -/

/-- A field of a report: a few decimal digits. -/
def IsField (digits : Text) : Prop :=
  (1 ≤ digits.length ∧ digits.length ≤ fieldDigits) ∧ ∀ c ∈ digits, c.isDigit = true

/-- A field that has been read stands at the head of the text. -/
theorem eq_append_of_field? {t rest : Text} {n : Nat} (h : field? t = some (n, rest)) :
    ∃ digits, IsField digits ∧ n = decimalValue digits ∧ t = digits ++ rest := by
  simp only [field?] at h
  split at h
  · next hLength =>
    obtain ⟨rfl, rfl⟩ := Prod.mk.inj (Option.some.inj h)
    refine ⟨t.takeWhile Char.isDigit, ⟨hLength, ?_⟩, rfl, List.takeWhile_append_dropWhile.symm⟩
    intro c hMem
    exact List.mem_takeWhile_imp hMem
  · cases h

/-- A field is read up to where its digits end. -/
theorem field?_append {digits : Text} (h : IsField digits) {c : Char} (hEnd : c.isDigit = false)
    (rest : Text) : field? (digits ++ c :: rest) = some (decimalValue digits, c :: rest) := by
  obtain ⟨hLength, hDigits⟩ := h
  have hStop : ¬c.isDigit = true := by simp [hEnd]
  have hTaken : (digits ++ c :: rest).takeWhile Char.isDigit = digits := by
    rw [List.takeWhile_append_of_pos hDigits, List.takeWhile_cons_of_neg hStop, List.append_nil]
  have hLeft : (digits ++ c :: rest).dropWhile Char.isDigit = c :: rest := by
    rw [List.dropWhile_append_of_pos hDigits, List.dropWhile_cons_of_neg hStop]
  simp only [field?, hTaken, hLeft, hLength, and_self, if_true]

/-! ## Reports -/

/-- How every report begins. -/
def reportOpening : Text := ['\x1b', '[', '<']

/-- The text spells the report: the opening, three fields with semicolons between them that denote its
numbers, and a final letter. -/
def Report.IsSpelledBy (r : Report) (t : Text) : Prop :=
  ∃ code x y final, IsField code ∧ IsField x ∧ IsField y ∧ (final = 'm' ∨ final = 'M') ∧
    t = reportOpening ++ (code ++ ';' :: x ++ ';' :: y) ++ [final] ∧
    r = ⟨decimalValue code, decimalValue x, decimalValue y, decide (final = 'm')⟩

/-- What is read as a report spells it. -/
theorem Report.isSpelledBy_of_ofText? {t : Text} {r : Report} (h : Report.ofText? t = some r) :
    r.IsSpelledBy t := by
  unfold Report.ofText? at h
  split at h
  · next rest =>
    simp only [Option.bind_eq_bind, Option.bind_eq_some_iff] at h
    -- each field ends at its semicolon, and the last one at the final letter
    obtain ⟨⟨_, _⟩, hCode, hAfterCode⟩ := h
    split at hAfterCode
    · next code afterCode hFirst =>
      obtain ⟨rfl, rfl⟩ := Prod.mk.inj hFirst
      obtain ⟨⟨_, _⟩, hX, hAfterX⟩ := Option.bind_eq_some_iff.mp hAfterCode
      split at hAfterX
      · next x afterX hSecond =>
        obtain ⟨rfl, rfl⟩ := Prod.mk.inj hSecond
        obtain ⟨⟨_, _⟩, hY, hAfterY⟩ := Option.bind_eq_some_iff.mp hAfterX
        split at hAfterY
        · next y final hThird =>
          obtain ⟨rfl, rfl⟩ := Prod.mk.inj hThird
          obtain ⟨code, hCodeField, rfl, rfl⟩ := eq_append_of_field? hCode
          obtain ⟨x, hXField, rfl, rfl⟩ := eq_append_of_field? hX
          obtain ⟨y, hYField, rfl, rfl⟩ := eq_append_of_field? hY
          refine ⟨code, x, y, final, hCodeField, hXField, hYField, ?_⟩
          split at hAfterY
          · next hPressed =>
            obtain rfl := Option.some.inj hAfterY
            exact ⟨.inr hPressed, by simp [reportOpening], by simp [hPressed]⟩
          · split at hAfterY
            · next hReleased =>
              obtain rfl := Option.some.inj hAfterY
              exact ⟨.inl hReleased, by simp [reportOpening], by simp [hReleased]⟩
            · cases hAfterY
        · cases hAfterY
      · cases hAfterX
    · cases hAfterCode
  · cases h

/-- A text is read as a report just if it spells it. -/
theorem Report.ofText?_eq_some_iff {t : Text} {r : Report} :
    Report.ofText? t = some r ↔ r.IsSpelledBy t := by
  constructor
  · exact Report.isSpelledBy_of_ofText?
  · rintro ⟨code, x, y, final, hCode, hX, hY, hFinal, rfl, rfl⟩
    have hSemicolon : ';'.isDigit = false := by decide
    have hLast : final.isDigit = false := by rcases hFinal with rfl | rfl <;> decide
    have hText : reportOpening ++ (code ++ ';' :: x ++ ';' :: y) ++ [final] =
        '\x1b' :: '[' :: '<' :: (code ++ ';' :: (x ++ ';' :: (y ++ [final]))) := by
      simp [reportOpening]
    rw [hText]
    simp only [Report.ofText?, field?_append hCode hSemicolon, field?_append hX hSemicolon,
      field?_append hY hLast, Option.bind_eq_bind, Option.bind_some]
    rcases hFinal with rfl | rfl <;> rfl

/-! ## Shapes -/

/-- Whether a character is none of the two final letters. -/
def isInner (c : Char) : Bool := c != 'm' && c != 'M'

/-- What has the shape of a report consists of the opening, anything without a final letter, and a
final letter. -/
theorem isReportShaped_iff {t : Text} :
    isReportShaped t = true ↔
      ∃ body final, (∀ c ∈ body, isInner c = true) ∧ isInner final = false ∧
        t = reportOpening ++ body ++ [final] := by
  constructor
  · intro h
    unfold isReportShaped at h
    split at h
    · next rest =>
      obtain ⟨final, hRest⟩ : ∃ final, rest.dropWhile isInner = [final] :=
        List.length_eq_one_iff.mp (beq_iff_eq.mp h)
      refine ⟨rest.takeWhile isInner, final, fun c hMem => List.mem_takeWhile_imp hMem, ?_, ?_⟩
      · -- the search stopped there
        have hStop := List.head?_dropWhile_not isInner rest
        rw [hRest] at hStop
        exact hStop
      · have hWhole : rest.takeWhile isInner ++ rest.dropWhile isInner = rest :=
          List.takeWhile_append_dropWhile
        rw [hRest] at hWhole
        rw [reportOpening, List.append_assoc, hWhole]
        rfl
    · cases h
  · rintro ⟨body, final, hBody, hFinal, rfl⟩
    have hRest : (body ++ [final]).dropWhile isInner = [final] := by
      rw [List.dropWhile_append_of_pos hBody, List.dropWhile_cons_of_neg (by simp [hFinal])]
    show ((body ++ [final]).dropWhile isInner).length == 1
    rw [hRest]
    rfl

/-- A digit is no final letter. -/
theorem isInner_of_isDigit {c : Char} (h : c.isDigit = true) : isInner c = true := by
  unfold isInner
  rw [Bool.and_eq_true, bne_iff_ne, bne_iff_ne]
  constructor <;> rintro rfl <;> cases h

/-- Every report has the shape of one: no field has a final letter in it, nor does a semicolon. -/
theorem isReportShaped_of_ofText? {t : Text} {r : Report} (h : Report.ofText? t = some r) :
    isReportShaped t = true := by
  obtain ⟨code, x, y, final, hCode, hX, hY, hFinal, rfl, -⟩ := Report.isSpelledBy_of_ofText? h
  have hField : ∀ digits, IsField digits → ∀ c ∈ digits, isInner c = true :=
    fun digits hDigits c hMem => isInner_of_isDigit (hDigits.2 c hMem)
  refine isReportShaped_iff.mpr ⟨_, final, ?_, ?_, rfl⟩
  · simp only [List.forall_mem_append, List.forall_mem_cons]
    exact ⟨⟨hField code hCode, rfl, hField x hX⟩, rfl, hField y hY⟩
  · rcases hFinal with rfl | rfl <;> rfl

/-- What decodes to an event has the shape of a report. -/
theorem Chunk.isMouse_of_event {chunk : Chunk} {e : Event} (h : Event.ofChunk? chunk = some e) :
    chunk.isMouse = true := by
  obtain ⟨r, hReport, -⟩ := Option.bind_eq_some_iff.mp h
  exact isReportShaped_of_ofText? hReport

end ScrollPane.Mouse
