import ScrollPane.Settings
import ScrollPane.Proofs.NumeralGrammar
import Mathlib.Data.List.DropRight

/-!
# The wheel step in the environment

A value asks for a number of rows if, without the white space around it, it is a numeral of at least
one. Every other value counts as absent, so the step is never one that the wheel could not turn by.
The variables do not interfere: the step is read from one of them, and the flags from two others.

## Main definitions

- `Text.IsCore`: what is left of a text without blanks around it.

## Main statements

- `Text.isCore_trim`, `Text.IsCore.trim_eq`: trimming leaves the core, and there is one only;
- `Settings.wheelLines?_eq_some_iff`: what a value asks for;
- `Settings.wheelLines_reads_numerals`: the step in any environment.
-/

namespace ScrollPane

/-- No digit of the first script is blank. -/
theorem Unicode.isBlank_eq_false_of_isDigit {c : Char} (h : c.isDigit = true) :
    Unicode.isBlank c = false := by
  have hDigits : ∀ n ≤ '9'.toNat, '0'.toNat ≤ n → Unicode.blankTable.contains n = false := by
    decide +kernel
  obtain ⟨hLower, hUpper⟩ := Char.isDigit_iff_toNat.mp h
  exact hDigits c.toNat hUpper hLower

/-! ## Trimming -/

namespace Text

/-- The text is its core with characters of one kind on both sides, and the core neither begins nor
ends with one. -/
structure IsCore (p : Char → Bool) (t core : Text) : Prop where
  around : ∃ before after, (∀ c ∈ before, p c = true) ∧ (∀ c ∈ after, p c = true) ∧
    t = before ++ core ++ after
  first : ∀ c ∈ core.head?, p c = false
  last : ∀ c ∈ core.getLast?, p c = false

theorem trim_eq_rdropWhile (p : Char → Bool) (t : Text) :
    t.trim p = (t.dropWhile p).rdropWhile p := rfl

/-- What is trimmed away is of that kind, and nothing of it is left at the ends. -/
theorem isCore_trim (p : Char → Bool) (t : Text) : IsCore p t (t.trim p) where
  around := by
    refine ⟨t.takeWhile p, (t.dropWhile p).rtakeWhile p, fun c => List.mem_takeWhile_imp,
      fun c => List.mem_rtakeWhile_imp, ?_⟩
    rw [trim_eq_rdropWhile, List.append_assoc, List.rdropWhile_append_rtakeWhile,
      List.takeWhile_append_dropWhile]
  first := by
    intro c hFirst
    -- nothing is taken off the beginning at the second end
    obtain ⟨rest, hWhole⟩ : (t.trim p) <+: t.dropWhile p := List.rdropWhile_prefix p _
    have hHead : (t.dropWhile p).head? = some c := by
      rw [← hWhole, List.head?_append, Option.mem_def.mp hFirst]
      rfl
    have hStop := List.head?_dropWhile_not p t
    rw [hHead] at hStop
    simpa using hStop
  last := by
    intro c hLast
    obtain ⟨hSome, rfl⟩ := List.mem_getLast?_eq_getLast hLast
    exact Bool.eq_false_iff.mpr (List.rdropWhile_last_not p (t.dropWhile p) hSome)

/-- A text has one core. -/
theorem IsCore.trim_eq {p : Char → Bool} {t core : Text} (h : IsCore p t core) :
    t.trim p = core := by
  obtain ⟨before, after, hBefore, hAfter, rfl⟩ := h.around
  have hEnd : (core ++ after).rdropWhile p = core := by
    have hTaken : (core ++ after).rdropWhile p = core.rdropWhile p := by
      rw [List.rdropWhile, List.reverse_append, List.dropWhile_append_of_pos (by simpa using hAfter)]
      rfl
    rw [hTaken, List.rdropWhile_eq_self_iff]
    intro hSome
    simpa using h.last _ (List.getLast_mem_getLast? hSome)
  rw [trim_eq_rdropWhile, List.append_assoc, List.dropWhile_append_of_pos hBefore]
  cases core with
  | nil =>
    have hNothing : ([] ++ after).dropWhile p = [] := List.dropWhile_eq_nil_iff.mpr hAfter
    rw [hNothing]
    rfl
  | cons c core =>
    have hFirst : ¬p c = true := by simpa using h.first c rfl
    rw [List.cons_append, List.dropWhile_cons_of_neg hFirst]
    exact hEnd

/-- A plain numeral with blanks around it is trimmed to the numeral. -/
theorem trim_toDigits {before after : Text} (hBefore : ∀ c ∈ before, Unicode.isBlank c = true)
    (hAfter : ∀ c ∈ after, Unicode.isBlank c = true) (n : Nat) :
    (before ++ Nat.toDigits 10 n ++ after).trim Unicode.isBlank = Nat.toDigits 10 n := by
  have hInk : ∀ c ∈ Nat.toDigits 10 n, Unicode.isBlank c = false := fun c hMem =>
    Unicode.isBlank_eq_false_of_isDigit (Nat.isDigit_of_mem_toDigits (by decide) (by decide) hMem)
  refine IsCore.trim_eq ⟨⟨before, after, hBefore, hAfter, rfl⟩, ?_, ?_⟩
  · exact fun c hFirst => hInk c (List.mem_of_head? hFirst)
  · exact fun c hLast => hInk c (List.mem_of_getLast? hLast)

end Text

/-! ## The step -/

namespace Settings

/-- A value asks for the rows that its core spells, if there is at least one. -/
theorem wheelLines?_eq_some_iff {value : Text} {v : Int} :
    wheelLines? value = some v ↔ 1 ≤ v ∧ Numeral.Spells (value.trim Unicode.isBlank) v := by
  rw [wheelLines?, Option.filter_eq_some_iff, Numeral.int?_eq_some_iff, decide_eq_true_eq, and_comm]

/-- A plain numeral asks for its number, whatever blanks stand around it. -/
theorem wheelLines?_toDigits {n : Nat} (hPositive : 1 ≤ n)
    (hDigits : (Nat.toDigits 10 n).length ≤ Numeral.digitLimit) {before after : Text}
    (hBefore : ∀ c ∈ before, Unicode.isBlank c = true)
    (hAfter : ∀ c ∈ after, Unicode.isBlank c = true) :
    wheelLines? (before ++ Nat.toDigits 10 n ++ after) = some (n : Int) := by
  rw [wheelLines?_eq_some_iff, Text.trim_toDigits hBefore hAfter]
  exact ⟨Int.ofNat_le.mpr hPositive, Numeral.spells_toDigits hDigits⟩

/-- An absent value asks for as much as an empty one. -/
theorem wheelLines_ofEnvironment (env : Environment) :
    (ofEnvironment env).wheelLines =
      (wheelLines? ((env "PI_SCROLL_WHEEL_LINES").getD [])).getD defaultWheelLines := by
  unfold ofEnvironment
  cases env "PI_SCROLL_WHEEL_LINES" with
  | none => rfl
  | some value => rfl

theorem one_le_wheelLines (env : Environment) : 1 ≤ (ofEnvironment env).wheelLines := by
  rw [wheelLines_ofEnvironment]
  cases hAsked : wheelLines? ((env "PI_SCROLL_WHEEL_LINES").getD []) with
  | none => decide
  | some v => exact (wheelLines?_eq_some_iff.mp hAsked).1

/-- **The wheel step is a numeral of at least one, or the default.** It is what the core of the
variable's value spells, if that is a numeral of at least one, and the default otherwise, so it is at
least one in any environment. The plain numeral of each such number is read back, whatever blanks
stand around it. The variable of the step is the only one that matters to it, and it matters to
neither flag. -/
theorem wheelLines_reads_numerals :
    (∀ env : Environment,
      let value := (env "PI_SCROLL_WHEEL_LINES").getD []
      let raw := value.trim Unicode.isBlank
      let lines := (ofEnvironment env).wheelLines
      Text.IsCore Unicode.isBlank value raw ∧
        (∀ v, 1 ≤ v → Numeral.Spells raw v → lines = v) ∧
        ((∀ v, Numeral.Spells raw v → v < 1) → lines = defaultWheelLines) ∧ 1 ≤ lines) ∧
      (∀ (env : Environment) (n : Nat) (before after : Text), 1 ≤ n →
        (Nat.toDigits 10 n).length ≤ Numeral.digitLimit →
        (∀ c ∈ before, Unicode.isBlank c = true) → (∀ c ∈ after, Unicode.isBlank c = true) →
        env "PI_SCROLL_WHEEL_LINES" = some (before ++ Nat.toDigits 10 n ++ after) →
          (ofEnvironment env).wheelLines = n) ∧
      (∀ env other : Environment,
        other "PI_SCROLL_WHEEL_LINES" = env "PI_SCROLL_WHEEL_LINES" →
          (ofEnvironment other).wheelLines = (ofEnvironment env).wheelLines) ∧
      ∀ env other : Environment,
        (∀ name, name ≠ "PI_SCROLL_WHEEL_LINES" → other name = env name) →
          (ofEnvironment other).scrollEnabled = (ofEnvironment env).scrollEnabled ∧
            (ofEnvironment other).mouseTracking = (ofEnvironment env).mouseTracking := by
  refine ⟨?_, ?_, ?_, ?_⟩
  · intro env value raw lines
    refine ⟨Text.isCore_trim _ value, ?_, ?_, one_le_wheelLines env⟩
    · intro v hPositive hSpells
      have hAsked : wheelLines? value = some v := wheelLines?_eq_some_iff.mpr ⟨hPositive, hSpells⟩
      show (ofEnvironment env).wheelLines = v
      rw [wheelLines_ofEnvironment, hAsked]
      rfl
    · intro hNever
      have hAsked : wheelLines? value = none := by
        refine Option.eq_none_iff_forall_ne_some.mpr fun v hSome => ?_
        obtain ⟨hPositive, hSpells⟩ := wheelLines?_eq_some_iff.mp hSome
        exact absurd (hNever v hSpells) (Int.not_lt.mpr hPositive)
      show (ofEnvironment env).wheelLines = defaultWheelLines
      rw [wheelLines_ofEnvironment, hAsked]
      rfl
  · intro env n before after hPositive hDigits hBefore hAfter hValue
    rw [wheelLines_ofEnvironment, hValue, Option.getD_some,
      wheelLines?_toDigits hPositive hDigits hBefore hAfter]
    rfl
  · intro env other hSame
    rw [wheelLines_ofEnvironment, wheelLines_ofEnvironment, hSame]
  · intro env other hSame
    have hMode := hSame "PI_SCROLL_MODE" (by decide)
    have hMouse := hSame "PI_MOUSE_TRACKING" (by decide)
    simp [ofEnvironment, flag, hMode, hMouse]

/-- An environment with a value for the variable of the step, and one for all other variables. -/
def sampleEnvironment (lines others : String) : Environment := fun name =>
  some (if name = "PI_SCROLL_WHEEL_LINES" then lines.toList else others.toList)

/-- A signed numeral of two scripts in wide blanks, one with two underscores in a row, and a plain one.
-/
theorem wheelLines_reads_numerals_mixedScripts :
    let mixed := sampleEnvironment "\u3000+\u0661_\uff12\n" "yes"
    let doubled := sampleEnvironment "1__2" "yes"
    let plain := sampleEnvironment "\t250 " "no"
    (1 ≤ (12 : Int) ∧ Numeral.Spells "+\u0661_\uff12".toList 12 ∧
        (ofEnvironment mixed).wheelLines = 12) ∧
      ((∀ v, Numeral.Spells "1__2".toList v → v < 1) ∧
        (ofEnvironment doubled).wheelLines = defaultWheelLines) ∧
      (1 ≤ 250 ∧ (Nat.toDigits 10 250).length ≤ Numeral.digitLimit ∧
        plain "PI_SCROLL_WHEEL_LINES" = some (['\t'] ++ Nat.toDigits 10 250 ++ [' ']) ∧
        (ofEnvironment plain).wheelLines = 250) ∧
      (ofEnvironment (sampleEnvironment "1__2" "no")).wheelLines = (ofEnvironment doubled).wheelLines ∧
      (ofEnvironment mixed).scrollEnabled = (ofEnvironment doubled).scrollEnabled := by
  intro mixed doubled plain
  obtain ⟨hReads, hPlain, hAlone, hFlags⟩ := wheelLines_reads_numerals
  have hMixed : Numeral.Spells "+\u0661_\uff12".toList 12 :=
    Numeral.int?_eq_some_iff.mp (by decide +kernel)
  have hDoubled : ∀ v, Numeral.Spells "1__2".toList v → v < 1 := by
    intro v hSpells
    have hRead := Numeral.int?_eq_some_iff.mpr hSpells
    have hNone : Numeral.int? "1__2".toList = none := by decide +kernel
    rw [hNone] at hRead
    cases hRead
  have hDigits : (Nat.toDigits 10 250).length ≤ Numeral.digitLimit := by decide +kernel
  have hValue : plain "PI_SCROLL_WHEEL_LINES" =
      some (['\t'] ++ Nat.toDigits 10 250 ++ [' ']) := by decide +kernel
  refine ⟨⟨by decide, hMixed, ?_⟩, ⟨hDoubled, ?_⟩, ⟨by decide, hDigits, hValue, ?_⟩, ?_, ?_⟩
  · obtain ⟨-, hAccepts, -, -⟩ := hReads mixed
    refine hAccepts 12 (by decide) ?_
    have hRaw : ((mixed "PI_SCROLL_WHEEL_LINES").getD []).trim Unicode.isBlank =
        "+\u0661_\uff12".toList := by decide +kernel
    rwa [hRaw]
  · obtain ⟨-, -, hRefuses, -⟩ := hReads doubled
    refine hRefuses ?_
    have hRaw : ((doubled "PI_SCROLL_WHEEL_LINES").getD []).trim Unicode.isBlank =
        "1__2".toList := by decide +kernel
    rwa [hRaw]
  · have hBefore : ∀ c ∈ ['\t'], Unicode.isBlank c = true :=
      List.forall_mem_singleton.mpr (by decide +kernel)
    have hAfter : ∀ c ∈ [' '], Unicode.isBlank c = true :=
      List.forall_mem_singleton.mpr (by decide +kernel)
    exact hPlain plain 250 ['\t'] [' '] (by decide) hDigits hBefore hAfter hValue
  · exact hAlone doubled _ rfl
  · refine (hFlags doubled mixed ?_).1
    intro name hOther
    simp [mixed, doubled, sampleEnvironment, hOther]

end Settings

end ScrollPane
