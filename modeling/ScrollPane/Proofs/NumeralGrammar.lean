import ScrollPane.Numeral
import Mathlib.Data.List.Forall2
import Mathlib.Data.Nat.Digits.Defs

/-!
# The grammar of numerals

Which texts are integer numerals, apart from how they are read, and which numbers they denote by
position. The digits of a numeral form groups, none of them empty, with one underscore between
neighbours; each digit may be of another script. No digit is a sign or an underscore, so a text is a
numeral in one way at most.

## Main definitions

- `Unicode.IsDigit`: the decimal digits of all scripts, with their values;
- `Numeral.SpellsDigits`: digits in groups;
- `Numeral.Spells`: the integer that a numeral denotes.

## Main statements

- `Unicode.digit?_eq_some_iff`, `Numeral.digits?_eq_some_iff`: what is read as digits;
- `Numeral.int?_eq_some_iff`: a text is read as the integer it spells;
- `Numeral.spells_toDigits`: the plain numeral of a number spells it.
-/

namespace ScrollPane

/-! ## Digits -/

namespace Unicode

/-- The character is a decimal digit of that value, as many places after the zero of its script. -/
def IsDigit (c : Char) (d : Nat) : Prop := ∃ first ∈ zeros, c.toNat = first + d ∧ d ≤ 9

/-- The digits of one script end before those of another begin. -/
theorem zeros_apart : ∀ a ∈ zeros, ∀ b ∈ zeros, a = b ∨ a + 10 ≤ b ∨ b + 10 ≤ a := by
  decide +kernel

theorem digit?_eq_some_iff {c : Char} {d : Nat} : digit? c = some d ↔ IsDigit c d := by
  rw [digit?, Option.map_eq_some_iff]
  constructor
  · rintro ⟨first, hFound, rfl⟩
    have hMem := List.mem_of_find?_eq_some hFound
    have hRange := List.find?_some hFound
    simp only [Bool.and_eq_true, decide_eq_true_eq] at hRange
    exact ⟨first, hMem, by omega, by omega⟩
  · rintro ⟨first, hMem, hChar, hValue⟩
    have hSome : (zeros.find? fun first => first ≤ c.toNat && c.toNat ≤ first + 9).isSome := by
      rw [List.find?_isSome]
      refine ⟨first, hMem, ?_⟩
      simp only [Bool.and_eq_true, decide_eq_true_eq]
      omega
    obtain ⟨other, hFound⟩ := Option.isSome_iff_exists.mp hSome
    refine ⟨other, hFound, ?_⟩
    have hRange := List.find?_some hFound
    simp only [Bool.and_eq_true, decide_eq_true_eq] at hRange
    -- two scripts that both have the character are one
    have hApart := zeros_apart other (List.mem_of_find?_eq_some hFound) first hMem
    omega

/-- The digits of the first script. -/
theorem isDigit_of_ascii {c : Char} (h : c.isDigit = true) : IsDigit c (c.toNat - '0'.toNat) := by
  obtain ⟨hLower, hUpper⟩ := Char.isDigit_iff_toNat.mp h
  have hNine : '9'.toNat = '0'.toNat + 9 := rfl
  exact ⟨'0'.toNat, by decide, by omega, by omega⟩

end Unicode

namespace Numeral

open Unicode (IsDigit digit? digit?_eq_some_iff)

/-! ## Digits in groups -/

/-- The text is groups of digits, none of them empty, with one underscore between neighbours, and these
are the values of the digits. -/
def SpellsDigits (t : Text) (ds : List Nat) : Prop :=
  ∃ groups : List Text, groups ≠ [] ∧ (∀ g ∈ groups, g ≠ []) ∧ t = ['_'].intercalate groups ∧
    List.Forall₂ IsDigit groups.flatten ds

theorem intercalate_cons_head (c : Char) (g : Text) (groups : List Text) :
    ['_'].intercalate ((c :: g) :: groups) = c :: ['_'].intercalate (g :: groups) := by
  cases groups with
  | nil => simp
  | cons next groups => simp [List.intercalate_cons_cons]

theorem SpellsDigits.single {c : Char} {d : Nat} (h : IsDigit c d) : SpellsDigits [c] [d] :=
  ⟨[[c]], by simp, by simp, by simp, by simpa using h⟩

/-- A digit begins a group of its own before an underscore. -/
theorem SpellsDigits.underscore {c : Char} {d : Nat} {t : Text} {ds : List Nat} (h : IsDigit c d)
    (hRest : SpellsDigits t ds) : SpellsDigits (c :: '_' :: t) (d :: ds) := by
  obtain ⟨groups, hSome, hFull, rfl, hDigits⟩ := hRest
  refine ⟨[c] :: groups, by simp, ?_, ?_, .cons h hDigits⟩
  · exact List.forall_mem_cons.mpr ⟨by simp, hFull⟩
  · obtain ⟨g, groups, rfl⟩ := List.exists_cons_of_ne_nil hSome
    simp [List.intercalate_cons_cons]

/-- A digit joins the group that comes next. -/
theorem SpellsDigits.cons {c : Char} {d : Nat} {t : Text} {ds : List Nat} (h : IsDigit c d)
    (hRest : SpellsDigits t ds) : SpellsDigits (c :: t) (d :: ds) := by
  obtain ⟨groups, hSome, hFull, rfl, hDigits⟩ := hRest
  obtain ⟨g, groups, rfl⟩ := List.exists_cons_of_ne_nil hSome
  refine ⟨(c :: g) :: groups, by simp, ?_, (intercalate_cons_head c g groups).symm, .cons h hDigits⟩
  exact List.forall_mem_cons.mpr ⟨by simp, (List.forall_mem_cons.mp hFull).2⟩

/-- Where a digit and what comes after it are both read, the digit comes first. -/
theorem exists_digit_of_read {c : Char} {rest : Text} {ds : List Nat}
    (h : ((digit? c).bind fun d => (digits? rest).bind fun more => some (d :: more)) = some ds) :
    ∃ d more, IsDigit c d ∧ digits? rest = some more ∧ ds = d :: more := by
  obtain ⟨d, hDigit, h⟩ := Option.bind_eq_some_iff.mp h
  obtain ⟨more, hRest, h⟩ := Option.bind_eq_some_iff.mp h
  exact ⟨d, more, digit?_eq_some_iff.mp hDigit, hRest, (Option.some.inj h).symm⟩

theorem spellsDigits_of_digits? {t : Text} {ds : List Nat} (h : digits? t = some ds) :
    SpellsDigits t ds := by
  fun_induction digits? t generalizing ds with
  | case1 => cases h
  | case2 c =>
    obtain ⟨d, hDigit, rfl⟩ := Option.map_eq_some_iff.mp h
    exact .single (digit?_eq_some_iff.mp hDigit)
  | case3 c rest ih =>
    obtain ⟨d, more, hDigit, hRest, rfl⟩ := exists_digit_of_read h
    exact .underscore hDigit (ih hRest)
  | case4 c rest _ _ ih =>
    obtain ⟨d, more, hDigit, hRest, rfl⟩ := exists_digit_of_read h
    exact .cons hDigit (ih hRest)

theorem digits?_underscore {c : Char} {d : Nat} {t : Text} {ds : List Nat}
    (hDigit : digit? c = some d) (hRest : digits? t = some ds) :
    digits? (c :: '_' :: t) = some (d :: ds) := by
  simp [digits?, hDigit, hRest]

theorem digits?_cons {c next : Char} {d : Nat} {t : Text} {ds : List Nat} (hNext : next ≠ '_')
    (hDigit : digit? c = some d) (hRest : digits? (next :: t) = some ds) :
    digits? (c :: next :: t) = some (d :: ds) := by
  rw [digits?]
  · simp [hDigit, hRest]
  · simp
  · simpa using hNext

theorem ne_underscore_of_isDigit {c : Char} {d : Nat} (h : IsDigit c d) : c ≠ '_' := by
  rintro rfl
  have hFound := digit?_eq_some_iff.mpr h
  have hNone : digit? '_' = none := by decide
  rw [hNone] at hFound
  cases hFound

/-- A group is read digit by digit up to its last one, which is read together with what follows the
group. -/
theorem digits?_group {rest others : Text}
    (hLast : ∀ c d more, IsDigit c d → List.Forall₂ IsDigit others more →
      digits? (c :: rest) = some (d :: more))
    {c : Char} {g : Text} {ds : List Nat} (hDigits : List.Forall₂ IsDigit (c :: g ++ others) ds) :
    digits? (c :: g ++ rest) = some ds := by
  induction g generalizing c ds with
  | nil =>
    obtain ⟨d, more, hDigit, hOthers, rfl⟩ := List.forall₂_cons_left_iff.mp hDigits
    exact hLast c d more hDigit hOthers
  | cons next g ih =>
    obtain ⟨d, more, hDigit, hRest, rfl⟩ := List.forall₂_cons_left_iff.mp hDigits
    obtain ⟨_, _, hNext, -, -⟩ := List.forall₂_cons_left_iff.mp hRest
    exact digits?_cons (ne_underscore_of_isDigit hNext) (digit?_eq_some_iff.mpr hDigit) (ih hRest)

/-- Groups of digits are read one after the other. -/
theorem digits?_intercalate {groups : List Text} (hSome : groups ≠ []) (hFull : ∀ g ∈ groups, g ≠ [])
    {ds : List Nat} (hDigits : List.Forall₂ IsDigit groups.flatten ds) :
    digits? (['_'].intercalate groups) = some ds := by
  induction groups generalizing ds with
  | nil => exact absurd rfl hSome
  | cons g groups ih =>
    obtain ⟨hFirst, hMore⟩ := List.forall_mem_cons.mp hFull
    obtain ⟨c, g, rfl⟩ := List.exists_cons_of_ne_nil hFirst
    rw [List.flatten_cons] at hDigits
    cases groups with
    | nil =>
      rw [List.intercalate_singleton, ← List.append_nil (c :: g)]
      refine digits?_group ?_ hDigits
      intro last d more hDigit hNone
      obtain rfl := List.forall₂_nil_left_iff.mp hNone
      simp [digits?, digit?_eq_some_iff.mpr hDigit]
    | cons next groups =>
      rw [List.intercalate_cons_cons, List.append_assoc]
      refine digits?_group ?_ hDigits
      intro last d more hDigit hOthers
      exact digits?_underscore (digit?_eq_some_iff.mpr hDigit) (ih (by simp) hMore hOthers)

/-- A text is read as the digits it spells. -/
theorem digits?_eq_some_iff {t : Text} {ds : List Nat} : digits? t = some ds ↔ SpellsDigits t ds := by
  constructor
  · exact spellsDigits_of_digits?
  · rintro ⟨groups, hSome, hFull, rfl, hDigits⟩
    exact digits?_intercalate hSome hFull hDigits

/-! ## Numbers -/

/-- Digits denote a number by position. -/
theorem value_eq_ofDigits (ds : List Nat) : value ds = Nat.ofDigits 10 ds.reverse := by
  rw [Nat.ofDigits_eq_foldr, List.foldr_reverse, value]
  congr 1
  funext n d
  exact Nat.add_comm _ _

/-- The text is an unsigned numeral with not too many digits, and denotes the number by position. -/
def SpellsNatural (t : Text) (n : Nat) : Prop :=
  ∃ ds, SpellsDigits t ds ∧ ds.length ≤ digitLimit ∧ n = Nat.ofDigits 10 ds.reverse

/-- The text is a numeral and denotes the integer. -/
inductive Spells : Text → Int → Prop
  | unsigned {t : Text} {n : Nat} (h : SpellsNatural t n) : Spells t n
  | plus {t : Text} {n : Nat} (h : SpellsNatural t n) : Spells ('+' :: t) n
  | minus {t : Text} {n : Nat} (h : SpellsNatural t n) : Spells ('-' :: t) (-n)

theorem natural?_eq_some_iff {t : Text} {n : Nat} : natural? t = some n ↔ SpellsNatural t n := by
  rw [natural?, Option.map_eq_some_iff]
  refine exists_congr fun ds => ?_
  rw [Option.filter_eq_some_iff, digits?_eq_some_iff, decide_eq_true_eq, value_eq_ofDigits, and_assoc,
    @eq_comm _ n]

/-- What does not begin with a digit is no unsigned numeral. -/
theorem natural?_cons_of_digit?_eq_none {c : Char} (h : digit? c = none) (t : Text) :
    natural? (c :: t) = none := by
  have hDigits : digits? (c :: t) = none := by
    unfold digits?
    split <;> simp_all
  rw [natural?, hDigits]
  rfl

/-- A text is read as the integer it spells. -/
theorem int?_eq_some_iff {t : Text} {v : Int} : int? t = some v ↔ Spells t v := by
  constructor
  · intro h
    unfold int? at h
    split at h
    · obtain ⟨n, hRest, rfl⟩ := Option.map_eq_some_iff.mp h
      exact .plus (natural?_eq_some_iff.mp hRest)
    · obtain ⟨n, hRest, rfl⟩ := Option.map_eq_some_iff.mp h
      exact .minus (natural?_eq_some_iff.mp hRest)
    · obtain ⟨n, hText, rfl⟩ := Option.map_eq_some_iff.mp h
      exact .unsigned (natural?_eq_some_iff.mp hText)
  · intro h
    cases h with
    | plus hRest => simp [int?, natural?_eq_some_iff.mpr hRest]
    | minus hRest => simp [int?, natural?_eq_some_iff.mpr hRest]
    | unsigned hText =>
      have hNatural := natural?_eq_some_iff.mpr hText
      -- a text that begins with a sign is no unsigned numeral
      unfold int?
      split
      · rw [natural?_cons_of_digit?_eq_none (by decide)] at hNatural
        cases hNatural
      · rw [natural?_cons_of_digit?_eq_none (by decide)] at hNatural
        cases hNatural
      · rw [hNatural]
        rfl

/-! ## Plain numerals -/

/-- The plain numeral of a number spells it, if it does not have too many digits. -/
theorem spells_toDigits {n : Nat} (hDigits : (Nat.toDigits 10 n).length ≤ digitLimit) :
    Spells (Nat.toDigits 10 n) n := by
  let ds := (Nat.toDigits 10 n).map fun c => c.toNat - '0'.toNat
  have hValue : value ds = n := by
    have hChars : value ds = Nat.ofDigitChars 10 (Nat.toDigits 10 n) 0 := List.foldl_map
    rw [hChars, Nat.ofDigitChars_ten_toDigits]
  refine .unsigned ⟨ds, ⟨[Nat.toDigits 10 n], by simp, ?_, by simp, ?_⟩, ?_, ?_⟩
  · exact List.forall_mem_singleton.mpr Nat.toDigits_ne_nil
  · rw [List.flatten_singleton, List.forall₂_map_right_iff, List.forall₂_same]
    intro c hMem
    exact Unicode.isDigit_of_ascii (Nat.isDigit_of_mem_toDigits (by decide) (by decide) hMem)
  · rwa [List.length_map]
  · rw [← value_eq_ofDigits, hValue]

end Numeral

end ScrollPane
