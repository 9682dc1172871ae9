/-!
# Range tables

A Unicode property is stored as the ranges of code points that have it, in ascending order. Look-up
stops at the first range that starts beyond the code point, so characters of the low blocks are
found, or missed, at once. `contains_iff` says that this loses nothing on an ascending table; every
table of the library is checked to be one.
-/

namespace ScrollPane.Unicode

/-- Inclusive ranges of code points, ascending and disjoint. -/
abbrev RangeTable := List (Nat × Nat)

namespace RangeTable

/-- The ranges lie at or above `low`, each in order and each beyond the one before it. -/
def AscendingFrom (low : Nat) : RangeTable → Prop
  | [] => True
  | (lo, hi) :: rest => low ≤ lo ∧ lo ≤ hi ∧ AscendingFrom (hi + 1) rest

/-- Whether a table is ascending is decided in one pass. -/
def decideAscendingFrom (low : Nat) : (t : RangeTable) → Decidable (AscendingFrom low t)
  | [] => isTrue trivial
  | (_, hi) :: rest =>
    have := decideAscendingFrom (hi + 1) rest
    inferInstanceAs (Decidable (_ ∧ _ ∧ _))

/-- The ranges are in order and disjoint. -/
def Ascending (t : RangeTable) : Prop := AscendingFrom 0 t

instance (t : RangeTable) : Decidable t.Ascending := decideAscendingFrom 0 t

/-- Whether `n` lies in one of the ranges. -/
def contains : RangeTable → Nat → Bool
  | [], _ => false
  | (lo, hi) :: rest, n => if n < lo then false else n ≤ hi || contains rest n

theorem AscendingFrom.le {low : Nat} {t : RangeTable} (h : AscendingFrom low t) :
    ∀ r ∈ t, low ≤ r.1 := by
  induction t generalizing low with
  | nil => simp
  | cons r rest ih =>
    obtain ⟨h₁, h₂, h₃⟩ := h
    intro s hs
    rcases List.mem_cons.mp hs with rfl | hs
    · exact h₁
    · exact Nat.le_trans (Nat.le_trans h₁ h₂) (Nat.le_of_succ_le (ih h₃ s hs))

theorem AscendingFrom.contains_iff {low n : Nat} {t : RangeTable} (h : AscendingFrom low t) :
    t.contains n = true ↔ ∃ r ∈ t, r.1 ≤ n ∧ n ≤ r.2 := by
  induction t generalizing low with
  | nil => simp [contains]
  | cons r rest ih =>
    obtain ⟨lo, hi⟩ := r
    obtain ⟨-, h₂, h₃⟩ := h
    have hrest := ih h₃
    by_cases hn : n < lo
    · -- every later range starts beyond `hi`, so beyond `n`
      have hlate : ¬∃ r ∈ rest, r.1 ≤ n ∧ n ≤ r.2 := by
        rintro ⟨r, hr, hr₁, -⟩
        have := h₃.le r hr
        omega
      have hn' : ¬lo ≤ n := by omega
      simp [contains, hn, hn', hlate]
    · have hn' : lo ≤ n := by omega
      simp [contains, hn, hn', hrest]

/-- On an ascending table the early stop loses nothing. -/
theorem Ascending.contains_iff {n : Nat} {t : RangeTable} (h : t.Ascending) :
    t.contains n = true ↔ ∃ r ∈ t, r.1 ≤ n ∧ n ≤ r.2 :=
  AscendingFrom.contains_iff h

end RangeTable

end ScrollPane.Unicode
