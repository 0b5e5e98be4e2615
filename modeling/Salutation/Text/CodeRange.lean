/-!
# Sets of characters as code ranges

A property of characters that comes as data is an ascending list of code ranges.  Membership walks
the list and stops at the first range that lies above the character.
-/

namespace Salutation

/-- Inclusive ranges of code points, ascending and apart from one another. -/
abbrev CodeRanges := List (Nat × Nat)

namespace CodeRanges

/-- Whether a code point lies in one of the ranges.  Those above it are not looked at. -/
def contains : CodeRanges → Nat → Bool
  | [], _ => false
  | (lo, hi) :: rs, n => if n < lo then false else n ≤ hi || contains rs n

/-- Whether the ranges are non-empty, ascending and apart, each beginning at `start` or above. -/
def ascending : Nat → CodeRanges → Bool
  | _, [] => true
  | start, (lo, hi) :: rs => start ≤ lo && lo ≤ hi && ascending (hi + 2) rs

/-- **Stopping early loses nothing.**  In an ascending list a code point is found exactly when one
of the ranges holds it. -/
theorem contains_iff {start : Nat} {rs : CodeRanges} (h : ascending start rs = true) (n : Nat) :
    contains rs n = true ↔ ∃ r ∈ rs, r.1 ≤ n ∧ n ≤ r.2 := by
  induction rs generalizing start with
  | nil => simp [contains]
  | cons r rs ih =>
    obtain ⟨lo, hi⟩ := r
    simp only [ascending, Bool.and_eq_true, decide_eq_true_eq] at h
    obtain ⟨⟨_, hle⟩, hrest⟩ := h
    -- every later range begins above `hi`
    have above : ∀ {s : Nat} {qs : CodeRanges}, ascending s qs = true → ∀ q ∈ qs, s ≤ q.1 := by
      intro s qs hq
      induction qs generalizing s with
      | nil => simp
      | cons q qs ihq =>
        simp only [ascending, Bool.and_eq_true, decide_eq_true_eq] at hq
        intro q' hq'
        rcases List.mem_cons.mp hq' with rfl | hmem
        · exact hq.1.1
        · have := ihq hq.2 q' hmem
          omega
    unfold contains
    by_cases hlo : n < lo
    · rw [if_pos hlo]
      simp only [Bool.false_eq_true, List.mem_cons, false_iff, not_exists, not_and]
      rintro q (rfl | hq) h1
      · omega
      · have := above hrest q hq
        omega
    · rw [if_neg hlo, Bool.or_eq_true, decide_eq_true_eq, ih hrest]
      constructor
      · rintro (h | ⟨q, hq, h⟩)
        · exact ⟨(lo, hi), List.mem_cons_self, by omega, h⟩
        · exact ⟨q, List.mem_cons_of_mem _ hq, h⟩
      · rintro ⟨q, hq, h1, h2⟩
        rcases List.mem_cons.mp hq with rfl | hmem
        · exact Or.inl h2
        · exact Or.inr ⟨q, hmem, h1, h2⟩

end CodeRanges

end Salutation
