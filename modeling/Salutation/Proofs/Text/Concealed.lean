import Salutation.Text.Concealed

/-!
# Which characters are concealed

A character is concealed exactly if one of the ranges of the table holds it (`isConcealed_iff`): the
search that stops early finds every range, and the short cut for ASCII agrees with the table.  Among
the concealed characters are all those that could end a line, begin a terminal sequence, turn the
direction of the text or hide in it (`hazards`), the control characters first of all.
-/

namespace Salutation

theorem ascending_concealedRanges : CodeRanges.ascending 0 concealedRanges = true := by
  decide +kernel

/-- Below the second range only the first one counts. -/
theorem contains_concealedRanges_of_lt {n : Nat} (h : n < 0x7F) :
    concealedRanges.contains n = decide (n < 0x20) := by
  have hzero : ¬ n < 0 := by omega
  unfold concealedRanges
  rw [CodeRanges.contains, CodeRanges.contains, if_neg hzero, if_pos h, Bool.or_false]
  exact decide_eq_decide.mpr (by omega)

/-- **A character is concealed exactly if the table holds it.** -/
theorem isConcealed_iff {c : Char} :
    isConcealed c = true ↔ ∃ r ∈ concealedRanges, r.1 ≤ c.toNat ∧ c.toNat ≤ r.2 := by
  rw [← CodeRanges.contains_iff ascending_concealedRanges, isConcealed]
  split
  · next h => rw [contains_concealedRanges_of_lt h]
  · exact Iff.rfl

/-- The characters that could do harm where a text is read: the control characters, the soft hyphen,
the characters without width, the separators of lines and paragraphs, the marks that turn the
direction of the text, and the byte order mark. -/
def hazards : CodeRanges :=
  [(0x00, 0x1F), (0x7F, 0x9F), (0xAD, 0xAD), (0x200B, 0x200F), (0x2028, 0x202E), (0x2066, 0x2069),
    (0xFEFF, 0xFEFF)]

/-- Each of the hazards lies in one range of the table. -/
theorem exists_concealedRange_of_mem_hazards :
    ∀ r ∈ hazards, ∃ s ∈ concealedRanges, s.1 ≤ r.1 ∧ r.2 ≤ s.2 := by
  decide +kernel

/-- **Every hazard is concealed.** -/
theorem isConcealed_of_mem_hazards {c : Char} {r : Nat × Nat} (hr : r ∈ hazards)
    (hc : r.1 ≤ c.toNat ∧ c.toNat ≤ r.2) : isConcealed c = true := by
  obtain ⟨s, hs, hlo, hhi⟩ := exists_concealedRange_of_mem_hazards r hr
  exact isConcealed_iff.mpr ⟨s, hs, Nat.le_trans hlo hc.1, Nat.le_trans hc.2 hhi⟩

/-- The control characters: the codes below the space, and those from delete on up to `0x9F`. -/
def IsControl (c : Char) : Prop := c.toNat < 0x20 ∨ (0x7F ≤ c.toNat ∧ c.toNat ≤ 0x9F)

theorem isConcealed_of_isControl {c : Char} (h : IsControl c) : isConcealed c = true := by
  rcases h with h | h
  · exact isConcealed_of_mem_hazards (r := (0x00, 0x1F)) (by decide) ⟨Nat.zero_le _, by omega⟩
  · exact isConcealed_of_mem_hazards (r := (0x7F, 0x9F)) (by decide) h

end Salutation
