import Salutation.Text.Slice

/-!
# Offsets between characters

A text can be cut at a byte offset that stands between two of its characters (`Text.IsBoundary`),
and then the cut gives just the characters on either side (`dropBytes?_append`, `takeBytes?_append`,
`between?_append`).
-/

namespace Salutation

namespace Utf8

theorem size_append (u v : Text) : size (u ++ v) = size u + size v := by
  induction u with
  | nil => exact (Nat.zero_add _).symm
  | cons c u ih => rw [List.cons_append, size, size, ih, Nat.add_assoc]

theorem eq_nil_of_size_eq_zero {t : Text} (h : size t = 0) : t = [] := by
  cases t with
  | nil => rfl
  | cons c t =>
    have hpos := c.utf8Size_pos
    rw [size] at h
    omega

end Utf8

namespace Text

open Utf8 (size)

/-- Whether an offset stands between two characters of a text, or at one of its ends. -/
def IsBoundary (t : Text) (n : Nat) : Prop := ∃ u v, t = u ++ v ∧ size u = n

private theorem exists_size_cons (c : Char) (u : Text) :
    ∃ n, size (c :: u) = n + 1 ∧ c.utf8Size ≤ n + 1 ∧ n + 1 - c.utf8Size = size u := by
  have hpos := c.utf8Size_pos
  refine ⟨c.utf8Size - 1 + size u, ?_, ?_, ?_⟩
  · rw [size]
    omega
  · omega
  · omega

theorem dropBytes?_append (u v : Text) : dropBytes? (u ++ v) (size u) = some v := by
  induction u with
  | nil => cases v <;> rfl
  | cons c u ih =>
    obtain ⟨n, hn, hle, hrest⟩ := exists_size_cons c u
    rw [hn, List.cons_append, dropBytes?, if_pos hle, hrest, ih]

theorem takeBytes?_append (u v : Text) : takeBytes? (u ++ v) (size u) = some u := by
  induction u with
  | nil => cases v <;> rfl
  | cons c u ih =>
    obtain ⟨n, hn, hle, hrest⟩ := exists_size_cons c u
    rw [hn, List.cons_append, takeBytes?, if_pos hle, hrest, ih]
    rfl

/-- **The part between two offsets** is what stands between them. -/
theorem between?_append (u m v : Text) :
    between? (u ++ m ++ v) (size u) (size (u ++ m)) = some m := by
  rw [between?, List.append_assoc, dropBytes?_append, Option.bind_some, Utf8.size_append,
    Nat.add_sub_cancel_left, takeBytes?_append]

variable {t : Text} {lo hi : Nat}

/-- **A text can be cut between two characters.** -/
theorem exists_dropBytes?_eq_some (h : IsBoundary t lo) : ∃ v, dropBytes? t lo = some v := by
  obtain ⟨u, v, rfl, rfl⟩ := h
  exact ⟨v, dropBytes?_append u v⟩

theorem exists_between?_eq_some (hlo : IsBoundary t lo) (hhi : IsBoundary t hi) (hle : lo ≤ hi) :
    ∃ m, between? t lo hi = some m := by
  obtain ⟨u, v, rfl, rfl⟩ := hlo
  obtain ⟨u', v', heq, rfl⟩ := hhi
  -- the longer beginning goes on where the shorter one ends
  have hmiddle : ∃ m, u' = u ++ m ∧ v = m ++ v' := by
    rcases List.append_eq_append_iff.mp heq with ⟨m, hu, hv⟩ | ⟨m, hu, hv⟩
    · exact ⟨m, hu, hv⟩
    · rw [hu, Utf8.size_append] at hle
      have hm : m = [] := Utf8.eq_nil_of_size_eq_zero (by omega)
      rw [hm, List.append_nil] at hu
      rw [hm, List.nil_append] at hv
      exact ⟨[], by rw [hu, List.append_nil], hv.symm⟩
  obtain ⟨m, rfl, rfl⟩ := hmiddle
  refine ⟨m, ?_⟩
  rw [← List.append_assoc]
  exact between?_append u m v'

end Text

end Salutation
