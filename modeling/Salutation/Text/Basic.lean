/-!
# Texts and byte strings

The program reads byte strings (arguments, environment values) and writes texts.  A text is a list
of characters, a byte string a list of bytes, so that every function on them is a recursion on a
list.  This module names the two and holds what the other modules share: what is known of a list that
is split at a separator, and how a number is written.
-/

namespace Salutation

/-- A text, character by character. -/
abbrev Text := List Char

/-- A byte string, as the operating system hands it over.  It need not be the encoding of a text. -/
abbrev Bytes := List UInt8

/-- The pieces of a list that is split hold members of it, and not the separator. -/
theorem mem_of_mem_splitOn {α : Type} [BEq α] [LawfulBEq α] {sep : α} {as : List α} :
    ∀ p ∈ as.splitOn sep, ∀ a ∈ p, a ∈ as ∧ a ≠ sep := by
  induction as with
  | nil => simp
  | cons b as ih =>
    obtain ⟨q, qs, hqs⟩ := List.exists_cons_of_ne_nil (List.splitOn_ne_nil sep as)
    have hlater : ∀ p ∈ q :: qs, ∀ a ∈ p, a ∈ b :: as ∧ a ≠ sep :=
      fun p hp a ha => (ih p (hqs ▸ hp) a ha).imp_left (List.mem_cons_of_mem b)
    rw [List.splitOn_cons_eq_if_modifyHead, hqs]
    by_cases hb : (b == sep) = true
    · rw [if_pos hb]
      exact List.forall_mem_cons.mpr ⟨fun _ ha => absurd ha List.not_mem_nil, hlater⟩
    · rw [if_neg hb, List.modifyHead_cons]
      obtain ⟨hfirst, hlater⟩ := List.forall_mem_cons.mp hlater
      have hne : b ≠ sep := fun heq => hb (beq_iff_eq.mpr heq)
      refine List.forall_mem_cons.mpr ⟨?_, hlater⟩
      exact List.forall_mem_cons.mpr ⟨⟨List.mem_cons_self, hne⟩, hfirst⟩

theorem not_mem_of_mem_splitOn {α : Type} [BEq α] [LawfulBEq α] {sep : α} {as p : List α}
    (hp : p ∈ as.splitOn sep) : sep ∉ p :=
  fun hmem => (mem_of_mem_splitOn p hp sep hmem).2 rfl

/-- A list without separators in front lengthens the first piece. -/
theorem splitOn_append_of_not_mem {α : Type} [BEq α] [LawfulBEq α] {sep : α} {p : List α}
    (h : sep ∉ p) (as : List α) :
    (p ++ as).splitOn sep = (as.splitOn sep).modifyHead (p ++ ·) := by
  induction p with
  | nil => exact congrFun List.modifyHead_id.symm (as.splitOn sep)
  | cons b p ih =>
    have hne : ¬ (b == sep) = true :=
      fun heq => List.ne_of_not_mem_cons h (beq_iff_eq.mp heq).symm
    rw [List.cons_append, List.splitOn_cons_eq_if_modifyHead, if_neg hne,
      ih (List.not_mem_of_not_mem_cons h), List.modifyHead_modifyHead]
    rfl

/-- Items with a separator between them are the first item, and each later one behind a
separator. -/
theorem intercalate_cons {α : Type} (sep x : List α) (xs : List (List α)) :
    sep.intercalate (x :: xs) = x ++ xs.flatMap (sep ++ ·) := by
  induction xs generalizing x with
  | nil => rw [List.intercalate_singleton, List.flatMap_nil, List.append_nil]
  | cons y ys ih =>
    rw [List.intercalate_cons_cons, ih, List.flatMap_cons]
    simp only [List.append_assoc]

/-- **Lines are found again**: a list that holds a separator behind each of some lists is split into
these, and an empty piece behind the last separator. -/
theorem splitOn_flatMap {α : Type} [BEq α] [LawfulBEq α] {sep : α} {lines : List (List α)}
    (h : ∀ l ∈ lines, sep ∉ l) : (lines.flatMap (· ++ [sep])).splitOn sep = lines ++ [[]] := by
  induction lines with
  | nil => rfl
  | cons l lines ih =>
    obtain ⟨hl, hlines⟩ := List.forall_mem_cons.mp h
    rw [List.flatMap_cons, List.append_assoc, List.singleton_append,
      List.splitOn_append_cons_self_of_not_mem hl, ih hlines, List.cons_append]

/-- Decimal digits of a number, with a sign in front of a negative one. -/
def Text.ofInt : Int → Text
  | .ofNat n => Nat.toDigits 10 n
  | .negSucc n => '-' :: Nat.toDigits 10 (n + 1)

end Salutation
