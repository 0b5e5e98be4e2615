import Mathlib.Data.List.TFAE
import Mathlib.Tactic.TFAE
import Salutation.Proofs.Text.Concealed
import Salutation.Proofs.Text.Quoted
import Salutation.Proofs.Text.Slice

/-!
# Which texts are quoted as they are

A character that is no quote and no backslash, and is not concealed, stands for itself; any other
one is written as a backslash and at least one character more (`escape_verbatim_or_not`).  So a text
is never longer than what is written for it, and it is quoted as it is exactly if each of its
characters stands for itself, if there is no backslash in what is written, or if that is no longer
than the text (`escapeAll_tfae`).

What stands for itself need not be copied one character at a time.  `Copying` copies it in
stretches, each from the byte offset where the last escape ended up to the next character that has
to be escaped, and plain characters are passed over without a look at the table.  `copied?_eq` says
that no stretch is cut inside a character and that nothing is left out or copied twice.
-/

namespace Salutation.Quoted

variable {q c : Char} {t : Text}

/-! ### Characters that stand for themselves -/

/-- **A character is written as it is, or behind a backslash.** -/
theorem escape_verbatim_or_not (q c : Char) :
    (StandsForItself q c ∧ escape q c = [c])
      ∨ (¬ StandsForItself q c ∧ ∃ l ls, escape q c = '\\' :: l :: ls) := by
  rcases escape_cases q c with ⟨l, hl, h⟩ | ⟨hquote, h⟩ | ⟨hconcealed, h⟩ | hself
  · refine Or.inr ⟨?_, l, [], h⟩
    rintro ⟨-, hbackslash, hshown⟩
    -- the characters with a letter are the backslash and some of the concealed ones
    rcases eq_of_letter?_eq_some hl with ⟨rfl, -⟩ | ⟨rfl, -⟩ | ⟨rfl, -⟩ | ⟨rfl, -⟩ | ⟨rfl, -⟩
    · exact absurd hshown (by decide)
    · exact absurd hshown (by decide)
    · exact absurd hshown (by decide)
    · exact absurd hshown (by decide)
    · exact hbackslash rfl
  · exact Or.inr ⟨fun hself => hself.1 hquote, q, [], h⟩
  · refine Or.inr ⟨fun hself => ?_, 'u', _, h⟩
    rw [hself.2.2] at hconcealed
    cases hconcealed
  · exact Or.inl hself

theorem escape_of_standsForItself (h : StandsForItself q c) : escape q c = [c] := by
  rcases escape_verbatim_or_not q c with ⟨-, hself⟩ | ⟨hnot, -⟩
  · exact hself
  · exact absurd h hnot

theorem backslash_mem_escape (h : ¬ StandsForItself q c) : '\\' ∈ escape q c := by
  rcases escape_verbatim_or_not q c with ⟨hself, -⟩ | ⟨-, l, ls, hescape⟩
  · exact absurd hself h
  · rw [hescape]
    exact List.mem_cons_self

theorem length_escape_pos (q c : Char) : 1 ≤ (escape q c).length := by
  rcases escape_verbatim_or_not q c with ⟨-, hescape⟩ | ⟨-, l, ls, hescape⟩ <;> rw [hescape]
  · exact Nat.le_refl 1
  · rw [List.length_cons]
    omega

/-- One character is written only for a character that stands for itself. -/
theorem length_escape_eq_one_iff : (escape q c).length = 1 ↔ StandsForItself q c := by
  rcases escape_verbatim_or_not q c with ⟨hself, hescape⟩ | ⟨hnot, l, ls, hescape⟩ <;> rw [hescape]
  · exact iff_of_true rfl hself
  · refine iff_of_false ?_ hnot
    rw [List.length_cons, List.length_cons]
    omega

/-! ### Texts that are quoted as they are -/

theorem escapeAll_cons (q c : Char) (t : Text) :
    escapeAll q (c :: t) = escape q c ++ escapeAll q t := List.flatMap_cons

theorem escapeAll_append (q : Char) (s t : Text) :
    escapeAll q (s ++ t) = escapeAll q s ++ escapeAll q t := List.flatMap_append

theorem escapeAll_concat (q : Char) (t : Text) (c : Char) :
    escapeAll q (t ++ [c]) = escapeAll q t ++ escape q c := by
  rw [escapeAll_append, escapeAll, escapeAll, List.flatMap_singleton]

/-- **A text is never longer than what is written for it.** -/
theorem length_le_length_escapeAll (q : Char) (t : Text) :
    t.length ≤ (escapeAll q t).length := by
  induction t with
  | nil => exact Nat.le_refl 0
  | cons c t ih =>
    have hone := length_escape_pos q c
    rw [escapeAll_cons, List.length_append, List.length_cons]
    omega

theorem escapeAll_eq_self (h : ∀ c ∈ t, StandsForItself q c) : escapeAll q t = t := by
  induction t with
  | nil => rfl
  | cons c t ih =>
    obtain ⟨hc, ht⟩ := List.forall_mem_cons.mp h
    rw [escapeAll_cons, escape_of_standsForItself hc, ih ht, List.singleton_append]

theorem standsForItself_of_length (h : (escapeAll q t).length = t.length) :
    ∀ c ∈ t, StandsForItself q c := by
  induction t with
  | nil => simp
  | cons c t ih =>
    have hone := length_escape_pos q c
    have hrest := length_le_length_escapeAll q t
    rw [escapeAll_cons, List.length_append, List.length_cons] at h
    -- neither the first character nor the others can make up for what the rest has too much
    have hc : (escape q c).length = 1 := by omega
    have ht : (escapeAll q t).length = t.length := by omega
    exact List.forall_mem_cons.mpr ⟨length_escape_eq_one_iff.mp hc, ih ht⟩

/-- **A text is quoted as it is** exactly if there is no backslash in what is written, if that is no
longer than the text, or if every character of the text stands for itself. -/
theorem escapeAll_tfae (q : Char) (t : Text) :
    [escapeAll q t = t, '\\' ∉ escapeAll q t, (escapeAll q t).length = t.length,
      ∀ c ∈ t, StandsForItself q c].TFAE := by
  tfae_have 1 → 3 := congrArg List.length
  tfae_have 3 → 4 := standsForItself_of_length
  tfae_have 4 → 1 := escapeAll_eq_self
  tfae_have 4 → 2 := by
    intro h hmem
    rw [escapeAll_eq_self h] at hmem
    exact (h '\\' hmem).2.1 rfl
  tfae_have 2 → 4 := by
    intro h c hc
    by_contra hnot
    exact h (List.mem_flatMap.mpr ⟨c, hc, backslash_mem_escape hnot⟩)
  tfae_finish

/-! ### Plain characters -/

/-- Whether a character is plain: it belongs to ASCII, can be seen there, and is neither a double
quote nor a backslash. -/
def IsPlain (c : Char) : Prop := 0x20 ≤ c.toNat ∧ c.toNat ≤ 0x7E ∧ c ≠ '"' ∧ c ≠ '\\'

instance (c : Char) : Decidable (IsPlain c) := inferInstanceAs (Decidable (_ ∧ _))

/-- **A plain character stands for itself**, and it takes no table to see that. -/
theorem IsPlain.standsForItself (h : IsPlain c) : StandsForItself '"' c := by
  obtain ⟨hlo, hhi, hquote, hbackslash⟩ := h
  refine ⟨hquote, hbackslash, ?_⟩
  rw [isConcealed, if_pos (by omega)]
  exact decide_eq_false (by omega)

/-! ### Copying in stretches -/

/-- How far a text has been quoted: what is written, and the byte offsets of the stretch that is
still to be copied. -/
structure Copying where
  written : Text := []
  start : Nat := 0
  stop : Nat := 0

namespace Copying

open Utf8 (size)

/-- Writes out the stretch that is still to be copied, if it can be cut out of the text. -/
def flush (t : Text) (w : Copying) : Option Text :=
  (t.between? w.start w.stop).map (w.written ++ ·)

/-- Goes over one character of a text.  A plain one, or one for which one character is written,
makes the stretch longer; at any other one the stretch is written out, and the next one begins
behind it. -/
def next? (t : Text) (w : Copying) (c : Char) : Option Copying :=
  if IsPlain c ∨ (escape '"' c).length = 1 then some { w with stop := w.stop + c.utf8Size }
  else (w.flush t).map fun s => ⟨s ++ escape '"' c, w.stop + c.utf8Size, w.stop + c.utf8Size⟩

/-- **What holds when a part of the text is done**: it is written up to the stretch, and of the
stretch every character stands for itself. -/
def Holds (done : Text) (w : Copying) : Prop :=
  ∃ u m, done = u ++ m ∧ w.written = escapeAll '"' u ∧ (∀ c ∈ m, StandsForItself '"' c)
    ∧ w.start = size u ∧ w.stop = size (u ++ m)

variable {w : Copying} {done : Text}

theorem Holds.flush (h : Holds done w) (rest : Text) :
    w.flush (done ++ rest) = some (escapeAll '"' done) := by
  obtain ⟨u, m, rfl, hwritten, hm, hstart, hstop⟩ := h
  rw [Copying.flush, hstart, hstop, Text.between?_append, Option.map_some, hwritten,
    escapeAll_append, escapeAll_eq_self hm]

theorem size_concat (t : Text) (c : Char) : size (t ++ [c]) = size t + c.utf8Size :=
  Utf8.size_append t [c]

/-- A character that stands for itself makes the stretch longer. -/
theorem Holds.extend (h : Holds done w) (hc : StandsForItself '"' c) :
    Holds (done ++ [c]) { w with stop := w.stop + c.utf8Size } := by
  obtain ⟨u, m, rfl, hwritten, hm, hstart, hstop⟩ := h
  refine ⟨u, m ++ [c], List.append_assoc u m [c], hwritten, ?_, hstart, ?_⟩
  · intro d hd
    rcases List.mem_append.mp hd with hd | hd
    · exact hm d hd
    · rw [List.mem_singleton.mp hd]
      exact hc
  · show w.stop + c.utf8Size = _
    rw [hstop, ← List.append_assoc, size_concat]

/-- Behind a character that is escaped an empty stretch begins. -/
theorem Holds.escaped (h : Holds done w) (c : Char) :
    Holds (done ++ [c])
      ⟨escapeAll '"' done ++ escape '"' c, w.stop + c.utf8Size, w.stop + c.utf8Size⟩ := by
  obtain ⟨u, m, rfl, -, -, -, hstop⟩ := h
  refine ⟨u ++ m ++ [c], [], (List.append_nil _).symm, ?_, by simp, ?_, ?_⟩
  · exact (escapeAll_concat '"' (u ++ m) c).symm
  · rw [hstop, size_concat]
  · rw [hstop, List.append_nil, size_concat]

/-- **One character more is done.** -/
theorem Holds.next? (h : Holds done w) (c : Char) (rest : Text) :
    ∃ w', w.next? (done ++ c :: rest) c = some w' ∧ Holds (done ++ [c]) w' := by
  rw [Copying.next?]
  split
  · next hshort =>
    refine ⟨_, rfl, h.extend ?_⟩
    rcases hshort with hplain | hone
    · exact hplain.standsForItself
    · exact length_escape_eq_one_iff.mp hone
  · rw [h.flush, Option.map_some]
    exact ⟨_, rfl, h.escaped c⟩

theorem Holds.foldlM (h : Holds done w) (rest : Text) :
    ∃ w', rest.foldlM (Copying.next? (done ++ rest)) w = some w' ∧ Holds (done ++ rest) w' := by
  induction rest generalizing done w with
  | nil =>
    rw [List.append_nil]
    exact ⟨w, rfl, h⟩
  | cons c rest ih =>
    obtain ⟨w', hnext, h'⟩ := h.next? c rest
    have hdone : done ++ c :: rest = done ++ [c] ++ rest := by
      rw [List.append_assoc, List.singleton_append]
    rw [List.foldlM_cons, hnext]
    rw [hdone]
    exact ih h'

end Copying

/-- The inside of a text between double quotes, copied in stretches. -/
def copied? (t : Text) : Option Text :=
  (t.foldlM (Copying.next? t) {}).bind (Copying.flush t)

/-- **Copying in stretches loses nothing**: it never fails, and gives what is written for the
characters one by one. -/
theorem copied?_eq (t : Text) : copied? t = some (escapeAll '"' t) := by
  have hstart : Copying.Holds [] {} := ⟨[], [], rfl, rfl, by simp, rfl, rfl⟩
  obtain ⟨w, hw, hall⟩ := hstart.foldlM t
  rw [List.nil_append] at hw hall
  have hflush := hall.flush []
  rw [List.append_nil] at hflush
  rw [copied?, hw, Option.bind_some, hflush]

end Salutation.Quoted
