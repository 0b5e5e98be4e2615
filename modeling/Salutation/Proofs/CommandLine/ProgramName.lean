import Salutation.CommandLine.ProgramName
import Salutation.Proofs.Text.Utf8

/-!
# What a path says of the name of the program

The rule can be said without a search.  A path **ends in** a component that counts if behind it, cut
at the slashes, there are only components that do not (`EndsIn`); and it **names** the program if
that component is the encoding of a text and not `..` (`Names`).

* `ofPath_eq_iff`: messages use that text, and without one the program's own name.
* `lastComponent?_append`: of two paths joined by a slash the second decides, if it ends in a
  component, and else the first.  So directories in front of a component do not matter, and neither
  do slashes that are doubled, or slashes and `.` at the end.
-/

namespace Salutation.ProgramName

/-- Whether a component of a path does not count: it is empty, or stands for the directory
itself. -/
def IsIdle (p : Bytes) : Prop := p = [] ∨ p = here

/-- **Whether a path ends in a component** that counts. -/
def EndsIn (path c : Bytes) : Prop :=
  ¬ IsIdle c ∧ ∃ before behind, path.splitOn slash = before ++ c :: behind ∧ ∀ p ∈ behind, IsIdle p

/-- **Whether a path gives the program a name.** -/
def Names (path : Bytes) (t : Text) : Prop :=
  ∃ c, EndsIn path c ∧ c ≠ above ∧ c = Utf8.encode t

variable {path path' : Bytes}

/-! ### The rule -/

theorem lastComponent?_eq_some_iff {c : Bytes} : lastComponent? path = some c ↔ EndsIn path c := by
  have hcounts : ∀ p : Bytes, (decide (p ≠ []) && decide (p ≠ here)) = true ↔ ¬ IsIdle p := by
    intro p
    rw [Bool.and_eq_true, decide_eq_true_eq, decide_eq_true_eq, IsIdle, not_or]
  have hidle : ∀ p : Bytes, (!(decide (p ≠ []) && decide (p ≠ here))) = true ↔ IsIdle p := by
    intro p
    rw [Bool.not_eq_true', ← Bool.not_eq_true, hcounts, not_not]
  rw [lastComponent?, List.find?_eq_some_iff_append, hcounts, EndsIn]
  refine and_congr_right fun _ => ?_
  -- the search goes from the end, so what it has passed stands behind
  constructor
  · rintro ⟨passed, rest, hreverse, hpassed⟩
    refine ⟨rest.reverse, passed.reverse, ?_, fun p hp => ?_⟩
    · rw [← List.reverse_reverse (path.splitOn slash), hreverse]
      simp
    · exact (hidle p).mp (hpassed p (List.mem_reverse.mp hp))
  · rintro ⟨before, behind, hsplit, hbehind⟩
    refine ⟨behind.reverse, before.reverse, ?_, fun p hp => ?_⟩
    · rw [hsplit]
      simp
    · exact (hidle p).mpr (hbehind p (List.mem_reverse.mp hp))

theorem ofPath_of_names {t : Text} (h : Names path t) : ofPath path = t := by
  obtain ⟨c, hends, habove, rfl⟩ := h
  have hdecode : Utf8.decode? (Utf8.encode t) = some t := Utf8.decode?_eq_some_iff.mpr rfl
  simp only [ofPath, lastComponent?_eq_some_iff.mpr hends]
  rw [if_neg habove, hdecode]
  rfl

theorem ofPath_of_not_names (h : ∀ t, ¬ Names path t) : ofPath path = default := by
  cases hlast : lastComponent? path with
  | none => simp only [ofPath, hlast]
  | some c =>
    have hends := lastComponent?_eq_some_iff.mp hlast
    simp only [ofPath, hlast]
    by_cases habove : c = above
    · rw [if_pos habove]
    · rw [if_neg habove]
      cases hdecode : Utf8.decode? c with
      | none => rfl
      | some t => exact absurd ⟨c, hends, habove, Utf8.decode?_eq_some_iff.mp hdecode⟩ (h t)

/-- **The name that messages use** is the one that the path gives, or the program's own if the path
gives none. -/
theorem ofPath_eq_iff {t : Text} :
    ofPath path = t ↔ Names path t ∨ (t = default ∧ ∀ u, ¬ Names path u) := by
  constructor
  · rintro rfl
    by_cases h : ∃ u, Names path u
    · obtain ⟨u, hu⟩ := h
      rw [ofPath_of_names hu]
      exact Or.inl hu
    · have hnone : ∀ u, ¬ Names path u := not_exists.mp h
      exact Or.inr ⟨ofPath_of_not_names hnone, hnone⟩
  · rintro (h | ⟨rfl, h⟩)
    · exact ofPath_of_names h
    · exact ofPath_of_not_names h

/-! ### Paths joined by a slash -/

/-- **Of two paths joined by a slash the second decides**, if it ends in a component. -/
theorem lastComponent?_append (dir path : Bytes) :
    lastComponent? (dir ++ slash :: path) = (lastComponent? path).or (lastComponent? dir) := by
  unfold lastComponent?
  rw [List.splitOn_append_cons_self, List.reverse_append, List.find?_append]

theorem ofPath_congr (h : lastComponent? path = lastComponent? path') :
    ofPath path = ofPath path' := by
  rw [ofPath, ofPath, h]

/-- Directories in front of a component do not matter. -/
theorem ofPath_append_of_endsIn (dir : Bytes) {c : Bytes} (h : EndsIn path c) :
    ofPath (dir ++ slash :: path) = ofPath path := by
  apply ofPath_congr
  rw [lastComponent?_append, lastComponent?_eq_some_iff.mpr h, Option.some_or]

/-- What ends in no component does not matter behind a slash. -/
theorem ofPath_append_of_not_endsIn (dir : Bytes) (h : ∀ c, ¬ EndsIn path c) :
    ofPath (dir ++ slash :: path) = ofPath dir := by
  have hnone : lastComponent? path = none := by
    cases hlast : lastComponent? path with
    | none => rfl
    | some c => exact absurd (lastComponent?_eq_some_iff.mp hlast) (h c)
  apply ofPath_congr
  rw [lastComponent?_append, hnone, Option.none_or]

/-- A slash may be doubled. -/
theorem ofPath_append_slash (dir path : Bytes) :
    ofPath (dir ++ slash :: slash :: path) = ofPath (dir ++ slash :: path) := by
  have hslash : lastComponent? (slash :: path) = lastComponent? path := by
    have hnone : lastComponent? [] = none := rfl
    have happend := lastComponent?_append [] path
    rwa [List.nil_append, hnone, Option.or_none] at happend
  apply ofPath_congr
  rw [lastComponent?_append, lastComponent?_append, hslash]

/-- Neither the empty path nor `.` ends in a component that counts. -/
theorem not_endsIn_of_isIdle (h : IsIdle path) (c : Bytes) : ¬ EndsIn path c := by
  intro hends
  rw [← lastComponent?_eq_some_iff] at hends
  rcases h with rfl | rfl
  · cases hends
  · have hnone : lastComponent? here = none := by decide
    rw [hnone] at hends
    cases hends

end Salutation.ProgramName
