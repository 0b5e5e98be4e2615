import Mathlib.Tactic.SplitIfs
import Salutation.Log.Filter
import Salutation.Proofs.Text.Slice

/-!
# Filters that can be cut

The reader of a directive counts its offsets in the directive without the blanks around it, and cuts
the parts out of the directive as it was written.  So an offset may fall inside a character, and
then the filter is misaligned.  It never does if the directive does not begin with a blank, or if
all of its characters are ASCII (`Directive.Aligned`): every offset that the reader meets then
stands between two characters of the directive as it was written, which is the invariant of the
reader (`Stage.Sound`).

`Filter.IsAligned` says of the value of a variable that each of its directives is of these kinds;
then it gives a filter (`Filter.IsAligned.exists_ofVariable_eq_ok`).
-/

namespace Salutation

namespace Log

open Utf8 (size)

/-- What may come of a reading that is not misaligned: a result with some property, or the fault of
a malformed text. -/
def MadeOut {α : Type} (p : α → Prop) (r : Except FilterFault α) : Prop :=
  (∃ x, r = .ok x ∧ p x) ∨ r = .error .malformed

/-! ### The reader of a directive -/

namespace Directive

variable {written : Text} {i : Nat}

/-- Whether every offset at which the reader of a directive may cut stands between two characters of
the directive as it was written. -/
def Aligned (written : Text) : Prop :=
  ∀ u v, trim written = u ++ v → Text.IsBoundary written (size u)

/-- The offset at which the part begins that is being read. -/
def Stage.start? : Stage → Option Nat
  | .word s | .span s | .field s | .level s => some s
  | .start | .fieldsClosed | .spanClosed => none

/-- **The invariant of the reader**: the part that is being read begins between two characters. -/
def Stage.Sound (written : Text) (i : Nat) (st : Stage) : Prop :=
  ∀ s, st.start? = some s → Text.IsBoundary written s ∧ s ≤ i

theorem Stage.sound_of_start {s : Nat} {st : Stage} (hst : st.start? = some s)
    (hs : Text.IsBoundary written s) (hle : s ≤ i) : st.Sound written i := by
  intro s' hs'
  rw [hst] at hs'
  rw [← Option.some.inj hs']
  exact ⟨hs, hle⟩

theorem Stage.sound_of_none {st : Stage} (hst : st.start? = none) : st.Sound written i := by
  intro s hs
  rw [hst] at hs
  cases hs

theorem exists_part_eq_ok {lo hi : Nat} (hlo : Text.IsBoundary written lo)
    (hhi : Text.IsBoundary written hi) (hle : lo ≤ hi) : ∃ t, part written lo hi = .ok t := by
  obtain ⟨t, ht⟩ := Text.exists_between?_eq_some hlo hhi hle
  exact ⟨t, by rw [part, ht]⟩

theorem exists_remainder_eq_ok {lo : Nat} (h : Text.IsBoundary written lo) :
    ∃ t, remainder written lo = .ok t := by
  obtain ⟨t, ht⟩ := Text.exists_dropBytes?_eq_some h
  exact ⟨t, by rw [remainder, ht]⟩

theorem parse_field_madeOut (t : Text) : MadeOut (fun _ => True) (FieldMatch.parse t) := by
  rw [FieldMatch.parse]
  split
  · split
    · exact Or.inl ⟨_, rfl, trivial⟩
    · exact Or.inr rfl
  · exact Or.inl ⟨_, rfl, trivial⟩

/-- **One step keeps the invariant**, if the offsets before and behind the character stand between
two characters. -/
theorem advance_madeOut {c : Char} {st : Stage × Directive} (hi : Text.IsBoundary written i)
    (hnext : Text.IsBoundary written (i + c.utf8Size)) (hst : st.1.Sound written i) :
    MadeOut (fun st' => st'.1.Sound written (i + c.utf8Size)) (advance written i c st) := by
  obtain ⟨stage, d⟩ := st
  -- a part ends before the character `c`, and the next one begins behind it
  cases stage with
  | start =>
    rw [advance]
    split_ifs with hopen hword
    · subst hopen
      exact Or.inl ⟨_, rfl, Stage.sound_of_start rfl hnext (Nat.le_refl _)⟩
    · exact Or.inl ⟨_, rfl, Stage.sound_of_start rfl hi (Nat.le_add_right _ _)⟩
    · exact Or.inr rfl
  | word s =>
    obtain ⟨hs, hle⟩ := hst s rfl
    obtain ⟨t, ht⟩ := exists_part_eq_ok hs hi hle
    rw [advance, ht]
    split_ifs with hequals hopen
    · subst hequals
      exact Or.inl ⟨_, rfl, Stage.sound_of_start rfl hnext (Nat.le_refl _)⟩
    · subst hopen
      exact Or.inl ⟨_, rfl, Stage.sound_of_start rfl hnext (Nat.le_refl _)⟩
    · exact Or.inl ⟨_, rfl, Stage.sound_of_start rfl hs (by omega)⟩
  | span s =>
    obtain ⟨hs, hle⟩ := hst s rfl
    obtain ⟨t, ht⟩ := exists_part_eq_ok hs hi hle
    rw [advance, ht]
    split_ifs with hclose hopen
    · exact Or.inl ⟨_, rfl, Stage.sound_of_none rfl⟩
    · subst hopen
      exact Or.inl ⟨_, rfl, Stage.sound_of_start rfl hnext (Nat.le_refl _)⟩
    · exact Or.inl ⟨_, rfl, Stage.sound_of_start rfl hs (by omega)⟩
  | field s =>
    obtain ⟨hs, hle⟩ := hst s rfl
    obtain ⟨t, ht⟩ := exists_part_eq_ok hs hi hle
    rw [advance, ht]
    split_ifs with hclose
    · by_cases hempty : t = []
      · rw [hempty]
        exact Or.inr rfl
      · rcases parse_field_madeOut t with ⟨f, hf, -⟩ | hf
        · refine Or.inl ⟨(.fieldsClosed, { d with fields := d.fields ++ [f] }), ?_, ?_⟩
          · simp only [bind, Except.bind, if_neg hempty, hf]
          · exact Stage.sound_of_none rfl
        · refine Or.inr ?_
          simp only [bind, Except.bind, if_neg hempty, hf]
    · exact Or.inl ⟨_, rfl, Stage.sound_of_start rfl hs (by omega)⟩
  | fieldsClosed =>
    rw [advance]
    split_ifs with hclose
    · exact Or.inl ⟨_, rfl, Stage.sound_of_none rfl⟩
    · exact Or.inr rfl
  | spanClosed =>
    rw [advance]
    split_ifs with hequals
    · subst hequals
      exact Or.inl ⟨_, rfl, Stage.sound_of_start rfl hnext (Nat.le_refl _)⟩
    · exact Or.inr rfl
  | level s =>
    obtain ⟨hs, hle⟩ := hst s rfl
    exact Or.inl ⟨_, rfl, Stage.sound_of_start rfl hs (by omega)⟩

theorem scan_madeOut (haligned : Aligned written) (v : Text) :
    ∀ (u : Text) (st : Stage × Directive), trim written = u ++ v →
      st.1.Sound written (size u) →
        MadeOut (fun st' => st'.1.Sound written (size (u ++ v))) (scan written (size u) st v) := by
  induction v with
  | nil =>
    intro u st _ hst
    rw [List.append_nil]
    exact Or.inl ⟨st, rfl, hst⟩
  | cons c v ih =>
    intro u st htrim hst
    have hsplit : trim written = (u ++ [c]) ++ v := by rw [htrim, List.append_assoc]; rfl
    have hsize : size u + c.utf8Size = size (u ++ [c]) := by
      rw [Utf8.size_append, size, size, Nat.add_zero]
    have hnext : Text.IsBoundary written (size u + c.utf8Size) := hsize ▸ haligned _ _ hsplit
    rw [scan]
    rcases advance_madeOut (haligned _ _ htrim) hnext hst with ⟨st', hst', hsound⟩ | hfault
    · rw [hst']
      rw [hsize] at hsound
      have hrest := ih (u ++ [c]) st' hsplit hsound
      rw [List.append_assoc, List.singleton_append] at hrest
      show MadeOut _ (scan written (size u + c.utf8Size) st' v)
      rw [hsize]
      exact hrest
    · rw [hfault]
      exact Or.inr rfl

theorem finish_madeOut {st : Stage × Directive} (hst : st.1.Sound written i) :
    MadeOut (fun _ => True) (finish written st) := by
  obtain ⟨stage, d⟩ := st
  cases stage with
  | word s =>
    obtain ⟨t, ht⟩ := exists_remainder_eq_ok (hst s rfl).1
    rw [finish, ht]
    exact Or.inl ⟨_, rfl, trivial⟩
  | level s =>
    obtain ⟨t, ht⟩ := exists_remainder_eq_ok (hst s rfl).1
    rw [finish, ht]
    by_cases hempty : t = []
    · rw [hempty]
      exact Or.inl ⟨_, rfl, trivial⟩
    · cases hlevel : Level.ofText? t with
      | some l =>
        refine Or.inl ⟨{ d with level := l }, ?_, trivial⟩
        simp only [bind, Except.bind, if_neg hempty, hlevel]
      | none =>
        refine Or.inr ?_
        simp only [bind, Except.bind, if_neg hempty, hlevel]
  | spanClosed => exact Or.inl ⟨_, rfl, trivial⟩
  | start => exact Or.inr rfl
  | span s => exact Or.inr rfl
  | field s => exact Or.inr rfl
  | fieldsClosed => exact Or.inr rfl

/-- **A directive that is aligned is not misaligned.** -/
theorem parse_madeOut (haligned : Aligned written) : MadeOut (fun _ => True) (parse written) := by
  have hstart : Stage.start.Sound written (size []) := Stage.sound_of_none rfl
  have hscan := scan_madeOut haligned (trim written) [] (.start, {}) rfl hstart
  have hzero : size [] = 0 := rfl
  rw [hzero] at hscan
  rw [parse]
  rcases hscan with ⟨st, hst, hsound⟩ | hfault
  · rw [hst]
    exact finish_madeOut hsound
  · rw [hfault]
    exact Or.inr rfl

/-! ### Directives that are aligned -/

/-- A beginning of a text without blanks behind it is a beginning of the text. -/
theorem trim_prefix_dropWhile (t : Text) : trim t <+: t.dropWhile isBlank := by
  rw [trim, ← List.reverse_suffix, List.reverse_reverse]
  exact List.dropWhile_suffix _

theorem dropWhile_isBlank_of_head {t : Text} (h : ∀ c ∈ t.head?, isBlank c = false) :
    t.dropWhile isBlank = t := by
  cases t with
  | nil => rfl
  | cons c t => rw [List.dropWhile_cons, h c rfl]; rfl

/-- **A directive that does not begin with a blank is aligned.** -/
theorem aligned_of_head (h : ∀ c ∈ written.head?, isBlank c = false) : Aligned written := by
  intro u v htrim
  -- nothing is taken away in front, so the offsets are those of the directive as it was written
  obtain ⟨w, hw⟩ := trim_prefix_dropWhile written
  rw [dropWhile_isBlank_of_head h, htrim, List.append_assoc] at hw
  exact ⟨u, v ++ w, hw.symm, rfl⟩

theorem size_eq_length {t : Text} (h : ∀ c ∈ t, c.toNat < 0x80) : size t = t.length := by
  induction t with
  | nil => rfl
  | cons c t ih =>
    obtain ⟨hc, ht⟩ := List.forall_mem_cons.mp h
    have hone : c.utf8Size = 1 :=
      Char.utf8Size_eq_one_iff.mpr (UInt32.le_iff_toNat_le.mpr (Nat.le_of_lt_succ hc))
    rw [size, hone, ih ht, List.length_cons, Nat.add_comm]

/-- **A directive of ASCII characters is aligned**: every offset stands between two characters. -/
theorem aligned_of_ascii (h : ∀ c ∈ written, c.toNat < 0x80) : Aligned written := by
  intro u v htrim
  have hsublist : (u ++ v).Sublist written := by
    rw [← htrim]
    exact (trim_prefix_dropWhile written).sublist.trans (List.dropWhile_suffix _).sublist
  have hu : ∀ c ∈ u, c.toNat < 0x80 :=
    fun c hc => h c (hsublist.subset (List.mem_append_left v hc))
  have hle : u.length ≤ written.length := by
    have hlength := hsublist.length_le
    rw [List.length_append] at hlength
    omega
  refine ⟨written.take u.length, written.drop u.length, (List.take_append_drop _ _).symm, ?_⟩
  rw [size_eq_length hu, size_eq_length fun c hc => h c (List.mem_of_mem_take hc),
    List.length_take_of_le hle]

end Directive

/-! ### Filters -/

namespace Filter

theorem mapM_parse_madeOut {ds : List Text} (h : ∀ d ∈ ds, Directive.Aligned d) :
    MadeOut (fun _ => True) (ds.mapM Directive.parse) := by
  induction ds with
  | nil => exact Or.inl ⟨[], rfl, trivial⟩
  | cons d ds ih =>
    obtain ⟨hd, hds⟩ := List.forall_mem_cons.mp h
    rw [List.mapM_cons]
    rcases Directive.parse_madeOut hd with ⟨x, hx, -⟩ | hfault
    · rw [hx]
      rcases ih hds with ⟨xs, hxs, -⟩ | hfault
      · rw [hxs]
        exact Or.inl ⟨x :: xs, rfl, trivial⟩
      · rw [hfault]
        exact Or.inr rfl
    · rw [hfault]
      exact Or.inr rfl

/-- A filter is misaligned only if one of its directives is. -/
theorem parse_madeOut {t : Text} (h : ∀ d ∈ t.splitOn ',', Directive.Aligned d) :
    MadeOut (fun _ => True) (parse t) := by
  have hall : ∀ d ∈ (t.splitOn ',').filter (· ≠ []), Directive.Aligned d :=
    fun d hd => h d (List.mem_filter.mp hd).1
  rw [parse]
  rcases mapM_parse_madeOut hall with ⟨ds, hds, -⟩ | hfault
  · rw [hds]
    exact Or.inl ⟨_, rfl, trivial⟩
  · rw [hfault]
    exact Or.inr rfl

/-- Whether each directive in the value of a variable is of ASCII characters or does not begin with a
blank.  A variable that is not set and a value that is no text have no directives. -/
def IsAligned (value : Option Bytes) : Prop :=
  ∀ t, value.bind Utf8.decode? = some t → ∀ d ∈ t.splitOn ',',
    (∀ c ∈ d.head?, isBlank c = false) ∨ ∀ c ∈ d, c.toNat < 0x80

/-- **An aligned value gives a filter.** -/
theorem IsAligned.exists_ofVariable_eq_ok {value : Option Bytes} (h : IsAligned value) :
    ∃ filter, ofVariable value = .ok filter := by
  cases value with
  | none => exact ⟨fallback, rfl⟩
  | some bs =>
    cases hdecode : Utf8.decode? bs with
    | none =>
      refine ⟨fallback, ?_⟩
      simp only [ofVariable, hdecode]
    | some t =>
      have haligned : ∀ d ∈ t.splitOn ',', Directive.Aligned d := by
        intro d hd
        rcases h t hdecode d hd with hhead | hascii
        · exact Directive.aligned_of_head hhead
        · exact Directive.aligned_of_ascii hascii
      rcases parse_madeOut haligned with ⟨filter, hfilter, -⟩ | hfault
      · refine ⟨filter, ?_⟩
        simp only [ofVariable, hdecode, hfilter]
      · refine ⟨fallback, ?_⟩
        simp only [ofVariable, hdecode, hfault]

end Filter

end Log

end Salutation
