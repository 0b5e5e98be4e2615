import Salutation.Terminal.Sequence

/-!
# When a stream without colours writes the plain text

`strip` and `filter` part ways at one place only.  A break inside an unfinished escape or control
sequence is shown by both; `strip` then has left the sequence, while `filter` keeps it.  ASCII
characters are shown by both as long as they are shown one behind the other, but at the first
control character that is not shown `filter` is inside the sequence again, and if a printable
character comes next it takes that character for a part of the sequence.  A text in which this
happens **resumes** a sequence (`Resumes`).

* `filterFrom_sublist`: `filter` never shows more than `strip`;
* `filter_eq_strip_iff`: the two agree exactly on the texts that do not resume a sequence.

The invariant of both is `Trails`: either the two readers are in the same state, or `strip` is
outside of all sequences.
-/

namespace Salutation.Terminal

/-! ### The two readers, step by step -/

namespace State

/-- The state behind a character, where a shown character ends any sequence. -/
def step (s : State) (c : Char) : State := if s.shows c then .ground else s.next c

/-- The state behind a text. -/
def behind (s : State) (t : Text) : State := t.foldl step s

/-- Whether a break interrupts the sequence that is being read. -/
def interruptible : State → Bool
  | .escape | .escapeIntermediate | .csiEntry | .csiParameter | .csiIntermediate
  | .csiIgnore => true
  | .ground | .dcsEntry | .dcsParameter | .dcsIntermediate | .dcsIgnore | .dcsData | .osCommand
  | .string => false

theorem shows_of_interruptible {s : State} (hs : s.interruptible = true) (c : Char) :
    s.shows c = isBreak c := by
  cases s <;> first | rfl | exact absurd hs (by decide)

theorem eq_ground_of_shows {s : State} {c : Char} (hs : s.interruptible = false)
    (h : s.shows c = true) : s = .ground := by
  cases s <;> first | rfl | exact absurd hs (by decide) | exact absurd h Bool.false_ne_true

theorem ground_shows_of_isBreak {c : Char} (h : isBreak c = true) : ground.shows c = true := by
  rw [shows, h, Bool.true_or]

/-- What is shown inside a sequence is shown outside of it too. -/
theorem ground_shows_of_shows {s : State} {c : Char} (h : s.shows c = true) :
    ground.shows c = true := by
  cases hs : s.interruptible with
  | true =>
    rw [shows_of_interruptible hs] at h
    exact ground_shows_of_isBreak h
  | false => rwa [eq_ground_of_shows hs h] at h

@[simp] theorem next_escapeChar (s : State) : s.next escapeChar = .escape := by
  unfold next
  rw [if_neg (by decide), if_pos rfl]

theorem ground_next {c : Char} (h : c ≠ escapeChar) : ground.next c = .ground := by
  unfold next
  rw [if_neg h]
  exact ite_self _

theorem next_of_ends {c : Char} (h : c = '\x18' ∨ c = '\x1a') (s : State) : s.next c = .ground := by
  unfold next
  rw [if_pos]
  rwa [Bool.or_eq_true, decide_eq_true_eq, decide_eq_true_eq]

end State

/-- Whether a character leaves an interrupted sequence as it is: it is ASCII, and none of those that
act in every state. -/
def Passes (c : Char) : Prop := c.toNat < 0x80 ∧ c ≠ escapeChar ∧ ¬ (c = '\x18' ∨ c = '\x1a')

theorem passes_of_isBreak {c : Char} (h : isBreak c = true) : Passes c := by
  simp only [isBreak, Bool.or_eq_true, decide_eq_true_eq] at h
  rcases h with ((rfl | rfl) | rfl) | rfl <;> exact ⟨by decide, by decide, by decide⟩

/-- **A control character that is not shown leaves the state of an unfinished sequence.** -/
theorem State.next_eq_self {s : State} {c : Char} (hs : s.interruptible = true) (hc : Passes c)
    (hhidden : ground.shows c = false) : s.next c = s := by
  obtain ⟨hascii, hescape, hends⟩ := hc
  simp only [shows, Bool.or_eq_false_iff, Bool.and_eq_false_iff, decide_eq_false_iff_not,
    Decidable.not_not] at hhidden
  have hcode : c.toNat < 0x20 ∨ c.toNat = 0x7F := by
    rcases hhidden.2 with h | h <;> omega
  have hrange : ∀ lo hi, 0x20 ≤ lo → hi ≤ 0x7E → inRange lo hi c = false := by
    intro lo hi hlo hhi
    rw [inRange, Bool.and_eq_false_iff, decide_eq_false_iff_not, decide_eq_false_iff_not]
    omega
  have hne : ∀ d : Char, 0x20 ≤ d.toNat → d.toNat ≤ 0x7E → c ≠ d := by
    rintro d hlo hhi rfl
    omega
  have hends' : ¬ ((c = '\x18' || c = '\x1a') = true) := by
    rwa [Bool.or_eq_true, decide_eq_true_eq, decide_eq_true_eq]
  -- in none of these states does a rule speak of a code below 20 or of 7F
  unfold next
  rw [if_neg hends', if_neg hescape]
  cases s <;> first
    | exact absurd hs (by decide)
    | simp [hrange, afterEscape, hne]

/-! ### Texts that resume a sequence -/

/-- Whether a sequence that was interrupted just before a text is resumed in it: behind characters
that leave the interruption as it is comes a control character that is not shown, and next to it a
printable one. -/
def Resumption (t : Text) : Prop :=
  ∃ (v : Text) (c d : Char) (w : Text), t = v ++ c :: d :: w ∧ (∀ x ∈ v, Passes x)
    ∧ Passes c ∧ State.ground.shows c = false
    ∧ State.ground.shows d = true ∧ isBreak d = false

/-- Whether a sequence is interrupted and resumed in a text that is read in a given state. -/
def ResumesFrom (s : State) (t : Text) : Prop :=
  ∃ (u : Text) (b : Char) (rest : Text), t = u ++ b :: rest
    ∧ (s.behind u).interruptible = true ∧ isBreak b = true ∧ Resumption rest

/-- **Whether a text resumes a sequence** that a break has interrupted. -/
def Resumes (t : Text) : Prop := ResumesFrom .ground t

section Resumption

variable {s : State} {c d : Char} {t : Text}

theorem Resumption.of_hidden (hc : Passes c) (hhidden : State.ground.shows c = false)
    (hd : State.ground.shows d = true) (hprintable : isBreak d = false) :
    Resumption (c :: d :: t) :=
  ⟨[], c, d, t, rfl, fun _ h => absurd h List.not_mem_nil, hc, hhidden, hd, hprintable⟩

theorem Resumption.cons (hx : Passes c) (h : Resumption t) : Resumption (c :: t) := by
  obtain ⟨v, c', d, w, rfl, hv, h⟩ := h
  refine ⟨c :: v, c', d, w, rfl, ?_, h⟩
  exact List.forall_mem_cons.mpr ⟨hx, hv⟩

theorem ResumesFrom.of_break (hs : s.interruptible = true) (hc : isBreak c = true)
    (h : Resumption t) : ResumesFrom s (c :: t) := ⟨[], c, t, rfl, hs, hc, h⟩

theorem ResumesFrom.cons (h : ResumesFrom (s.step c) t) : ResumesFrom s (c :: t) := by
  obtain ⟨u, b, rest, rfl, h⟩ := h
  exact ⟨c :: u, b, rest, rfl, h⟩

end Resumption

/-! ### What the filter shows, the plain text shows -/

/-- The state by which a stream judges the next character. -/
def judging (s : State) (showing : Bool) : State := if showing then .ground else s

/-- **The invariant of the two readers**: `strip` is outside of all sequences, or the filter is in
the same state. -/
def Trails (s : State) (showing : Bool) (t : State) : Prop :=
  t = .ground ∨ (showing = false ∧ s = t)

section Readers

variable {s t : State} {showing : Bool} {c : Char} {cs : Text}

theorem stripFrom_cons_of_shows (h : t.shows c = true) :
    stripFrom t (c :: cs) = c :: stripFrom (t.step c) cs := by
  rw [stripFrom, if_pos h, State.step, if_pos h]

theorem stripFrom_cons_of_not_shows (h : ¬ t.shows c = true) :
    stripFrom t (c :: cs) = stripFrom (t.step c) cs := by
  rw [stripFrom, if_neg h, State.step, if_neg h]

theorem filterFrom_cons_of_shows (h : (judging s showing).shows c = true) :
    filterFrom s showing (c :: cs)
      = c :: filterFrom (if c.toNat < 0x80 then s else .ground) true cs := by
  rw [filterFrom]
  exact if_pos h

theorem filterFrom_cons_of_not_shows (h : ¬ (judging s showing).shows c = true) :
    filterFrom s showing (c :: cs) = filterFrom (s.next c) false cs := by
  rw [filterFrom]
  exact if_neg h

theorem Trails.shows (h : Trails s showing t) (hc : (judging s showing).shows c = true) :
    t.shows c = true := by
  rcases h with rfl | ⟨rfl, rfl⟩
  · exact State.ground_shows_of_shows hc
  · exact hc

theorem Trails.of_shows (hc : t.shows c = true) (s : State) (showing : Bool) :
    Trails s showing (t.step c) := by
  rw [State.step, if_pos hc]
  exact Or.inl rfl

theorem Trails.next (h : Trails s showing t) (hc : ¬ t.shows c = true) :
    Trails (s.next c) false (t.step c) := by
  rw [State.step, if_neg hc]
  rcases h with rfl | ⟨-, rfl⟩
  · by_cases hescape : c = escapeChar
    · rw [hescape, State.next_escapeChar, State.next_escapeChar]
      exact Or.inr ⟨rfl, rfl⟩
    · exact Or.inl (State.ground_next hescape)
  · exact Or.inr ⟨rfl, rfl⟩

end Readers

/-- A text of characters that are shown is its own plain text. -/
theorem strip_eq_self {t : Text} (h : ∀ c ∈ t, State.ground.shows c = true) : strip t = t := by
  unfold strip
  induction t with
  | nil => rfl
  | cons c t ih =>
    obtain ⟨hc, ht⟩ := List.forall_mem_cons.mp h
    rw [stripFrom_cons_of_shows hc, State.step, if_pos hc, ih ht]

/-- **A filter shows nothing that the plain text does not show.** -/
theorem filterFrom_sublist (cs : Text) {s t : State} {showing : Bool} (h : Trails s showing t) :
    (filterFrom s showing cs).Sublist (stripFrom t cs) := by
  induction cs generalizing s t showing with
  | nil => exact List.nil_sublist _
  | cons c cs ih =>
    by_cases hfilter : (judging s showing).shows c = true
    · have hstrip := h.shows hfilter
      rw [filterFrom_cons_of_shows hfilter, stripFrom_cons_of_shows hstrip]
      exact (ih (Trails.of_shows hstrip _ _)).cons_cons c
    · rw [filterFrom_cons_of_not_shows hfilter]
      by_cases hstrip : t.shows c = true
      · -- the filter misses the character
        rw [stripFrom_cons_of_shows hstrip]
        exact (ih (Trails.of_shows hstrip _ _)).cons c
      · rw [stripFrom_cons_of_not_shows hstrip]
        exact ih (h.next hstrip)

/-- A character that the filter misses is never made up for. -/
theorem filterFrom_ne_of_missed {s t : State} {showing : Bool} {c : Char} (cs : Text)
    (hfilter : ¬ (judging s showing).shows c = true) (hstrip : t.shows c = true) :
    filterFrom s showing (c :: cs) ≠ stripFrom t (c :: cs) := by
  intro heq
  rw [filterFrom_cons_of_not_shows hfilter, stripFrom_cons_of_shows hstrip] at heq
  have hlength := (filterFrom_sublist cs (Trails.of_shows hstrip (s.next c) false)).length_le
  rw [heq, List.length_cons] at hlength
  omega

/-- Two readers that show the same go on showing the same. -/
theorem exists_trails_of_eq {s t : State} {showing : Bool} {c : Char} {cs : Text}
    (h : Trails s showing t) (heq : filterFrom s showing (c :: cs) = stripFrom t (c :: cs)) :
    ∃ (s' : State) (showing' : Bool), Trails s' showing' (t.step c)
      ∧ filterFrom s' showing' cs = stripFrom (t.step c) cs := by
  by_cases hstrip : t.shows c = true
  · by_cases hfilter : (judging s showing).shows c = true
    · rw [filterFrom_cons_of_shows hfilter, stripFrom_cons_of_shows hstrip] at heq
      exact ⟨_, true, Trails.of_shows hstrip _ _, List.tail_eq_of_cons_eq heq⟩
    · exact absurd heq (filterFrom_ne_of_missed cs hfilter hstrip)
  · have hfilter : ¬ (judging s showing).shows c = true := fun hc => hstrip (h.shows hc)
    rw [filterFrom_cons_of_not_shows hfilter, stripFrom_cons_of_not_shows hstrip] at heq
    exact ⟨_, false, h.next hstrip, heq⟩

theorem exists_trails_behind (u : Text) {rest : Text} {s t : State} {showing : Bool}
    (h : Trails s showing t)
    (heq : filterFrom s showing (u ++ rest) = stripFrom t (u ++ rest)) :
    ∃ (s' : State) (showing' : Bool), Trails s' showing' (t.behind u)
      ∧ filterFrom s' showing' rest = stripFrom (t.behind u) rest := by
  induction u generalizing s t showing with
  | nil => exact ⟨s, showing, h, heq⟩
  | cons c u ih =>
    obtain ⟨s', showing', h', heq'⟩ := exists_trails_of_eq h heq
    exact ih h' heq'

/-! ### A sequence that is resumed hides a character -/

section Interrupted

variable {s : State} (hs : s.interruptible = true)

include hs

/-- An interrupted sequence stays interrupted behind a character that passes. -/
theorem exists_showing_of_eq {c : Char} {cs : Text} {showing : Bool} (hc : Passes c)
    (heq : filterFrom s showing (c :: cs) = stripFrom .ground (c :: cs)) :
    ∃ showing', filterFrom s showing' cs = stripFrom .ground cs
      ∧ (State.ground.shows c = false → showing' = false) := by
  by_cases hstrip : State.ground.shows c = true
  · have hfilter : (judging s showing).shows c = true :=
      Decidable.byContradiction fun hmissed => filterFrom_ne_of_missed cs hmissed hstrip heq
    rw [filterFrom_cons_of_shows hfilter, if_pos hc.1, stripFrom_cons_of_shows hstrip, State.step,
      if_pos hstrip] at heq
    refine ⟨true, List.tail_eq_of_cons_eq heq, fun hhidden => ?_⟩
    rw [hhidden] at hstrip
    cases hstrip
  · have hfilter : ¬ (judging s showing).shows c = true :=
      fun h => hstrip (State.ground_shows_of_shows h)
    rw [filterFrom_cons_of_not_shows hfilter, State.next_eq_self hs hc (by simpa using hstrip),
      stripFrom_cons_of_not_shows hstrip, State.step, if_neg hstrip,
      State.ground_next hc.2.1] at heq
    exact ⟨false, heq, fun _ => rfl⟩

theorem filterFrom_ne_of_resumption {cs : Text} (h : Resumption cs) (showing : Bool) :
    filterFrom s showing cs ≠ stripFrom .ground cs := by
  obtain ⟨v, c, d, w, rfl, hv, hc, hhidden, hd, hprintable⟩ := h
  induction v generalizing showing with
  | nil =>
    intro heq
    obtain ⟨showing', heq', hshowing⟩ := exists_showing_of_eq hs hc heq
    rw [hshowing hhidden] at heq'
    -- inside the sequence again, the filter does not show what is printable
    refine filterFrom_ne_of_missed w ?_ hd heq'
    show ¬ s.shows d = true
    rw [State.shows_of_interruptible hs, hprintable]
    exact Bool.false_ne_true
  | cons x v ih =>
    intro heq
    obtain ⟨hx, hv⟩ := List.forall_mem_cons.mp hv
    obtain ⟨showing', heq', -⟩ := exists_showing_of_eq hs hx heq
    exact ih showing' hv heq'

end Interrupted

/-- A filter loses a character of a text that resumes a sequence. -/
theorem filterFrom_ne_of_resumesFrom {s : State} {t : Text} (h : ResumesFrom s t) :
    filterFrom s false t ≠ stripFrom s t := by
  obtain ⟨u, b, rest, rfl, hs, hb, hrest⟩ := h
  intro heq
  obtain ⟨s', showing', htrails, heq'⟩ := exists_trails_behind u (Or.inr ⟨rfl, rfl⟩) heq
  rcases htrails with hground | ⟨rfl, rfl⟩
  · -- outside of all sequences there is none to interrupt
    rw [hground] at hs
    cases hs
  · have hshows : (s.behind u).shows b = true := by
      rw [State.shows_of_interruptible hs]
      exact hb
    have hfilter : (judging (s.behind u) false).shows b = true := hshows
    rw [filterFrom_cons_of_shows hfilter, if_pos (passes_of_isBreak hb).1,
      stripFrom_cons_of_shows hshows, State.step, if_pos hshows] at heq'
    exact filterFrom_ne_of_resumption hs hrest true (List.tail_eq_of_cons_eq heq')

/-! ### Nothing else keeps the two readers apart -/

/-- Right behind a character that is shown outside of sequences, it does not matter that it was
shown. -/
theorem filterFrom_ground (showing : Bool) (cs : Text) :
    filterFrom .ground showing cs = filterFrom .ground false cs := by
  cases cs with
  | nil => rfl
  | cons c cs => rw [filterFrom, filterFrom, ite_self]; rfl

theorem passes_of_shows {c : Char} (hascii : c.toNat < 0x80)
    (h : State.ground.shows c = true) : Passes c := by
  -- escape, cancel and substitute are not shown
  refine ⟨hascii, ?_, ?_⟩
  · rintro rfl
    exact absurd h (by decide)
  · rintro (rfl | rfl) <;> exact absurd h (by decide)

/-- Only ASCII characters are hidden outside of sequences. -/
theorem lt_of_not_shows {c : Char} (h : ¬ State.ground.shows c = true) : c.toNat < 0x80 := by
  simp only [State.shows, Bool.or_eq_true, Bool.and_eq_true, decide_eq_true_eq, not_or,
    not_and, Decidable.not_not] at h
  have hcode := h.2
  omega

/-- **What holds of the two readers on a text**, in the same state and where a sequence is
interrupted.  If the filter is inside the interrupted sequence, the text must not begin with a
printable character. -/
structure Agree (cs : Text) : Prop where
  together : ∀ s, ¬ ResumesFrom s cs → filterFrom s false cs = stripFrom s cs
  interrupted : ∀ s showing, s.interruptible = true → ¬ Resumption cs → ¬ ResumesFrom .ground cs →
    (showing = false → ∀ d ∈ cs.head?, State.ground.shows d = true → isBreak d = true) →
      filterFrom s showing cs = stripFrom .ground cs

namespace Agree

variable {c : Char} {cs : Text}

theorem nil : Agree [] := ⟨fun _ _ => rfl, fun _ _ _ _ _ _ => rfl⟩

theorem cons_together (ih : Agree cs) {s : State} (h : ¬ ResumesFrom s (c :: cs)) :
    filterFrom s false (c :: cs) = stripFrom s (c :: cs) := by
  have hrest : ¬ ResumesFrom (s.step c) cs := fun hresumes => h hresumes.cons
  by_cases hc : s.shows c = true
  · have hfilter : (judging s false).shows c = true := hc
    rw [State.step, if_pos hc] at hrest
    rw [filterFrom_cons_of_shows hfilter, stripFrom_cons_of_shows hc, State.step, if_pos hc]
    refine congrArg (c :: ·) ?_
    cases hs : s.interruptible with
    | true =>
      -- a break interrupts the sequence, which the filter keeps
      have hb : isBreak c = true := by rwa [State.shows_of_interruptible hs] at hc
      rw [if_pos (passes_of_isBreak hb).1]
      refine ih.interrupted s true hs (fun hresumption => ?_) hrest (fun hfalse => by cases hfalse)
      exact h (.of_break hs hb hresumption)
    | false =>
      rw [State.eq_ground_of_shows hs hc, ite_self, filterFrom_ground]
      exact ih.together .ground hrest
  · have hfilter : ¬ (judging s false).shows c = true := hc
    rw [State.step, if_neg hc] at hrest
    rw [filterFrom_cons_of_not_shows hfilter, stripFrom_cons_of_not_shows hc, State.step, if_neg hc]
    exact ih.together _ hrest

theorem cons_interrupted (ih : Agree cs) {s : State} {showing : Bool}
    (hs : s.interruptible = true) (hresumption : ¬ Resumption (c :: cs))
    (h : ¬ ResumesFrom .ground (c :: cs))
    (hhead : showing = false → State.ground.shows c = true → isBreak c = true) :
    filterFrom s showing (c :: cs) = stripFrom .ground (c :: cs) := by
  have hrest : ¬ ResumesFrom (State.ground.step c) cs := fun hresumes => h hresumes.cons
  have hlater : Passes c → ¬ Resumption cs := fun hc hcs => hresumption (hcs.cons hc)
  by_cases hc : State.ground.shows c = true
  · have hfilter : (judging s showing).shows c = true := by
      cases showing with
      | true => exact hc
      | false =>
        show s.shows c = true
        rw [State.shows_of_interruptible hs]
        exact hhead rfl hc
    rw [State.step, if_pos hc] at hrest
    rw [filterFrom_cons_of_shows hfilter, stripFrom_cons_of_shows hc, State.step, if_pos hc]
    refine congrArg (c :: ·) ?_
    by_cases hascii : c.toNat < 0x80
    · rw [if_pos hascii]
      exact ih.interrupted s true hs (hlater (passes_of_shows hascii hc)) hrest
        (fun hfalse => by cases hfalse)
    · rw [if_neg hascii, filterFrom_ground]
      exact ih.together .ground hrest
  · have hfilter : ¬ (judging s showing).shows c = true :=
      fun hshows => hc (State.ground_shows_of_shows hshows)
    rw [State.step, if_neg hc] at hrest
    rw [filterFrom_cons_of_not_shows hfilter, stripFrom_cons_of_not_shows hc, State.step, if_neg hc]
    -- escape, cancel and substitute bring both readers into the same state
    by_cases hescape : c = escapeChar
    · rw [hescape, State.next_escapeChar, State.next_escapeChar]
      rw [hescape, State.next_escapeChar] at hrest
      exact ih.together .escape hrest
    rw [State.ground_next hescape] at hrest ⊢
    by_cases hends : c = '\x18' ∨ c = '\x1a'
    · rw [State.next_of_ends hends]
      exact ih.together .ground hrest
    have hpasses : Passes c := ⟨lt_of_not_shows hc, hescape, hends⟩
    have hhidden : State.ground.shows c = false := by simpa using hc
    rw [State.next_eq_self hs hpasses hhidden]
    refine ih.interrupted s false hs (hlater hpasses) hrest (fun _ d hd hshows => ?_)
    cases hbreak : isBreak d with
    | true => rfl
    | false =>
      obtain ⟨w, rfl⟩ := List.head?_eq_some_iff.mp hd
      exact absurd (.of_hidden hpasses hhidden hshows hbreak) hresumption

end Agree

theorem agree (cs : Text) : Agree cs := by
  induction cs with
  | nil => exact .nil
  | cons c cs ih =>
    refine ⟨fun s h => ih.cons_together h, fun s showing hs hresumption h hhead => ?_⟩
    exact ih.cons_interrupted hs hresumption h fun hshowing => hhead hshowing c rfl

/-- **A stream without colours writes the plain text, unless the text resumes a sequence.** -/
theorem filter_eq_strip_iff {t : Text} : filter t = strip t ↔ ¬ Resumes t :=
  ⟨fun heq h => filterFrom_ne_of_resumesFrom h heq, (agree t).together .ground⟩

end Salutation.Terminal
