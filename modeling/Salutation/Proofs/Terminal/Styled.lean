import Mathlib.Data.List.Basic
import Salutation.Proofs.Terminal.Sequence
import Salutation.Terminal.Styled
import Salutation.Text.CodeRange

/-!
# What a plain text shows

A plain text is **clean**: it has no control characters but the breaks (`IsClean`).  That holds in
whatever state a terminal begins to read, and of whatever it reads, since a character that is shown
inside of a sequence is shown outside of it too (`shows_of_mem_stripFrom`, by induction on the
text, for all states at once).

* `strip_eq_self_iff`: stripping leaves a text as it is exactly if the text is clean, and so
  stripping twice is stripping once;
* `Plainly.coloured_eq`: a styled text is written plainly span by span, if its normal spans are
  clean.  A span of another style may leave a sequence unfinished: what comes behind its text begins
  with an escape, which ends any sequence (`stripFrom_append_escapeChar`), so the sequence takes
  nothing of the next span.  Both ways to write without colours are such (`plainly_strip`,
  `plainly_filter`), so where they differ, they do within a span;
* `Styled.plain_eq_bare`, `Styled.strip_append_of_isClean`: where the texts of all spans are clean,
  colours leave no trace;
* `Styled.map_strip_splitOn_coloured`: lines are stripped one by one, if no span but a normal one
  breaks them.
-/

namespace Salutation.Terminal

/-- The control characters that are not shown. -/
def hiddenControls : CodeRanges := [(0x00, 0x08), (0x0B, 0x0B), (0x0E, 0x1F), (0x7F, 0x7F)]

/-- **Whether a text has no hidden controls.** -/
def IsClean (t : Text) : Prop :=
  ∀ c ∈ t, ∀ r ∈ hiddenControls, ¬ (r.1 ≤ c.toNat ∧ c.toNat ≤ r.2)

theorem isBreak_iff {c : Char} :
    isBreak c = true ↔ c.toNat = 0x09 ∨ c.toNat = 0x0A ∨ c.toNat = 0x0C ∨ c.toNat = 0x0D := by
  have hcode : ∀ d : Char, c = d ↔ c.toNat = d.toNat := fun d => Char.toNat_inj.symm
  simp only [isBreak, Bool.or_eq_true, decide_eq_true_eq, hcode, or_assoc]
  rfl

/-- **Outside of sequences everything is shown but the hidden controls.** -/
theorem State.ground_shows_iff {c : Char} :
    ground.shows c = true ↔ ∀ r ∈ hiddenControls, ¬ (r.1 ≤ c.toNat ∧ c.toNat ≤ r.2) := by
  simp only [shows, Bool.or_eq_true, Bool.and_eq_true, decide_eq_true_eq, isBreak_iff,
    hiddenControls, List.forall_mem_cons, List.not_mem_nil, false_imp_iff, implies_true, and_true]
  omega

theorem isClean_iff {t : Text} : IsClean t ↔ ∀ c ∈ t, State.ground.shows c = true := by
  simp only [IsClean, State.ground_shows_iff]

/-! ### What is left of a text -/

/-- What is shown of a text, whatever the state it is read in, would be shown outside of
sequences. -/
theorem shows_of_mem_stripFrom {c : Char} (t : Text) :
    ∀ s : State, c ∈ stripFrom s t → State.ground.shows c = true := by
  induction t with
  | nil =>
    intro s hc
    cases hc
  | cons d t ih =>
    intro s hc
    by_cases hd : s.shows d = true
    · rw [stripFrom_cons_of_shows hd] at hc
      rcases List.mem_cons.mp hc with rfl | hc
      · exact State.ground_shows_of_shows hd
      · exact ih _ hc
    · rw [stripFrom_cons_of_not_shows hd] at hc
      exact ih _ hc

/-- **What is left of a text is clean**, also of one that leaves a sequence unfinished. -/
theorem isClean_strip (t : Text) : IsClean (strip t) :=
  isClean_iff.mpr fun _ hc => shows_of_mem_stripFrom t .ground hc

/-- **Stripping leaves a text as it is exactly if the text is clean.** -/
theorem strip_eq_self_iff {t : Text} : strip t = t ↔ IsClean t := by
  constructor
  · intro h
    rw [← h]
    exact isClean_strip t
  · exact fun h => strip_eq_self (isClean_iff.mp h)

theorem strip_strip (t : Text) : strip (strip t) = strip t :=
  strip_eq_self_iff.mpr (isClean_strip t)

/-- What a stream without colours lets through is clean too. -/
theorem isClean_filter (t : Text) : IsClean (filter t) := by
  have hsublist : (filter t).Sublist (strip t) := filterFrom_sublist t (Or.inl rfl)
  exact fun c hc => isClean_strip t c (hsublist.subset hc)

theorem strip_filter (t : Text) : strip (filter t) = filter t :=
  strip_eq_self_iff.mpr (isClean_filter t)

/-! ### What a rendition hides -/

/-- Whether a terminal reads the parameters of a control sequence, or is about to. -/
def State.readsParameters (s : State) : Prop := s = .csiEntry ∨ s = .csiParameter

theorem inRange_iff {lo hi : Nat} {c : Char} :
    inRange lo hi c = true ↔ lo ≤ c.toNat ∧ c.toNat ≤ hi := by
  rw [inRange, Bool.and_eq_true, decide_eq_true_eq, decide_eq_true_eq]

theorem toNat_of_isDigit {c : Char} (h : c.isDigit = true) :
    0x30 ≤ c.toNat ∧ c.toNat ≤ 0x39 := by
  rw [Char.isDigit, Bool.and_eq_true, decide_eq_true_eq, decide_eq_true_eq] at h
  exact h

theorem State.next_digit {s : State} (hs : s.readsParameters) {c : Char} (hc : c.isDigit = true) :
    s.next c = .csiParameter := by
  obtain ⟨hlo, hhi⟩ := toNat_of_isDigit hc
  have hends : ¬ ((c = '\x18' || c = '\x1a') = true) := by
    rw [Bool.or_eq_true, decide_eq_true_eq, decide_eq_true_eq]
    rintro (rfl | rfl) <;> exact absurd hc (by decide)
  have hescape : c ≠ escapeChar := by
    rintro rfl
    exact absurd hc (by decide)
  unfold next
  rw [if_neg hends, if_neg hescape]
  rcases hs with rfl | rfl
  · show (if inRange 0x20 0x2F c then csiIntermediate else _) = _
    rw [if_neg (by rw [inRange_iff]; omega), if_pos (by rw [inRange_iff]; omega)]
  · show (if inRange 0x20 0x2F c then csiIntermediate else _) = _
    rw [if_neg (by rw [inRange_iff]; omega), if_neg (by rw [inRange_iff]; omega),
      if_neg (by rw [inRange_iff]; omega)]

/-- **Whether nothing of a text is shown** that is read in a state and ends in another. -/
def Hides : State → Text → State → Prop
  | s, [], s' => s = s'
  | s, c :: u, s' => ¬ s.shows c = true ∧ Hides (s.next c) u s'

namespace Hides

variable {s s' s'' : State} {u v : Text}

theorem append (h : Hides s u s') (h' : Hides s' v s'') : Hides s (u ++ v) s'' := by
  induction u generalizing s with
  | nil => exact h ▸ h'
  | cons c u ih => exact ⟨h.1, ih h.2⟩

theorem stripFrom_append (h : Hides s u s') (v : Text) :
    stripFrom s (u ++ v) = stripFrom s' v := by
  induction u generalizing s with
  | nil => exact congrArg (stripFrom · v) h
  | cons c u ih =>
    rw [List.cons_append, stripFrom_cons_of_not_shows h.1, State.step, if_neg h.1, ih h.2]

theorem filterFrom_append (h : Hides s u s') (v : Text) :
    filterFrom s false (u ++ v) = filterFrom s' false v := by
  induction u generalizing s with
  | nil => exact congrArg (filterFrom · false v) h
  | cons c u ih =>
    have hhidden : ¬ (judging s false).shows c = true := h.1
    rw [List.cons_append, filterFrom_cons_of_not_shows hhidden, ih h.2]

end Hides

/-- Inside a control sequence nothing is shown up to the letter that ends it. -/
theorem hides_parameters {s : State} {u : Text} (hs : s.readsParameters)
    (hu : ∀ c ∈ u, c.isDigit = true) : Hides s (u ++ ['m']) .ground := by
  induction u generalizing s with
  | nil => rcases hs with rfl | rfl <;> exact ⟨by decide, rfl⟩
  | cons c u ih =>
    obtain ⟨hc, hu⟩ := List.forall_mem_cons.mp hu
    obtain ⟨hlo, hhi⟩ := toNat_of_isDigit hc
    have hhidden : ¬ s.shows c = true := by
      rcases hs with rfl | rfl <;> rw [State.shows, isBreak_iff] <;> omega
    refine ⟨hhidden, ?_⟩
    rw [State.next_digit hs hc]
    exact ih (Or.inr rfl) hu

/-- **A rendition is hidden**, and what comes behind it is read outside of sequences. -/
theorem hides_rendition (n : Nat) : Hides .ground (rendition n) .ground := by
  have hopen : Hides .ground [escapeChar, '['] .csiEntry := ⟨by decide, by decide, rfl⟩
  have hdigits : ∀ c ∈ Nat.toDigits 10 n, c.isDigit = true :=
    fun c hc => Nat.isDigit_of_mem_toDigits (by decide) (by decide) hc
  rw [rendition, List.append_assoc]
  exact hopen.append (hides_parameters (Or.inl rfl) hdigits)

/-! ### An escape ends whatever a text leaves unfinished -/

section Escape

variable (u v : Text)

/-- Behind an escape, a text is read for itself. -/
theorem stripFrom_append_escapeChar :
    ∀ s : State, stripFrom s (u ++ escapeChar :: v) = stripFrom s u ++ stripFrom .escape v := by
  induction u with
  | nil =>
    intro s
    have hhidden : ¬ s.shows escapeChar = true := by cases s <;> decide
    rw [List.nil_append, stripFrom_cons_of_not_shows hhidden, State.step, if_neg hhidden,
      State.next_escapeChar, stripFrom, List.nil_append]
  | cons c u ih =>
    intro s
    by_cases hc : s.shows c = true
    · rw [List.cons_append, stripFrom_cons_of_shows hc, stripFrom_cons_of_shows hc, ih,
        List.cons_append]
    · rw [List.cons_append, stripFrom_cons_of_not_shows hc, stripFrom_cons_of_not_shows hc, ih]

theorem filterFrom_append_escapeChar : ∀ (s : State) (showing : Bool),
    filterFrom s showing (u ++ escapeChar :: v)
      = filterFrom s showing u ++ filterFrom .escape false v := by
  induction u with
  | nil =>
    intro s showing
    have hhidden : ¬ (judging s showing).shows escapeChar = true := by
      cases showing <;> cases s <;> decide
    rw [List.nil_append, filterFrom_cons_of_not_shows hhidden, State.next_escapeChar, filterFrom,
      List.nil_append]
  | cons c u ih =>
    intro s showing
    by_cases hc : (judging s showing).shows c = true
    · rw [List.cons_append, filterFrom_cons_of_shows hc, filterFrom_cons_of_shows hc, ih,
        List.cons_append]
    · rw [List.cons_append, filterFrom_cons_of_not_shows hc, filterFrom_cons_of_not_shows hc, ih]

end Escape

/-! ### Colours leave no trace -/

/-- **A way to write a text without its colours**: what it writes is clean, a clean text is written
as it is, a rendition is left out, and it ends what a text in front of it leaves unfinished. -/
structure Plainly (write : Text → Text) : Prop where
  isClean : ∀ t, IsClean (write t)
  sublist : ∀ t, (write t).Sublist t
  append : ∀ {u : Text}, IsClean u → ∀ v, write (u ++ v) = u ++ write v
  rendition_append : ∀ n v, write (rendition n ++ v) = write v
  append_rendition : ∀ u n v, write (u ++ (rendition n ++ v)) = write u ++ write v

theorem stripFrom_sublist (t : Text) : ∀ s : State, (stripFrom s t).Sublist t := by
  induction t with
  | nil => exact fun _ => List.Sublist.refl []
  | cons c t ih =>
    intro s
    rw [stripFrom]
    split
    · exact (ih _).cons_cons c
    · exact (ih _).cons c

theorem plainly_strip : Plainly strip where
  isClean := isClean_strip
  sublist t := stripFrom_sublist t .ground
  append {u} hu v := by
    have hshown := isClean_iff.mp hu
    unfold strip
    clear hu
    induction u with
    | nil => rfl
    | cons c u ih =>
      obtain ⟨hc, hu⟩ := List.forall_mem_cons.mp hshown
      rw [List.cons_append, stripFrom_cons_of_shows hc, State.step, if_pos hc, ih hu,
        List.cons_append]
  rendition_append n v := (hides_rendition n).stripFrom_append v
  append_rendition u n v := by
    have hescape : strip (u ++ (rendition n ++ v)) = strip u ++ strip (rendition n ++ v) :=
      stripFrom_append_escapeChar u _ .ground
    rw [hescape]
    exact congrArg (strip u ++ ·) ((hides_rendition n).stripFrom_append v)

theorem plainly_filter : Plainly filter where
  isClean := isClean_filter
  sublist t := (filterFrom_sublist t (Or.inl rfl)).trans (stripFrom_sublist t .ground)
  append {u} hu v := by
    have hshown := isClean_iff.mp hu
    unfold filter
    clear hu
    induction u with
    | nil => rfl
    | cons c u ih =>
      obtain ⟨hc, hu⟩ := List.forall_mem_cons.mp hshown
      have hjudged : (judging .ground false).shows c = true := hc
      rw [List.cons_append, filterFrom_cons_of_shows hjudged, ite_self, filterFrom_ground, ih hu,
        List.cons_append]
  rendition_append n v := (hides_rendition n).filterFrom_append v
  append_rendition u n v := by
    have hescape : filter (u ++ (rendition n ++ v)) = filter u ++ filter (rendition n ++ v) :=
      filterFrom_append_escapeChar u _ .ground false
    rw [hescape]
    exact congrArg (filter u ++ ·) ((hides_rendition n).filterFrom_append v)

namespace Plainly

variable {write : Text → Text} (h : Plainly write)

include h

theorem nil : write [] = [] := List.sublist_nil.mp (h.sublist [])

theorem eq_self {t : Text} (ht : IsClean t) : write t = t := by
  have happend := h.append ht []
  rwa [h.nil, List.append_nil] at happend

theorem renditions_append (ns : List Nat) (v : Text) :
    write (ns.flatMap rendition ++ v) = write v := by
  induction ns with
  | nil => rfl
  | cons n ns ih => rw [List.flatMap_cons, List.append_assoc, h.rendition_append, ih]

/-- The text of a span is written for itself, and so is what comes behind the span. -/
theorem span_append {s : Span} (hs : s.style = .normal → IsClean s.text) (v : Text) :
    write (s.coloured ++ v) = write s.text ++ write v := by
  unfold Span.coloured
  split
  · next hnormal => rw [h.append (hs hnormal), h.eq_self (hs hnormal)]
  · rw [List.append_assoc, List.append_assoc, h.renditions_append, h.append_rendition]

/-- **A styled text is written span by span**, if its normal spans are clean, and what comes behind
it is written for itself. -/
theorem coloured_append {t : Styled} (ht : ∀ s ∈ t, s.style = .normal → IsClean s.text) (v : Text) :
    write (t.coloured ++ v) = (t.flatMap fun s => write s.text) ++ write v := by
  unfold Styled.coloured
  induction t with
  | nil => rfl
  | cons s t ih =>
    obtain ⟨hs, ht⟩ := List.forall_mem_cons.mp ht
    rw [List.flatMap_cons, List.flatMap_cons, List.append_assoc, List.append_assoc,
      h.span_append hs, ih ht]

theorem coloured_eq {t : Styled} (ht : ∀ s ∈ t, s.style = .normal → IsClean s.text) :
    write t.coloured = t.flatMap fun s => write s.text := by
  have hcoloured := h.coloured_append ht []
  rwa [h.nil, List.append_nil, List.append_nil] at hcoloured

end Plainly

/-! ### What colours add -/

/-- A rendition holds no line feed: it is an escape, a bracket, digits and a letter. -/
theorem lineFeed_not_mem_rendition (n : Nat) : '\n' ∉ rendition n := by
  have hdigits : '\n' ∉ Nat.toDigits 10 n := by
    intro h
    have hdigit := Nat.isDigit_of_mem_toDigits (by decide) (by decide) h
    exact absurd hdigit (by decide)
  rw [rendition, List.mem_append, List.mem_append]
  rintro ((h | h) | h)
  · exact absurd h (by decide)
  · exact hdigits h
  · exact absurd h (by decide)

theorem lineFeed_not_mem_renditions (ns : List Nat) : '\n' ∉ ns.flatMap rendition := by
  intro h
  obtain ⟨n, -, hn⟩ := List.mem_flatMap.mp h
  exact lineFeed_not_mem_rendition n hn

theorem Span.lineFeed_not_mem_coloured {s : Span} (h : '\n' ∉ s.text) : '\n' ∉ s.coloured := by
  unfold Span.coloured
  split
  · exact h
  · rw [List.mem_append, List.mem_append]
    rintro ((hmem | hmem) | hmem)
    · exact lineFeed_not_mem_renditions _ hmem
    · exact h hmem
    · exact lineFeed_not_mem_rendition 0 hmem

namespace Styled

variable {t : Styled}

/-- Colours break no line. -/
theorem lineFeed_not_mem_coloured (h : ∀ s ∈ t, '\n' ∉ s.text) : '\n' ∉ t.coloured := by
  intro hmem
  obtain ⟨s, hs, hcoloured⟩ := List.mem_flatMap.mp hmem
  exact s.lineFeed_not_mem_coloured (h s hs) hcoloured

theorem plain_eq_flatMap_strip (h : ∀ s ∈ t, s.style = .normal → IsClean s.text) :
    t.plain = t.flatMap fun s => strip s.text := plainly_strip.coloured_eq h

/-- A text of clean spans is stripped to their texts. -/
theorem flatMap_strip_eq_bare (h : ∀ s ∈ t, IsClean s.text) :
    (t.flatMap fun s => strip s.text) = t.bare :=
  List.flatMap_congr fun s hs => strip_eq_self_iff.mpr (h s hs)

theorem isClean_bare (h : ∀ s ∈ t, IsClean s.text) : IsClean t.bare := by
  intro c hc
  obtain ⟨s, hs, hcs⟩ := List.mem_flatMap.mp hc
  exact h s hs c hcs

/-- **Colours of clean spans leave no trace**, whatever comes behind them. -/
theorem strip_append_of_isClean (h : ∀ s ∈ t, IsClean s.text) (isColoured : Bool) (v : Text) :
    strip ((if isColoured then t.coloured else t.bare) ++ v) = t.bare ++ strip v := by
  cases isColoured with
  | true =>
    rw [← flatMap_strip_eq_bare h]
    exact plainly_strip.coloured_append (fun s hs _ => h s hs) v
  | false => exact plainly_strip.append (isClean_bare h) v

/-- **Where the texts of the spans are clean, colours leave no trace.** -/
theorem plain_eq_bare (h : ∀ s ∈ t, IsClean s.text) : t.plain = t.bare := by
  rw [plain_eq_flatMap_strip fun s hs _ => h s hs, flatMap_strip_eq_bare h]

end Styled

/-! ### Lines are stripped one by one -/

/-- **Whether only the normal spans of a text break its lines.** -/
def Styled.BreaksNormally (t : Styled) : Prop := ∀ s ∈ t, s.style ≠ .normal → '\n' ∉ s.text

namespace Styled

variable {s : Span} {t u : Styled}

instance : DecidablePred BreaksNormally :=
  fun t => inferInstanceAs (Decidable (∀ s ∈ t, s.style ≠ .normal → '\n' ∉ s.text))

theorem breaksNormally_nil : BreaksNormally [] := fun _ h => absurd h List.not_mem_nil

theorem breaksNormally_cons :
    BreaksNormally (s :: t) ↔ (s.style ≠ .normal → '\n' ∉ s.text) ∧ BreaksNormally t :=
  List.forall_mem_cons

theorem breaksNormally_append :
    BreaksNormally (t ++ u) ↔ BreaksNormally t ∧ BreaksNormally u := List.forall_mem_append

theorem breaksNormally_flatMap {α : Type} {as : List α} {f : α → Styled} :
    BreaksNormally (as.flatMap f) ↔ ∀ a ∈ as, BreaksNormally (f a) := List.forall_mem_flatMap

end Styled

section Lines

variable {u u' v w : Text}

/-- A text without line feeds, in front of others, is stripped in the first of their lines. -/
theorem map_strip_splitOn_append (hu : ∀ w, strip (u ++ w) = u' ++ strip w) (h : '\n' ∉ u)
    (h' : '\n' ∉ u') (hlines : (v.splitOn '\n').map strip = w.splitOn '\n') :
    ((u ++ v).splitOn '\n').map strip = (u' ++ w).splitOn '\n' := by
  rw [splitOn_append_of_not_mem h, splitOn_append_of_not_mem h', ← hlines]
  cases v.splitOn '\n' with
  | nil => rfl
  | cons l ls => rw [List.modifyHead_cons, List.map_cons, List.map_cons, List.modifyHead_cons, hu]

theorem map_strip_splitOn_append_of_isClean (hu : IsClean u)
    (hlines : (v.splitOn '\n').map strip = w.splitOn '\n') :
    ((u ++ v).splitOn '\n').map strip = (u ++ w).splitOn '\n' := by
  induction u with
  | nil => exact hlines
  | cons c u ih =>
    obtain ⟨hc, htail⟩ := List.forall_mem_cons.mp hu
    rw [List.cons_append, List.cons_append]
    by_cases hbreak : c = '\n'
    · subst hbreak
      have hcut : ∀ t : Text, ('\n' :: t).splitOn '\n' = [] :: t.splitOn '\n' :=
        fun t => List.splitOn_append_cons_self_of_not_mem List.not_mem_nil t
      rw [hcut, hcut, List.map_cons, plainly_strip.nil, ih htail]
    · have hclean : IsClean [c] := List.forall_mem_singleton.mpr hc
      have hmem : '\n' ∉ [c] := fun h => hbreak (List.mem_singleton.mp h).symm
      exact map_strip_splitOn_append (fun w => plainly_strip.append hclean w) hmem hmem (ih htail)

/-- **The lines of a coloured text are stripped one by one**, if its normal spans are clean and no
other span breaks a line. -/
theorem Styled.map_strip_splitOn_coloured {t : Styled}
    (ht : ∀ s ∈ t, s.style = .normal → IsClean s.text) (hlines : t.BreaksNormally) :
    (t.coloured.splitOn '\n').map strip = t.plain.splitOn '\n' := by
  rw [plain_eq_flatMap_strip ht]
  unfold coloured
  induction t with
  | nil => rfl
  | cons s t ih =>
    obtain ⟨hs, ht⟩ := List.forall_mem_cons.mp ht
    obtain ⟨hline, hlines⟩ := breaksNormally_cons.mp hlines
    rw [List.flatMap_cons, List.flatMap_cons]
    by_cases hnormal : s.style = .normal
    · have hcoloured : s.coloured = s.text := if_pos hnormal
      rw [hcoloured, plainly_strip.eq_self (hs hnormal)]
      exact map_strip_splitOn_append_of_isClean (hs hnormal) (ih ht hlines)
    · have hstripped : '\n' ∉ strip s.text :=
        fun h => hline hnormal ((plainly_strip.sublist s.text).subset h)
      exact map_strip_splitOn_append (plainly_strip.span_append hs)
        (s.lineFeed_not_mem_coloured (hline hnormal)) hstripped (ih ht hlines)

end Lines

end Salutation.Terminal
