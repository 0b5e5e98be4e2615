import Mathlib.Algebra.Group.Nat.Even
import Mathlib.Data.List.DropRight
import Mathlib.Tactic.IntervalCases
import Mathlib.Tactic.SplitIfs
import Salutation.Text.Quoted

/-!
# Quoted text is read back, and shows nothing that is concealed

* `unescape_escapeAll`: the inside of a quoted text is read back as the text it was written from, to
  its end.  So two texts that are written the same are the same (`text_injective`).
* `isConcealed_of_mem_escapeAll`: no character of it is concealed.  So it holds no line break and no
  control character.
* `enclosable_escapeAll`: every quote in it is escaped, and it does not escape the quote that closes
  it (`Enclosable`).  So it ends where it should.

All three go character by character: one lemma for what is written for a single character
(`unescapeFrom_escape`, `isConcealed_of_mem_escape`, `enclosable_escape`), and an induction on the
text.  What is written for a single character takes one of four forms (`escape_cases`).
-/

namespace Salutation.Quoted

/-- The two characters that serve as quotes. -/
def IsQuote (q : Char) : Prop := q = '"' ∨ q = '\''

variable {q : Char}

/-! ### The forms of a character -/

/-- Whether a character is written as it is between two `quote` characters. -/
def StandsForItself (quote c : Char) : Prop := c ≠ quote ∧ c ≠ '\\' ∧ isConcealed c = false

/-- **How a character is written**: behind a backslash by its letter, as the quote or by its number,
or as it is. -/
theorem escape_cases (q c : Char) :
    (∃ l, letter? c = some l ∧ escape q c = ['\\', l])
      ∨ (c = q ∧ escape q c = ['\\', q])
      ∨ (isConcealed c = true
          ∧ escape q c = ['\\', 'u', '{'] ++ Nat.toDigits 16 c.toNat ++ ['}'])
      ∨ (StandsForItself q c ∧ escape q c = [c]) := by
  unfold escape
  split
  · next l h => exact Or.inl ⟨l, h, rfl⟩
  · next h =>
    -- a character without a letter is no backslash
    have hbackslash : c ≠ '\\' := by
      rintro rfl
      cases h
    split_ifs with hquote hconcealed
    · exact Or.inr (Or.inl ⟨hquote, by rw [hquote]⟩)
    · exact Or.inr (Or.inr (Or.inl ⟨hconcealed, rfl⟩))
    · have hshown : isConcealed c = false := Bool.eq_false_iff.mpr hconcealed
      exact Or.inr (Or.inr (Or.inr ⟨⟨hquote, hbackslash, hshown⟩, rfl⟩))

/-! ### Letters -/

theorem eq_of_letter?_eq_some {c l : Char} (h : letter? c = some l) :
    (c = '\x00' ∧ l = '0') ∨ (c = '\t' ∧ l = 't') ∨ (c = '\n' ∧ l = 'n') ∨ (c = '\r' ∧ l = 'r')
      ∨ (c = '\\' ∧ l = '\\') := by
  unfold letter? at h
  split at h
  · exact Or.inl ⟨rfl, (Option.some.inj h).symm⟩
  · exact Or.inr (Or.inl ⟨rfl, (Option.some.inj h).symm⟩)
  · exact Or.inr (Or.inr (Or.inl ⟨rfl, (Option.some.inj h).symm⟩))
  · exact Or.inr (Or.inr (Or.inr (Or.inl ⟨rfl, (Option.some.inj h).symm⟩)))
  · exact Or.inr (Or.inr (Or.inr (Or.inr ⟨rfl, (Option.some.inj h).symm⟩)))
  · cases h

theorem unescapeFrom_letter {c l : Char} (h : letter? c = some l) (t : Text) :
    unescapeFrom q .plain ('\\' :: l :: t) = (unescapeFrom q .plain t).map (c :: ·) := by
  rcases eq_of_letter?_eq_some h with ⟨rfl, rfl⟩ | ⟨rfl, rfl⟩ | ⟨rfl, rfl⟩ | ⟨rfl, rfl⟩
      | ⟨rfl, rfl⟩ <;>
    simp [unescapeFrom, Reading.step, ofLetter?, Function.comp_def]

theorem unescapeFrom_quote (hq : IsQuote q) (t : Text) :
    unescapeFrom q .plain ('\\' :: q :: t) = (unescapeFrom q .plain t).map (q :: ·) := by
  rcases hq with rfl | rfl <;> simp [unescapeFrom, Reading.step, ofLetter?, Function.comp_def]

/-! ### Numbers -/

theorem hexValue?_digitChar {d : Nat} (h : d < 16) : hexValue? (Nat.digitChar d) = some d := by
  interval_cases d <;> decide

theorem digitChar_ne_brace {d : Nat} (h : d < 16) : Nat.digitChar d ≠ '}' := by
  interval_cases d <;> decide

theorem isConcealed_digitChar {d : Nat} (h : d < 16) : isConcealed (Nat.digitChar d) = false := by
  interval_cases d <;> decide

theorem not_isQuote_digitChar {d : Nat} (h : d < 16) : ¬ IsQuote (Nat.digitChar d) := by
  unfold IsQuote
  interval_cases d <;> decide

theorem unescapeFrom_digit {d : Nat} (h : d < 16) (v : Option Nat) (t : Text) :
    unescapeFrom q (.digits v) (Nat.digitChar d :: t)
      = unescapeFrom q (.digits (some (16 * v.getD 0 + d))) t := by
  rw [unescapeFrom, Reading.step, if_neg (digitChar_ne_brace h), hexValue?_digitChar h]
  exact Option.map_id_apply

/-- The hexadecimal digits of a number are read as that number. -/
theorem unescapeFrom_toDigits (n : Nat) : ∀ t : Text,
    unescapeFrom q (.digits none) (Nat.toDigits 16 n ++ t)
      = unescapeFrom q (.digits (some n)) t := by
  induction n using Nat.strong_induction_on with
  | _ n ih =>
  intro t
  rcases Nat.lt_or_ge n 16 with hn | hn
  · rw [Nat.toDigits_of_lt_base hn, List.singleton_append, unescapeFrom_digit hn]
    simp
  · rw [Nat.toDigits_of_base_le (by omega) hn, List.append_assoc, List.singleton_append,
      ih (n / 16) (by omega), unescapeFrom_digit (Nat.mod_lt n (by omega)), Option.getD_some,
      Nat.div_add_mod]

theorem exists_digitChar_of_mem_toDigits (n : Nat) :
    ∀ c ∈ Nat.toDigits 16 n, ∃ d, d < 16 ∧ c = Nat.digitChar d := by
  induction n using Nat.strong_induction_on with
  | _ n ih =>
  intro c hc
  rcases Nat.lt_or_ge n 16 with hn | hn
  · rw [Nat.toDigits_of_lt_base hn, List.mem_singleton] at hc
    exact ⟨n, hn, hc⟩
  · rw [Nat.toDigits_of_base_le (by omega) hn, List.mem_append, List.mem_singleton] at hc
    rcases hc with hc | hc
    · exact ih (n / 16) (by omega) c hc
    · exact ⟨n % 16, Nat.mod_lt n (by omega), hc⟩

/-- A number in braces is read back as the character that it is the number of. -/
theorem unescapeFrom_number (c : Char) (t : Text) :
    unescapeFrom q .plain (['\\', 'u', '{'] ++ Nat.toDigits 16 c.toNat ++ ['}'] ++ t)
      = (unescapeFrom q .plain t).map (c :: ·) := by
  have hvalid : c.toNat.isValidChar := c.valid
  have hopen : unescapeFrom q .plain
        ('\\' :: 'u' :: '{' :: (Nat.toDigits 16 c.toNat ++ '}' :: t))
      = unescapeFrom q (.digits none) (Nat.toDigits 16 c.toNat ++ '}' :: t) := by
    simp [unescapeFrom, Reading.step]
  rw [List.append_assoc, List.append_assoc, List.singleton_append]
  show unescapeFrom q .plain ('\\' :: 'u' :: '{' :: (Nat.toDigits 16 c.toNat ++ '}' :: t)) = _
  rw [hopen, unescapeFrom_toDigits, unescapeFrom, Reading.step, if_pos rfl, Option.bind_some,
    ofNumber?, if_pos hvalid, Char.ofNat_toNat]
  rfl

/-! ### Reading back -/

/-- **What is written for one character is read back**, whatever comes after it. -/
theorem unescapeFrom_escape (hq : IsQuote q) (c : Char) (t : Text) :
    unescapeFrom q .plain (escape q c ++ t) = (unescapeFrom q .plain t).map (c :: ·) := by
  rcases escape_cases q c with ⟨l, hl, h⟩ | ⟨rfl, h⟩ | ⟨-, h⟩ | ⟨hself, h⟩ <;> rw [h]
  · exact unescapeFrom_letter hl t
  · exact unescapeFrom_quote hq t
  · exact unescapeFrom_number c t
  · rw [List.singleton_append, unescapeFrom, Reading.step, if_neg hself.2.1]
    rfl

/-- **The inside of a quoted text is read back**, to its end. -/
theorem unescape_escapeAll (hq : IsQuote q) (t : Text) : unescape q (escapeAll q t) = some t := by
  unfold unescape escapeAll
  induction t with
  | nil => rfl
  | cons c t ih => rw [List.flatMap_cons, unescapeFrom_escape hq, ih, Option.map_some]

theorem escapeAll_injective (hq : IsQuote q) : Function.Injective (escapeAll q) := by
  intro s t h
  have hs := unescape_escapeAll hq s
  rw [h, unescape_escapeAll hq t] at hs
  exact (Option.some.inj hs).symm

/-- **Quoted texts are told apart**: two texts that are written the same are the same. -/
theorem text_injective : Function.Injective text := by
  intro s t h
  unfold text at h
  rw [List.cons_append, List.cons_append, List.cons.injEq] at h
  exact escapeAll_injective (Or.inl rfl) (List.append_cancel_right h.2)

/-! ### What is shown -/

/-- **Nothing concealed is written** for a character. -/
theorem isConcealed_of_mem_escape (hq : IsQuote q) {c d : Char} (hd : d ∈ escape q c) :
    isConcealed d = false := by
  rcases escape_cases q c with ⟨l, hl, h⟩ | ⟨rfl, h⟩ | ⟨-, h⟩ | ⟨hself, h⟩ <;> rw [h] at hd
  · rcases eq_of_letter?_eq_some hl with ⟨-, rfl⟩ | ⟨-, rfl⟩ | ⟨-, rfl⟩ | ⟨-, rfl⟩ | ⟨-, rfl⟩ <;>
      simp only [List.mem_cons, List.not_mem_nil, or_false] at hd <;>
      rcases hd with rfl | rfl <;> decide
  · simp only [List.mem_cons, List.not_mem_nil, or_false] at hd
    rcases hd with rfl | rfl
    · decide
    · rcases hq with rfl | rfl <;> decide
  · simp only [List.mem_append, List.mem_cons, List.not_mem_nil, or_false] at hd
    rcases hd with ((rfl | rfl | rfl) | hd) | rfl
    · decide
    · decide
    · decide
    · obtain ⟨n, hn, rfl⟩ := exists_digitChar_of_mem_toDigits _ d hd
      exact isConcealed_digitChar hn
    · decide
  · rw [List.mem_singleton] at hd
    rw [hd]
    exact hself.2.2

theorem isConcealed_of_mem_escapeAll (hq : IsQuote q) {t : Text} {d : Char}
    (hd : d ∈ escapeAll q t) : isConcealed d = false := by
  obtain ⟨c, -, hc⟩ := List.mem_flatMap.mp hd
  exact isConcealed_of_mem_escape hq hc

theorem lineFeed_not_mem_escapeAll (hq : IsQuote q) (t : Text) : '\n' ∉ escapeAll q t := by
  intro h
  have hshown := isConcealed_of_mem_escapeAll hq h
  exact absurd hshown (by decide)

/-! ### Where a quoted text ends -/

/-- Whether a text ends with a backslash that escapes what comes next.  In a row of backslashes
every second one is itself escaped. -/
def EndsInEscape (t : Text) : Prop := Odd (t.rtakeWhile (· = '\\')).length

theorem not_endsInEscape_nil : ¬ EndsInEscape [] := by
  unfold EndsInEscape
  rw [List.rtakeWhile_nil]
  exact Nat.not_odd_zero

theorem endsInEscape_concat_backslash {t : Text} :
    EndsInEscape (t ++ ['\\']) ↔ ¬ EndsInEscape t := by
  have hone : (t ++ ['\\']).rtakeWhile (· = '\\') = t.rtakeWhile (· = '\\') ++ ['\\'] :=
    List.rtakeWhile_concat_pos _ _ _ (by simp)
  unfold EndsInEscape
  rw [hone, List.length_append]
  exact Nat.odd_add_one

theorem not_endsInEscape_concat {c : Char} (hc : c ≠ '\\') (t : Text) :
    ¬ EndsInEscape (t ++ [c]) := by
  unfold EndsInEscape
  rw [List.rtakeWhile_concat_neg _ _ _ (by simpa using hc)]
  exact Nat.not_odd_zero

/-- What stands behind a complete text is read for itself. -/
theorem endsInEscape_append {s : Text} (hs : ¬ EndsInEscape s) (t : Text) :
    EndsInEscape (s ++ t) ↔ EndsInEscape t := by
  induction t using List.reverseRecOn with
  | nil =>
    rw [List.append_nil]
    exact iff_of_false hs not_endsInEscape_nil
  | append_singleton t c ih =>
    rw [← List.append_assoc]
    by_cases hc : c = '\\'
    · rw [hc, endsInEscape_concat_backslash, endsInEscape_concat_backslash, ih]
    · exact iff_of_false (not_endsInEscape_concat hc _) (not_endsInEscape_concat hc _)

/-- **Whether a text can stand between two quotes**: every quote in it is escaped, and the one
behind it is not. -/
structure Enclosable (q : Char) (t : Text) : Prop where
  escaped : ∀ u v, t = u ++ q :: v → EndsInEscape u
  complete : ¬ EndsInEscape t

namespace Enclosable

variable {s t : Text}

theorem nil : Enclosable q [] where
  escaped u v h := by simp at h
  complete := not_endsInEscape_nil

theorem of_not_mem (hmem : q ∉ t) (hend : ¬ EndsInEscape t) : Enclosable q t where
  escaped u _ h := absurd (h ▸ List.mem_append_right u List.mem_cons_self) hmem
  complete := hend

theorem append (hs : Enclosable q s) (ht : Enclosable q t) : Enclosable q (s ++ t) where
  escaped u v h := by
    rcases List.append_eq_append_iff.mp h with ⟨w, rfl, hw⟩ | ⟨w, hw, hv⟩
    · -- the quote stands in the second text
      exact (endsInEscape_append hs.complete w).mpr (ht.escaped w v hw)
    · cases w with
      | nil => exact absurd (ht.escaped [] v hv.symm) not_endsInEscape_nil
      | cons c w =>
        obtain ⟨rfl, -⟩ := List.cons.inj hv
        exact hs.escaped u w hw
  complete h := ht.complete ((endsInEscape_append hs.complete t).mp h)

theorem flatMap {α : Type} {f : α → Text} {as : List α} (h : ∀ a ∈ as, Enclosable q (f a)) :
    Enclosable q (as.flatMap f) := by
  induction as with
  | nil => exact .nil
  | cons a as ih =>
    obtain ⟨ha, has⟩ := List.forall_mem_cons.mp h
    rw [List.flatMap_cons]
    exact ha.append (ih has)

private theorem eq_of_prefix {u v w : Text} (hs : Enclosable q s) (ht : Enclosable q t)
    (hlonger : t = s ++ w) (hrest : q :: u = w ++ q :: v) : s = t ∧ u = v := by
  cases w with
  | nil =>
    rw [List.append_nil] at hlonger
    exact ⟨hlonger.symm, (List.cons.inj hrest).2⟩
  | cons c w =>
    -- the quote behind `s` would stand inside `t`, and no backslash is in front of it
    obtain ⟨rfl, -⟩ := List.cons.inj hrest
    exact absurd (ht.escaped s w hlonger) hs.complete

/-- **The quote behind an enclosed text is found**: it is the first one that is not escaped. -/
theorem append_quote_inj {u v : Text} (hs : Enclosable q s) (ht : Enclosable q t)
    (h : s ++ q :: u = t ++ q :: v) : s = t ∧ u = v := by
  rcases List.append_eq_append_iff.mp h with ⟨w, hlonger, hrest⟩ | ⟨w, hlonger, hrest⟩
  · exact eq_of_prefix hs ht hlonger hrest
  · obtain ⟨hts, hvu⟩ := eq_of_prefix ht hs hlonger hrest
    exact ⟨hts.symm, hvu.symm⟩

end Enclosable

/-- A backslash and what it escapes, be it a letter, the quote or a backslash. -/
theorem enclosable_pair (hq : IsQuote q) (l : Char) : Enclosable q ['\\', l] where
  escaped u v h := by
    cases u with
    | nil =>
      obtain ⟨hbackslash, -⟩ := List.cons.inj h
      rcases hq with rfl | rfl <;> exact absurd hbackslash (by decide)
    | cons c u =>
      obtain ⟨rfl, h⟩ := List.cons.inj h
      have hu : u = [] := by
        cases u with
        | nil => rfl
        | cons d u => simp at h
      rw [hu]
      exact endsInEscape_concat_backslash.mpr not_endsInEscape_nil
  complete := by
    show ¬ EndsInEscape (([] ++ ['\\']) ++ [l])
    by_cases hl : l = '\\'
    · rw [hl, endsInEscape_concat_backslash, endsInEscape_concat_backslash, not_not]
      exact not_endsInEscape_nil
    · exact not_endsInEscape_concat hl _

theorem not_mem_number (hq : IsQuote q) (n : Nat) :
    q ∉ ['\\', 'u', '{'] ++ Nat.toDigits 16 n ++ ['}'] := by
  have hopen : q ∉ ['\\', 'u', '{'] := by rcases hq with rfl | rfl <;> decide
  have hclose : q ∉ ['}'] := by rcases hq with rfl | rfl <;> decide
  have hdigits : q ∉ Nat.toDigits 16 n := by
    intro hmem
    obtain ⟨d, hd, rfl⟩ := exists_digitChar_of_mem_toDigits n q hmem
    exact not_isQuote_digitChar hd hq
  rw [List.mem_append, List.mem_append]
  rintro ((h | h) | h)
  · exact hopen h
  · exact hdigits h
  · exact hclose h

/-- **What is written for one character** can stand between two quotes. -/
theorem enclosable_escape (hq : IsQuote q) (c : Char) : Enclosable q (escape q c) := by
  rcases escape_cases q c with ⟨l, -, h⟩ | ⟨-, h⟩ | ⟨-, h⟩ | ⟨⟨hquote, hbackslash, -⟩, h⟩ <;> rw [h]
  · exact enclosable_pair hq l
  · exact enclosable_pair hq q
  · exact .of_not_mem (not_mem_number hq _) (not_endsInEscape_concat (by decide) _)
  · exact .of_not_mem (by simpa using Ne.symm hquote) (not_endsInEscape_concat hbackslash [])

/-- **The inside of a quoted text ends at the quote that closes it**, and nowhere before. -/
theorem enclosable_escapeAll (hq : IsQuote q) (t : Text) : Enclosable q (escapeAll q t) :=
  .flatMap fun c _ => enclosable_escape hq c

end Salutation.Quoted
