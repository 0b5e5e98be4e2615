import Mathlib.Data.List.Forall2
import Mathlib.Tactic.SplitIfs
import Salutation.Text.Utf8

/-!
# What the reader of bytes finds

The reader of `Salutation.Text.Utf8` walks over a byte string with a table of ranges.  This module
ties it to the encoder of the standard library, `String.utf8EncodeChar`:

* `encodeChar_scalarValue` and `wellFormed_encodeChar`: the byte strings that the table lets through
  (`WellFormed`) are the encodings of characters;
* `segments_encodeChar_append`: the reader finds a character that is encoded in front of anything;
* `flatMap_bytes_segments`: the segments, put together again, are the bytes that were read.  The
  invariant is `Pending.Started`: what is pending is the beginning of a well-formed encoding;
* `leadingChar?_eq_some_iff`: the character that the reader finds first is the one that is encoded in
  front;
* `decode?_eq_some_iff`: the strict reader undoes `encode`, and accepts nothing else.
-/

namespace Salutation.Utf8

/-! ### Bytes and characters -/

private theorem toNat_ofNat_of_lt {n : Nat} (h : n < 256) : (UInt8.ofNat n).toNat = n := by
  rw [UInt8.toNat_ofNat', Nat.mod_eq_of_lt h]

/-- A byte below `80` in an encoding is the whole encoding. -/
theorem toNat_eq_of_mem_encodeChar {c : Char} {b : UInt8} (hb : b ∈ String.utf8EncodeChar c)
    (hascii : b.toNat < 0x80) : c.toNat = b.toNat := by
  rw [← Char.toNat_val]
  simp only [String.utf8EncodeChar] at hb
  split_ifs at hb with h7F h7FF hFFFF
  · rw [List.mem_singleton] at hb
    rw [hb, toNat_ofNat_of_lt (by omega)]
  -- every byte of a longer encoding has its highest bit set
  · simp only [List.mem_cons, List.not_mem_nil, or_false] at hb
    rcases hb with rfl | rfl <;> rw [toNat_ofNat_of_lt (by omega)] at hascii <;> omega
  · simp only [List.mem_cons, List.not_mem_nil, or_false] at hb
    rcases hb with rfl | rfl | rfl <;> rw [toNat_ofNat_of_lt (by omega)] at hascii <;> omega
  · simp only [List.mem_cons, List.not_mem_nil, or_false] at hb
    rcases hb with rfl | rfl | rfl | rfl <;> rw [toNat_ofNat_of_lt (by omega)] at hascii <;> omega

/-- **A byte below `80` in the encoding of a text is a character of the text.** -/
theorem ofNat_mem_of_mem_encode {t : Text} {b : UInt8} (hb : b ∈ encode t)
    (hascii : b.toNat < 0x80) : Char.ofNat b.toNat ∈ t := by
  obtain ⟨c, hc, hbc⟩ := List.mem_flatMap.mp hb
  rw [← toNat_eq_of_mem_encodeChar hbc hascii, Char.ofNat_toNat]
  exact hc

/-! ### Ranges and leading bytes -/

theorem ByteRange.contains_iff {r : ByteRange} {b : UInt8} :
    r.contains b = true ↔ r.lo.toNat ≤ b.toNat ∧ b.toNat ≤ r.hi.toNat := by
  rw [ByteRange.contains, Bool.and_eq_true, decide_eq_true_eq, decide_eq_true_eq,
    UInt8.le_iff_toNat_le, UInt8.le_iff_toNat_le]

/-- The bytes `bs` lie one by one in the ranges `rs`. -/
def Follow (rs : List ByteRange) (bs : Bytes) : Prop :=
  List.Forall₂ (fun r b => r.contains b = true) rs bs

/-- A byte string that the table lets through: a leading byte, and behind it one byte in each of the
ranges that it asks for. -/
def WellFormed : Bytes → Prop
  | [] => False
  | lead :: rest => ∃ rs, followers lead = some rs ∧ Follow rs rest

/-! ### The rows of the table -/

/-- The range of the second byte of three: no overlong form, no surrogate. -/
def secondOfThree (lead : UInt8) : ByteRange :=
  if lead = 0xE0 then ⟨0xA0, 0xBF⟩ else if lead = 0xED then ⟨0x80, 0x9F⟩ else continuation

/-- The range of the second byte of four: no overlong form, nothing above the last code point. -/
def secondOfFour (lead : UInt8) : ByteRange :=
  if lead = 0xF0 then ⟨0x90, 0xBF⟩ else if lead = 0xF4 then ⟨0x80, 0x8F⟩ else continuation

theorem followers_one {a : UInt8} (h : a.toNat ≤ 0x7F) : followers a = some [] := by
  unfold followers
  rw [if_pos (UInt8.le_iff_toNat_le.mpr h)]

theorem followers_two {a : UInt8} (h : 0xC2 ≤ a.toNat ∧ a.toNat ≤ 0xDF) :
    followers a = some [continuation] := by
  unfold followers
  simp only [UInt8.le_iff_toNat_le, UInt8.lt_iff_toNat_lt, ← UInt8.toNat_inj, UInt8.reduceToNat]
  rw [if_neg (by omega), if_neg (by omega), if_pos (by omega)]

theorem followers_three {a : UInt8} (h : 0xE0 ≤ a.toNat ∧ a.toNat ≤ 0xEF) :
    followers a = some [secondOfThree a, continuation] := by
  unfold followers secondOfThree
  simp only [UInt8.le_iff_toNat_le, UInt8.lt_iff_toNat_lt, ← UInt8.toNat_inj, UInt8.reduceToNat]
  rw [if_neg (by omega), if_neg (by omega), if_neg (by omega)]
  by_cases hE0 : a.toNat = 0xE0
  · rw [if_pos hE0, if_pos hE0]
  · rw [if_neg hE0, if_neg hE0]
    by_cases hED : a.toNat = 0xED
    · rw [if_pos hED, if_pos hED]
    · rw [if_neg hED, if_neg hED, if_pos (by omega)]

theorem followers_four {a : UInt8} (h : 0xF0 ≤ a.toNat ∧ a.toNat ≤ 0xF4) :
    followers a = some [secondOfFour a, continuation, continuation] := by
  unfold followers secondOfFour
  simp only [UInt8.le_iff_toNat_le, UInt8.lt_iff_toNat_lt, ← UInt8.toNat_inj, UInt8.reduceToNat]
  rw [if_neg (by omega), if_neg (by omega), if_neg (by omega), if_neg (by omega),
    if_neg (by omega), if_neg (by omega)]
  by_cases hF0 : a.toNat = 0xF0
  · rw [if_pos hF0, if_pos hF0]
  · rw [if_neg hF0, if_neg hF0]
    by_cases hF4 : a.toNat = 0xF4
    · rw [if_neg (by omega), if_pos hF4, if_pos hF4]
    · rw [if_pos (by omega), if_neg hF4]

theorem followers_none {a : UInt8}
    (h : (0x80 ≤ a.toNat ∧ a.toNat < 0xC2) ∨ 0xF5 ≤ a.toNat) : followers a = none := by
  unfold followers
  simp only [UInt8.le_iff_toNat_le, UInt8.lt_iff_toNat_lt, ← UInt8.toNat_inj, UInt8.reduceToNat]
  rw [if_neg (by omega)]
  rcases h with h | h
  · rw [if_pos h.2]
  · rw [if_neg (by omega), if_neg (by omega), if_neg (by omega), if_neg (by omega),
      if_neg (by omega), if_neg (by omega), if_neg (by omega), if_neg (by omega)]

/-- The table has five rows. -/
theorem lead_cases (a : UInt8) :
    a.toNat ≤ 0x7F ∨ (0xC2 ≤ a.toNat ∧ a.toNat ≤ 0xDF) ∨ (0xE0 ≤ a.toNat ∧ a.toNat ≤ 0xEF)
      ∨ (0xF0 ≤ a.toNat ∧ a.toNat ≤ 0xF4)
      ∨ ((0x80 ≤ a.toNat ∧ a.toNat < 0xC2) ∨ 0xF5 ≤ a.toNat) := by
  omega

theorem continuation_contains_iff {b : UInt8} :
    continuation.contains b = true ↔ 0x80 ≤ b.toNat ∧ b.toNat ≤ 0xBF := by
  rw [ByteRange.contains_iff]
  rfl

theorem secondOfThree_contains_iff {a b : UInt8} :
    (secondOfThree a).contains b = true ↔ (0x80 ≤ b.toNat ∧ b.toNat ≤ 0xBF)
      ∧ (a.toNat = 0xE0 → 0xA0 ≤ b.toNat) ∧ (a.toNat = 0xED → b.toNat ≤ 0x9F) := by
  unfold secondOfThree
  simp only [← UInt8.toNat_inj, UInt8.reduceToNat]
  split_ifs with hE0 hED
  · simp only [ByteRange.contains_iff, UInt8.reduceToNat]
    omega
  · simp only [ByteRange.contains_iff, UInt8.reduceToNat]
    omega
  · rw [continuation_contains_iff]
    omega

theorem secondOfFour_contains_iff {a b : UInt8} :
    (secondOfFour a).contains b = true ↔ (0x80 ≤ b.toNat ∧ b.toNat ≤ 0xBF)
      ∧ (a.toNat = 0xF0 → 0x90 ≤ b.toNat) ∧ (a.toNat = 0xF4 → b.toNat ≤ 0x8F) := by
  unfold secondOfFour
  simp only [← UInt8.toNat_inj, UInt8.reduceToNat]
  split_ifs with hF0 hF4
  · simp only [ByteRange.contains_iff, UInt8.reduceToNat]
    omega
  · simp only [ByteRange.contains_iff, UInt8.reduceToNat]
    omega
  · rw [continuation_contains_iff]
    omega

/-! ### Well-formed byte strings are the encodings of characters -/

theorem val_ofNat {n : Nat} (h : n.isValidChar) : (Char.ofNat n).val.toNat = n := by
  unfold Char.ofNat
  rw [dif_pos h]
  rfl

theorem encodeChar_scalarValue_one {a : UInt8} (ha : a.toNat ≤ 0x7F) :
    String.utf8EncodeChar (Char.ofNat (scalarValue [a])) = [a] := by
  have hv : (Char.ofNat (scalarValue [a])).val.toNat = a.toNat :=
    val_ofNat (Or.inl (by simp only [scalarValue]; omega))
  simp only [String.utf8EncodeChar, hv]
  rw [if_pos ha, UInt8.ofNat_toNat]

theorem encodeChar_scalarValue_two {a b : UInt8} (ha : 0xC2 ≤ a.toNat ∧ a.toNat ≤ 0xDF)
    (hb : 0x80 ≤ b.toNat ∧ b.toNat ≤ 0xBF) :
    String.utf8EncodeChar (Char.ofNat (scalarValue [a, b])) = [a, b] := by
  have hv : (Char.ofNat (scalarValue [a, b])).val.toNat
      = (a.toNat - 0xC0) * 64 + (b.toNat - 0x80) := by
    rw [val_ofNat (Or.inl (by simp only [scalarValue]; omega))]
    simp only [scalarValue]
    omega
  simp only [String.utf8EncodeChar, hv]
  rw [if_neg (by omega), if_pos (by omega)]
  simp only [List.cons.injEq, ← UInt8.toNat_inj, UInt8.toNat_ofNat', and_true]
  omega

/-- Three bytes: after `E0` no overlong form, after `ED` no surrogate. -/
theorem encodeChar_scalarValue_three {a b c : UInt8} (ha : 0xE0 ≤ a.toNat ∧ a.toNat ≤ 0xEF)
    (hb : 0x80 ≤ b.toNat ∧ b.toNat ≤ 0xBF) (hc : 0x80 ≤ c.toNat ∧ c.toNat ≤ 0xBF)
    (hlong : a.toNat = 0xE0 → 0xA0 ≤ b.toNat) (hsurrogate : a.toNat = 0xED → b.toNat ≤ 0x9F) :
    String.utf8EncodeChar (Char.ofNat (scalarValue [a, b, c])) = [a, b, c] := by
  have hv : (Char.ofNat (scalarValue [a, b, c])).val.toNat
      = (a.toNat - 0xE0) * 4096 + (b.toNat - 0x80) * 64 + (c.toNat - 0x80) := by
    rw [val_ofNat (by simp only [scalarValue, Nat.isValidChar]; omega)]
    simp only [scalarValue]
    omega
  simp only [String.utf8EncodeChar, hv]
  rw [if_neg (by omega), if_neg (by omega), if_pos (by omega)]
  simp only [List.cons.injEq, ← UInt8.toNat_inj, UInt8.toNat_ofNat', and_true]
  omega

/-- Four bytes: after `F0` no overlong form, after `F4` nothing above the last code point. -/
theorem encodeChar_scalarValue_four {a b c d : UInt8} (ha : 0xF0 ≤ a.toNat ∧ a.toNat ≤ 0xF4)
    (hb : 0x80 ≤ b.toNat ∧ b.toNat ≤ 0xBF) (hc : 0x80 ≤ c.toNat ∧ c.toNat ≤ 0xBF)
    (hd : 0x80 ≤ d.toNat ∧ d.toNat ≤ 0xBF)
    (hlong : a.toNat = 0xF0 → 0x90 ≤ b.toNat) (hlast : a.toNat = 0xF4 → b.toNat ≤ 0x8F) :
    String.utf8EncodeChar (Char.ofNat (scalarValue [a, b, c, d])) = [a, b, c, d] := by
  have hv : (Char.ofNat (scalarValue [a, b, c, d])).val.toNat
      = (a.toNat - 0xF0) * 262144 + (b.toNat - 0x80) * 4096 + (c.toNat - 0x80) * 64
        + (d.toNat - 0x80) := by
    rw [val_ofNat (by simp only [scalarValue, Nat.isValidChar]; omega)]
    simp only [scalarValue]
    omega
  simp only [String.utf8EncodeChar, hv]
  rw [if_neg (by omega), if_neg (by omega), if_neg (by omega)]
  simp only [List.cons.injEq, ← UInt8.toNat_inj, UInt8.toNat_ofNat', and_true]
  omega

/-- **What the table lets through is an encoding**, namely of the character with the number that the
bytes stand for. -/
theorem encodeChar_scalarValue {w : Bytes} (h : WellFormed w) :
    String.utf8EncodeChar (Char.ofNat (scalarValue w)) = w := by
  cases w with
  | nil => exact h.elim
  | cons a rest =>
    obtain ⟨rs, hrs, hfollow⟩ := h
    rcases lead_cases a with ha | ha | ha | ha | ha
    · rw [followers_one ha, Option.some.injEq] at hrs
      subst hrs
      rw [Follow, List.forall₂_nil_left_iff] at hfollow
      subst hfollow
      exact encodeChar_scalarValue_one ha
    · rw [followers_two ha, Option.some.injEq] at hrs
      subst hrs
      simp only [Follow, List.forall₂_cons_left_iff, List.forall₂_nil_left_iff] at hfollow
      obtain ⟨b, _, hb, rfl, rfl⟩ := hfollow
      exact encodeChar_scalarValue_two ha (continuation_contains_iff.mp hb)
    · rw [followers_three ha, Option.some.injEq] at hrs
      subst hrs
      simp only [Follow, List.forall₂_cons_left_iff, List.forall₂_nil_left_iff] at hfollow
      obtain ⟨b, _, hb, ⟨c, _, hc, rfl, rfl⟩, rfl⟩ := hfollow
      obtain ⟨hb, hlong, hsurrogate⟩ := secondOfThree_contains_iff.mp hb
      exact encodeChar_scalarValue_three ha hb (continuation_contains_iff.mp hc) hlong hsurrogate
    · rw [followers_four ha, Option.some.injEq] at hrs
      subst hrs
      simp only [Follow, List.forall₂_cons_left_iff, List.forall₂_nil_left_iff] at hfollow
      obtain ⟨b, _, hb, ⟨c, _, hc, ⟨d, _, hd, rfl, rfl⟩, rfl⟩, rfl⟩ := hfollow
      obtain ⟨hb, hlong, hlast⟩ := secondOfFour_contains_iff.mp hb
      exact encodeChar_scalarValue_four ha hb (continuation_contains_iff.mp hc)
        (continuation_contains_iff.mp hd) hlong hlast
    · rw [followers_none ha] at hrs
      cases hrs

/-- **Every encoding is let through**, and its bytes stand for the number of the character. -/
theorem wellFormed_encodeChar (c : Char) :
    WellFormed (String.utf8EncodeChar c) ∧ scalarValue (String.utf8EncodeChar c) = c.toNat := by
  have hvalid : c.val.toNat.isValidChar := c.valid
  rw [← Char.toNat_val]
  generalize hv : c.val.toNat = v at hvalid
  simp only [String.utf8EncodeChar, hv]
  simp only [Nat.isValidChar] at hvalid
  by_cases h7F : v ≤ 0x7F
  · rw [if_pos h7F]
    have ha : (UInt8.ofNat v).toNat = v := toNat_ofNat_of_lt (by omega)
    exact ⟨⟨_, followers_one (by omega), .nil⟩, ha⟩
  rw [if_neg h7F]
  have hlast : (UInt8.ofNat (v % 64 + 128)).toNat = v % 64 + 128 := toNat_ofNat_of_lt (by omega)
  by_cases h7FF : v ≤ 0x7FF
  · rw [if_pos h7FF]
    have ha : (UInt8.ofNat (v / 64 % 32 + 192)).toNat = v / 64 + 192 := by
      rw [toNat_ofNat_of_lt (by omega)]
      omega
    refine ⟨⟨_, followers_two (by omega), .cons ?_ .nil⟩, ?_⟩
    · exact continuation_contains_iff.mpr (by omega)
    · simp only [scalarValue, ha, hlast]
      omega
  rw [if_neg h7FF]
  have hthird : (UInt8.ofNat (v / 64 % 64 + 128)).toNat = v / 64 % 64 + 128 :=
    toNat_ofNat_of_lt (by omega)
  by_cases hFFFF : v ≤ 0xFFFF
  · rw [if_pos hFFFF]
    have ha : (UInt8.ofNat (v / 4096 % 16 + 224)).toNat = v / 4096 + 224 := by
      rw [toNat_ofNat_of_lt (by omega)]
      omega
    refine ⟨⟨_, followers_three (by omega), .cons ?_ (.cons ?_ .nil)⟩, ?_⟩
    · exact secondOfThree_contains_iff.mpr ⟨by omega, by omega, by omega⟩
    · exact continuation_contains_iff.mpr (by omega)
    · simp only [scalarValue, ha, hthird, hlast]
      omega
  rw [if_neg hFFFF]
  have ha : (UInt8.ofNat (v / 262144 % 8 + 240)).toNat = v / 262144 + 240 := by
    rw [toNat_ofNat_of_lt (by omega)]
    omega
  have hsecond : (UInt8.ofNat (v / 4096 % 64 + 128)).toNat = v / 4096 % 64 + 128 :=
    toNat_ofNat_of_lt (by omega)
  refine ⟨⟨_, followers_four (by omega), .cons ?_ (.cons ?_ (.cons ?_ .nil))⟩, ?_⟩
  · exact secondOfFour_contains_iff.mpr ⟨by omega, by omega, by omega⟩
  · exact continuation_contains_iff.mpr (by omega)
  · exact continuation_contains_iff.mpr (by omega)
  · simp only [scalarValue, ha, hsecond, hthird, hlast]
    omega

/-! ### The reader finds a character -/

/-- A pending character is completed by the bytes it waits for, whatever comes after them. -/
theorem segmentsFrom_pending (bs : Bytes) : ∀ (later : List ByteRange) (seen : Bytes)
    (next : ByteRange) (rest : Bytes), Follow (next :: later) rest →
      segmentsFrom (some ⟨seen, next, later⟩) (rest ++ bs)
        = .scalar (Char.ofNat (scalarValue (seen ++ rest))) :: segments bs := by
  intro later
  induction later with
  | nil =>
    intro seen next rest h
    simp only [Follow, List.forall₂_cons_left_iff, List.forall₂_nil_left_iff] at h
    obtain ⟨b, _, hb, rfl, rfl⟩ := h
    rw [List.singleton_append, segmentsFrom, advance, if_pos hb]
    rfl
  | cons r rs ih =>
    intro seen next rest h
    rw [Follow, List.forall₂_cons_left_iff] at h
    obtain ⟨b, rest', hb, hrest', rfl⟩ := h
    rw [List.cons_append, segmentsFrom, advance, if_pos hb, List.nil_append, ih _ _ _ hrest',
      List.append_assoc, List.singleton_append]

theorem segments_append_of_wellFormed {w : Bytes} (h : WellFormed w) (bs : Bytes) :
    segments (w ++ bs) = .scalar (Char.ofNat (scalarValue w)) :: segments bs := by
  cases w with
  | nil => exact h.elim
  | cons a rest =>
    obtain ⟨rs, hrs, hfollow⟩ := h
    rw [segments, List.cons_append, segmentsFrom, advance, begin, hrs]
    cases rs with
    | nil =>
      rw [Follow, List.forall₂_nil_left_iff] at hfollow
      subst hfollow
      rfl
    | cons r rs => exact segmentsFrom_pending bs rs [a] r rest hfollow

/-- **A character in front is found**, whatever comes after it. -/
theorem segments_encodeChar_append (c : Char) (bs : Bytes) :
    segments (String.utf8EncodeChar c ++ bs) = .scalar c :: segments bs := by
  obtain ⟨hw, hv⟩ := wellFormed_encodeChar c
  rw [segments_append_of_wellFormed hw, hv, Char.ofNat_toNat]

/-! ### Nothing is lost -/

/-- The bytes of a segment. -/
def Segment.bytes : Segment → Bytes
  | .scalar c => String.utf8EncodeChar c
  | .illFormed bs => bs

/-- **The invariant of the reader**: the bytes seen of a pending character are a leading byte and
bytes in some of the ranges it asks for, and the other ranges are still to come. -/
def Pending.Started (p : Pending) : Prop :=
  ∃ lead rest passed, p.seen = lead :: rest ∧ followers lead = some (passed ++ p.next :: p.later)
    ∧ Follow passed rest

/-- The bytes that are read and are in no segment yet. -/
def seen : Option Pending → Bytes
  | none => []
  | some p => p.seen

/-- A state of the reader that keeps the invariant. -/
def Sound : Option Pending → Prop
  | none => True
  | some p => p.Started

theorem begin_sound (b : UInt8) :
    (begin b).1.flatMap Segment.bytes ++ seen (begin b).2 = [b] ∧ Sound (begin b).2 := by
  unfold begin
  split
  · exact ⟨rfl, trivial⟩
  · next h =>
    refine ⟨?_, trivial⟩
    have hw : WellFormed [b] := ⟨[], h, .nil⟩
    rw [List.flatMap_singleton, Segment.bytes, encodeChar_scalarValue hw]
    rfl
  · next r rs h => exact ⟨rfl, b, [], [], rfl, h, .nil⟩

/-- One step keeps the invariant, and the byte it reads goes to a segment or is pending. -/
theorem advance_sound {st : Option Pending} (h : Sound st) (b : UInt8) :
    (advance st b).1.flatMap Segment.bytes ++ seen (advance st b).2 = seen st ++ [b]
      ∧ Sound (advance st b).2 := by
  cases st with
  | none => exact begin_sound b
  | some p =>
    obtain ⟨lead, rest, passed, hseen, hlead, hpassed⟩ := h
    rw [advance]
    by_cases hb : p.next.contains b = true
    · have hfollow : Follow (passed ++ [p.next]) (rest ++ [b]) :=
        List.rel_append hpassed (.cons hb .nil)
      rw [if_pos hb]
      cases hlater : p.later with
      | nil =>
        refine ⟨?_, trivial⟩
        have hw : WellFormed (p.seen ++ [b]) := by
          rw [hseen]
          exact ⟨_, by rw [hlead, hlater], hfollow⟩
        show ([Segment.scalar _].flatMap Segment.bytes) ++ [] = p.seen ++ [b]
        rw [List.flatMap_singleton, Segment.bytes, encodeChar_scalarValue hw, List.append_nil]
      | cons r rs =>
        refine ⟨rfl, lead, rest ++ [b], passed ++ [p.next], ?_, ?_, hfollow⟩
        · show p.seen ++ [b] = _
          rw [hseen, List.cons_append]
        · rw [hlead, hlater, List.append_assoc, List.singleton_append]
    · rw [if_neg hb]
      obtain ⟨hbytes, hsound⟩ := begin_sound b
      refine ⟨?_, hsound⟩
      show (Segment.illFormed p.seen :: (begin b).1).flatMap Segment.bytes ++ seen (begin b).2
        = p.seen ++ [b]
      rw [List.flatMap_cons, List.append_assoc, hbytes, Segment.bytes]

theorem flatMap_bytes_segmentsFrom : ∀ (bs : Bytes) {st : Option Pending}, Sound st →
    (segmentsFrom st bs).flatMap Segment.bytes = seen st ++ bs := by
  intro bs
  induction bs with
  | nil =>
    intro st h
    cases st with
    | none => rfl
    | some p => rw [segmentsFrom, List.flatMap_singleton, Segment.bytes, seen, List.append_nil]
  | cons b bs ih =>
    intro st h
    obtain ⟨hbytes, hsound⟩ := advance_sound h b
    rw [segmentsFrom, List.flatMap_append, ih hsound, ← List.append_assoc, hbytes,
      List.append_assoc, List.singleton_append]

/-- **The segments, put together again, are the bytes that were read.** -/
theorem flatMap_bytes_segments (bs : Bytes) : (segments bs).flatMap Segment.bytes = bs :=
  flatMap_bytes_segmentsFrom bs trivial

/-- A character that is found first stands at the front of the bytes. -/
theorem eq_append_of_segments_eq_cons {bs : Bytes} {s : Segment} {ss : List Segment}
    (h : segments bs = s :: ss) : bs = s.bytes ++ ss.flatMap Segment.bytes := by
  rw [← List.flatMap_cons, ← h, flatMap_bytes_segments]

/-! ### The character in front -/

/-- The character whose encoding some bytes begin with, if there is one. -/
def leadingChar? (bs : Bytes) : Option Char :=
  match segments bs with
  | .scalar c :: _ => some c
  | _ => none

theorem leadingChar?_eq_some_iff {bs : Bytes} {c : Char} :
    leadingChar? bs = some c ↔ String.utf8EncodeChar c <+: bs := by
  unfold leadingChar?
  constructor
  · intro h
    split at h
    · next d ss hsegments =>
      obtain rfl := Option.some.inj h
      exact ⟨_, (eq_append_of_segments_eq_cons hsegments).symm⟩
    · cases h
  · rintro ⟨rest, rfl⟩
    rw [segments_encodeChar_append]

/-- A character that is encoded by a single byte is the first byte. -/
theorem eq_of_leadingChar? {b x : UInt8} {rest : Bytes} {c : Char}
    (h : leadingChar? (b :: rest) = some c) (hc : String.utf8EncodeChar c = [x]) : b = x := by
  have hfront := leadingChar?_eq_some_iff.mp h
  rw [hc, List.cons_prefix_cons] at hfront
  exact hfront.1.symm

/-- Bytes that begin with no character are read as a replacement in front, if there are any. -/
theorem head?_decodeLossy {bs : Bytes} (h : leadingChar? bs = none) :
    ∀ c ∈ (decodeLossy bs).head?, c = replacement := by
  unfold leadingChar? at h
  unfold decodeLossy
  cases hsegments : segments bs with
  | nil => simp
  | cons s ss =>
    cases s with
    | scalar c =>
      rw [hsegments] at h
      cases h
    | illFormed w =>
      intro c hc
      exact (Option.some.inj hc).symm

/-! ### Encoding and decoding -/

@[simp] theorem encode_nil : encode [] = [] := rfl

theorem encode_cons (c : Char) (t : Text) :
    encode (c :: t) = String.utf8EncodeChar c ++ encode t := List.flatMap_cons

theorem encode_append (s t : Text) : encode (s ++ t) = encode s ++ encode t := List.flatMap_append

theorem segments_encode (t : Text) : segments (encode t) = t.map .scalar := by
  induction t with
  | nil => rfl
  | cons c t ih => rw [encode_cons, segments_encodeChar_append, ih, List.map_cons]

theorem decodeLossy_encode (t : Text) : decodeLossy (encode t) = t := by
  rw [decodeLossy, segments_encode, List.map_map]
  exact List.map_id t

theorem isValid_encode (t : Text) : isValid (encode t) = true := by
  rw [isValid, segments_encode, List.all_map]
  exact List.all_eq_true.mpr fun _ _ => rfl

theorem encode_injective : Function.Injective encode :=
  Function.LeftInverse.injective decodeLossy_encode

theorem encode_decodeLossy {bs : Bytes} (h : isValid bs = true) : encode (decodeLossy bs) = bs := by
  rw [encode, decodeLossy, List.flatMap_map]
  conv_rhs => rw [← flatMap_bytes_segments bs]
  refine List.flatMap_congr fun s hs => ?_
  cases s with
  | scalar c => rfl
  | illFormed w => exact absurd (List.all_eq_true.mp h _ hs) (by simp [Segment.isScalar])

/-- **The strict reader undoes `encode`**, and accepts nothing else. -/
theorem decode?_eq_some_iff {bs : Bytes} {t : Text} : decode? bs = some t ↔ bs = encode t := by
  constructor
  · intro h
    rw [decode?, Option.ite_none_right_eq_some] at h
    obtain ⟨hvalid, ht⟩ := h
    rw [← Option.some.inj ht, encode_decodeLossy hvalid]
  · rintro rfl
    rw [decode?, if_pos (isValid_encode t), decodeLossy_encode]

end Salutation.Utf8
