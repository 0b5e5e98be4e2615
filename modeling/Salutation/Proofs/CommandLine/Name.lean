import Mathlib.Data.List.TFAE
import Mathlib.Tactic.TFAE
import Salutation.CommandLine.Arguments
import Salutation.Proofs.Text.Segments

/-!
# The name that a first word gives

The first word of a command line may be any bytes, and the name is its lossy reading.

* `existsUnique_isCut_name`: there is one cut of the word into encodings of characters and maximal
  subparts of none, and the name has the character of each encoding and U+FFFD for each subpart.
* `lossyLaws_name`: the laws of that reading (`LossyLaws`).  It leaves a word as it is exactly if
  the word is the encoding of a text; it settles after one reading; and it reads the parts of a word
  one by one where they meet at a character boundary, so that damage does not spread.

The first is the cut that the reader of bytes makes (`Utf8.isCut_iff`), the second follows from how
the reader goes on behind a boundary (`Utf8.segments_append`).
-/

namespace Salutation

/-! ### The laws of a lossy reading -/

namespace Utf8

/-- A text does not begin with a continuation byte. -/
theorem not_continuation_of_head? {t : Text} (ht : t ≠ []) (b : Bytes) :
    ∀ x ∈ (encode t ++ b).head?, ¬ continuation.contains x = true := by
  obtain ⟨c, u, rfl⟩ := List.exists_cons_of_ne_nil ht
  obtain ⟨lead, bs, hbs⟩ := List.exists_cons_of_ne_nil (encodeChar_ne_nil c)
  rw [encode_cons, hbs]
  rintro _ ⟨⟩ hcontinuation
  rw [continuation_contains_iff] at hcontinuation
  -- no continuation byte leads an encoding
  obtain ⟨rs, hrs⟩ := exists_followers_of_prefix_encodeChar ⟨[], by rw [List.append_nil, hbs]⟩
  rw [followers_none (Or.inl ⟨hcontinuation.1, by omega⟩)] at hrs
  cases hrs

/-- A byte string that is no encoding is read with a replacement. -/
theorem replacement_mem_decodeLossy {b : Bytes} (h : ¬ isValid b = true) :
    replacement ∈ decodeLossy b := by
  rw [isValid, List.all_eq_true] at h
  push Not at h
  obtain ⟨s, hs, hscalar⟩ := h
  cases s with
  | scalar c => exact absurd rfl hscalar
  | illFormed w => exact List.mem_map.mpr ⟨.illFormed w, hs, rfl⟩

theorem isValid_tfae (b : Bytes) :
    [isValid b = true, ∃ t, encode t = b, encode (decodeLossy b) = b].TFAE := by
  tfae_have 1 → 3 := encode_decodeLossy
  tfae_have 3 → 2 := fun h => ⟨decodeLossy b, h⟩
  tfae_have 2 → 1 := by
    rintro ⟨t, rfl⟩
    exact isValid_encode t
  tfae_finish

theorem decodeLossy_append {a b : Bytes} (hb : ∀ x ∈ b.head?, ¬ continuation.contains x = true) :
    decodeLossy (a ++ b) = decodeLossy a ++ decodeLossy b := by
  rw [decodeLossy, segments_append hb, List.map_append]
  rfl

theorem decodeLossy_encode_append (t : Text) (b : Bytes) :
    decodeLossy (encode t ++ b) = t ++ decodeLossy b := by
  rw [decodeLossy, segments_encode_append, List.map_append]
  exact congrArg (· ++ decodeLossy b) (decodeLossy_encode t)

/-- **The laws of a lossy reading** of byte strings.  `verbatim` tells which it leaves as they
are. -/
structure LossyLaws (read : Bytes → Text) (verbatim : Bytes → Bool) : Prop where
  /-- The encodings of texts are left as they are, and nothing else is. -/
  verbatim_tfae : ∀ b, [verbatim b = true, ∃ t, encode t = b, encode (read b) = b].TFAE
  /-- Anything else is read with a replacement. -/
  replacement_mem : ∀ b, (¬ ∃ t, encode t = b) → replacement ∈ read b
  /-- What was read once is read the same again. -/
  read_encode_read : ∀ b, read (encode (read b)) = read b
  /-- Two parts are read one by one if the first is the encoding of a text, or if the second is
  empty or does not begin with a continuation byte. -/
  read_append : ∀ a b,
    ((∃ t, encode t = a) ∨ b = [] ∨ ∃ x rest, b = x :: rest ∧ ¬ (0x80 ≤ x ∧ x ≤ 0xBF)) →
      read (a ++ b) = read a ++ read b
  /-- A part that is the encoding of a text survives in its place, whatever stands around it. -/
  read_around : ∀ a t b, t ≠ [] → read (a ++ (encode t ++ b)) = read a ++ (t ++ read b)

theorem lossyLaws_decodeLossy : LossyLaws decodeLossy isValid where
  verbatim_tfae := isValid_tfae
  replacement_mem b h :=
    replacement_mem_decodeLossy fun hvalid => h (((isValid_tfae b).out 0 1).mp hvalid)
  read_encode_read b := decodeLossy_encode (decodeLossy b)
  read_append a b := by
    rintro (⟨t, rfl⟩ | rfl | ⟨x, rest, rfl, hx⟩)
    · rw [decodeLossy_encode_append, decodeLossy_encode]
    · apply decodeLossy_append
      simp
    · apply decodeLossy_append
      rintro _ ⟨⟩ hcontinuation
      rw [continuation_contains_iff] at hcontinuation
      obtain ⟨hlo, hhi⟩ := hcontinuation
      exact hx ⟨UInt8.le_iff_toNat_le.mpr hlo, UInt8.le_iff_toNat_le.mpr hhi⟩
  read_around a t b ht := by
    rw [decodeLossy_append (not_continuation_of_head? ht b), decodeLossy_encode_append]

end Utf8

/-! ### Names -/

namespace Arguments

/-- **How a first word gives a name**: there is one cut of the word into pieces, from left to right,
and the name has one character for each piece. -/
theorem existsUnique_isCut_name (first : Bytes) (later : List Bytes) :
    (∃! pieces, Utf8.IsCut first pieces)
      ∧ ∀ pieces, Utf8.IsCut first pieces →
          (mk (first :: later)).name = pieces.map Utf8.Segment.toChar := by
  constructor
  · exact ⟨Utf8.segments first, Utf8.isCut_segments first, fun _ h => Utf8.isCut_iff.mp h⟩
  · intro pieces h
    rw [Utf8.isCut_iff.mp h]
    rfl

/-- Three bytes of four are one subpart, and each byte of a surrogate stands alone. -/
example : (mk [[0x41, 0xF0, 0x9F, 0x98, 0x41, 0xED, 0xA0, 0x80]]).name
    = ['A', Utf8.replacement, 'A'] ++ List.replicate 3 Utf8.replacement := by decide

/-- **The laws of names**, whatever words come behind the first. -/
theorem lossyLaws_name (later : List Bytes) :
    Utf8.LossyLaws (fun first => (mk (first :: later)).name)
      (fun first => (mk (first :: later)).nameIsVerbatim) :=
  Utf8.lossyLaws_decodeLossy

end Arguments

end Salutation
