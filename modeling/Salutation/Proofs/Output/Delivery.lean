import Mathlib.Data.List.TFAE
import Mathlib.Tactic.TFAE
import Salutation.Output.Delivery
import Salutation.Proofs.Greeting
import Salutation.Proofs.Output.Writer
import Salutation.Proofs.Text.Utf8

/-!
# What a stream gets of a greeting

* `deliver_faithful`: whatever a stream replies, it has taken a beginning of the greeting line; it
  is flushed exactly if it has taken all of it; and the delivery fails exactly with the first
  refusal, or with the error of the flush.  A line that is not taken to its end has no line feed.
* `deliver_roundTrip`: a stream that takes everything holds one greeting line, from which the name
  is read back.  So what is delivered is the same exactly if the names are.

Both rest on the account of a writing, `Progress.Faithful`.
-/

namespace Salutation

/-- The byte of a line feed. -/
def lineFeed : UInt8 := 0x0A

namespace Utf8

theorem lineFeed_not_mem_encode {t : Text} (h : '\n' ∉ t) : lineFeed ∉ encode t :=
  fun hmem => h (ofNat_mem_of_mem_encode hmem (by decide))

theorem encode_intercalate (lines : List Text) :
    encode (['\n'].intercalate lines) = [lineFeed].intercalate (lines.map encode) := by
  cases lines with
  | nil => rfl
  | cons l lines =>
    rw [List.map_cons, intercalate_cons, intercalate_cons, encode_append, encode, encode,
      List.flatMap_assoc, List.flatMap_map]
    rfl

/-- **The lines of a text are found again in its bytes.** -/
theorem splitOn_encode (t : Text) :
    (encode t).splitOn lineFeed = (t.splitOn '\n').map encode := by
  have hjoined : encode t = [lineFeed].intercalate ((t.splitOn '\n').map encode) := by
    rw [← encode_intercalate, List.intercalate_splitOn]
  rw [hjoined]
  apply List.splitOn_intercalate
  · intro bs hbs
    obtain ⟨l, hl, rfl⟩ := List.mem_map.mp hbs
    exact lineFeed_not_mem_encode (not_mem_of_mem_splitOn hl)
  · exact fun h => List.splitOn_ne_nil '\n' t (List.map_eq_nil_iff.mp h)

theorem splitOn_encode_lines {lines : List Text} (h : ∀ l ∈ lines, '\n' ∉ l) :
    (encode (lines.flatMap (· ++ ['\n']))).splitOn lineFeed = lines.map encode ++ [[]] := by
  rw [splitOn_encode, splitOn_flatMap h, List.map_append]
  rfl

end Utf8

namespace Arguments

variable (a : Arguments)

/-! ### The greeting line as bytes -/

theorem flatten_greetingParts : a.greetingParts.flatten = Utf8.encode a.greetingLine := by
  rw [greetingParts, greetingLine, Utf8.encode_append, List.flatten_cons, List.flatten_singleton]

theorem encode_greetingLine :
    Utf8.encode a.greetingLine = Utf8.encode a.greeting ++ [lineFeed] := by
  rw [greetingLine, Utf8.encode_append]
  rfl

/-- The line feed of a greeting line is its last byte only. -/
theorem lineFeed_not_mem_encode_greeting : lineFeed ∉ Utf8.encode a.greeting :=
  Utf8.lineFeed_not_mem_encode a.lineFeed_not_mem_greeting

theorem encode_greeting_ne_nil : Utf8.encode a.greeting ≠ [] := by
  intro h
  rw [← Utf8.encode_nil] at h
  have hnil := Utf8.encode_injective h
  rw [greeting_eq] at hnil
  simp [behindName] at hnil

/-- What a stream takes that does not take the whole line has no line feed. -/
theorem lineFeed_not_mem_of_prefix {bs : Bytes} (hfront : bs <+: Utf8.encode a.greetingLine)
    (hmissing : bs ≠ Utf8.encode a.greetingLine) : lineFeed ∉ bs := by
  rw [encode_greetingLine] at hfront hmissing
  rcases List.prefix_concat_iff.mp hfront with h | h
  · exact absurd h hmissing
  · exact fun hmem => a.lineFeed_not_mem_encode_greeting (h.subset hmem)

/-! ### Deliveries -/

theorem writeParts_greetingParts_faithful (replies : List Reply) :
    (Writer.writeParts replies a.greetingParts).Faithful replies
      (Utf8.encode a.greetingLine) :=
  a.flatten_greetingParts ▸ Writer.writeParts_faithful a.greetingParts replies

theorem deliver_of_none {stream : Script}
    (h : (Writer.writeParts stream.replies a.greetingParts).failure = none) :
    a.deliver stream = ⟨stream.flush, Utf8.encode a.greetingLine,
      (Writer.writeParts stream.replies a.greetingParts).calls, 1⟩ := by
  have htaken := ((a.writeParts_greetingParts_faithful stream.replies).taken_eq h).1
  simp only [deliver, h, htaken]

theorem deliver_of_some {stream : Script} {e : OutputError}
    (h : (Writer.writeParts stream.replies a.greetingParts).failure = some e) :
    a.deliver stream = ⟨some e, (Writer.writeParts stream.replies a.greetingParts).taken,
      (Writer.writeParts stream.replies a.greetingParts).calls, 0⟩ := by
  simp only [deliver, h]

/-- A stream that refuses nothing gets the whole line, in whatever pieces it takes it, and is
flushed. -/
theorem deliver_of_no_refusal {stream : Script} (h : firstRefusal? stream.replies = none) :
    a.deliver stream = ⟨stream.flush, Utf8.encode a.greetingLine,
      (Writer.writeParts stream.replies a.greetingParts).calls, 1⟩ := by
  cases hfailure : (Writer.writeParts stream.replies a.greetingParts).failure with
  | none => exact a.deliver_of_none hfailure
  | some e =>
    have hrefusal := ((a.writeParts_greetingParts_faithful stream.replies).refused e hfailure).2
    rw [h] at hrefusal
    cases hrefusal

theorem deliver_of_unrefused {stream : Script} (hreplies : firstRefusal? stream.replies = none)
    (hflush : stream.flush = none) :
    (a.deliver stream).failure = none
      ∧ (a.deliver stream).written = Utf8.encode a.greetingLine := by
  rw [a.deliver_of_no_refusal hreplies]
  exact ⟨hflush, rfl⟩

/-- **No byte is lost, doubled or moved, and errors are told exactly.** -/
theorem deliver_faithful (stream : Script) :
    (a.deliver stream).written <+: Utf8.encode a.greetingLine
      ∧ (a.deliver stream).flushCalls
          = (if (a.deliver stream).written = Utf8.encode a.greetingLine then 1 else 0)
      ∧ ((a.deliver stream).failure = none
          ↔ (a.deliver stream).written = Utf8.encode a.greetingLine ∧ stream.flush = none)
      ∧ (a.deliver stream).failure
          = (if (a.deliver stream).written = Utf8.encode a.greetingLine then stream.flush
            else firstRefusal? stream.replies)
      ∧ OutputError.nothingTaken.kind = .writeZero
      ∧ ((a.deliver stream).written ≠ Utf8.encode a.greetingLine
          → lineFeed ∉ (a.deliver stream).written) := by
  have haccount := a.writeParts_greetingParts_faithful stream.replies
  cases h : (Writer.writeParts stream.replies a.greetingParts).failure with
  | none =>
    rw [a.deliver_of_none h, if_pos rfl, if_pos rfl]
    exact ⟨List.prefix_rfl, rfl, by simp, rfl, rfl, fun hmissing => absurd rfl hmissing⟩
  | some e =>
    obtain ⟨hmissing, hrefusal⟩ := haccount.refused e h
    rw [a.deliver_of_some h, if_neg hmissing, if_neg hmissing, hrefusal]
    refine ⟨haccount.taken_prefix, rfl, ?_, rfl, rfl,
      a.lineFeed_not_mem_of_prefix haccount.taken_prefix⟩
    constructor
    · intro hnone
      cases hnone
    · rintro ⟨hall, -⟩
      exact absurd hall hmissing

/-- A stream that takes everything is called twice and flushed once. -/
theorem deliver_default :
    a.deliver {} = ⟨none, Utf8.encode a.greetingLine, 2, 1⟩ := by
  have hgreeting : Writer.writeAll [] (Utf8.encode a.greeting)
      = ⟨Utf8.encode a.greeting, 1, [], none⟩ := by
    rw [Writer.writeAll]
    exact a.encode_greeting_ne_nil
  have hfeed : Writer.writeAll [] (Utf8.encode ['\n']) = ⟨[lineFeed], 1, [], none⟩ := rfl
  rw [encode_greetingLine]
  simp [deliver, greetingParts, Writer.writeParts, hgreeting, hfeed]

/-- **The name is read back from what is delivered**, and so what is delivered is the same exactly
if the greetings, the persons or the names are. -/
theorem deliver_roundTrip :
    (∃ inside : Text,
        a.deliver {}
          = ⟨none, Utf8.encode (beforeName ++ inside ++ (behindName ++ ['\n'])), 2, 1⟩
        ∧ Quoted.unescape '"' inside = some a.name)
      ∧ ∀ b : Arguments,
        [(a.deliver {}).written = (b.deliver {}).written, a.greeting = b.greeting,
          Person.ofArguments a = Person.ofArguments b, a.name = b.name].TFAE := by
  refine ⟨⟨Quoted.escapeAll '"' a.name, ?_, Quoted.unescape_escapeAll (Or.inl rfl) a.name⟩, ?_⟩
  · rw [deliver_default, greetingLine_eq]
  · intro b
    tfae_have 1 ↔ 2 := by
      rw [deliver_default, deliver_default]
      simp only [encode_greetingLine, List.append_cancel_right_eq]
      exact Utf8.encode_injective.eq_iff
    tfae_have 2 ↔ 4 := greeting_inj
    tfae_have 3 ↔ 4 := Person.ofArguments_inj
    tfae_finish

end Arguments

end Salutation
