import Salutation.Proofs.Output.Delivery
import Salutation.Proofs.Terminal.Sequence
import Salutation.Proofs.Text.Concealed

/-!
# A delivered greeting is one safe line

Whatever the name is, no character of a greeting is concealed (`isConcealed_of_mem_greeting`).  So a
greeting has no character that ends a line, begins a terminal sequence, turns the direction of the
text or hides in it; and since the escaped name can stand between two quotes, no name closes its
quotes early.  `deliver_safeLine` puts this together with what a stream gets that refuses nothing:
the encoding of one line, whose line feed is its last byte.
-/

namespace Salutation

theorem Terminal.ground_shows_of_not_concealed {c : Char} (h : isConcealed c = false) :
    Terminal.State.ground.shows c = true := by
  have hsafe : ∀ r ∈ hazards, ¬ (r.1 ≤ c.toNat ∧ c.toNat ≤ r.2) := by
    intro r hr hc
    rw [isConcealed_of_mem_hazards hr hc] at h
    cases h
  have hcontrol := hsafe (0x00, 0x1F) (by decide)
  have hdelete := hsafe (0x7F, 0x9F) (by decide)
  have hcode : 0x20 ≤ c.toNat ∧ c.toNat ≠ 0x7F := by
    simp only [not_and] at hcontrol hdelete
    omega
  rw [Terminal.State.shows, Bool.or_eq_true, Bool.and_eq_true, decide_eq_true_eq,
    decide_eq_true_eq]
  exact Or.inr hcode

namespace Arguments

variable (a : Arguments)

/-- **No character of a greeting is concealed.** -/
theorem isConcealed_of_mem_greeting {c : Char} (hc : c ∈ a.greeting) : isConcealed c = false := by
  have hbefore : beforeName.any isConcealed = false := by decide
  have hbehind : behindName.any isConcealed = false := by decide
  rw [greeting_eq, List.mem_append, List.mem_append] at hc
  rcases hc with (hc | hc) | hc
  · exact eq_false_of_ne_true (List.any_eq_false.mp hbefore c hc)
  · exact Quoted.isConcealed_of_mem_escapeAll (Or.inl rfl) hc
  · exact eq_false_of_ne_true (List.any_eq_false.mp hbehind c hc)

/-- A greeting has none of the characters that could do harm. -/
theorem not_hazard_of_mem_greeting {c : Char} (hc : c ∈ a.greeting) :
    ∀ r ∈ hazards, ¬ (r.1 ≤ c.toNat ∧ c.toNat ≤ r.2) := by
  intro r hr hrange
  have hshown := a.isConcealed_of_mem_greeting hc
  rw [isConcealed_of_mem_hazards hr hrange] at hshown
  cases hshown

/-- A terminal shows a greeting line as it is. -/
theorem strip_greetingLine : Terminal.strip a.greetingLine = a.greetingLine := by
  apply Terminal.strip_eq_self
  intro c hc
  rw [greetingLine, List.mem_append, List.mem_singleton] at hc
  rcases hc with hc | rfl
  · exact Terminal.ground_shows_of_not_concealed (a.isConcealed_of_mem_greeting hc)
  · rfl

/-- **A delivered greeting is one safe line**: the greeting has no character that could do harm; the
name in it is quoted, and its quotes close where the name ends; and a stream that refuses nothing
gets the encoding of one line, which a terminal shows as it is and which holds one line feed, the
last byte. -/
theorem deliver_safeLine :
    (∀ c ∈ a.greeting, ∀ r ∈ hazards, ¬ (r.1 ≤ c.toNat ∧ c.toNat ≤ r.2))
      ∧ (∃ inside, a.greeting = beforeName ++ inside ++ behindName
          ∧ Quoted.unescape '"' inside = some a.name ∧ Quoted.Enclosable '"' inside)
      ∧ Terminal.strip a.greetingLine = a.greetingLine
      ∧ ∀ stream : Script, firstRefusal? stream.replies = none → stream.flush = none →
          (a.deliver stream).failure = none
            ∧ Utf8.decode? (a.deliver stream).written = some a.greetingLine
            ∧ ∃ front, (a.deliver stream).written = front ++ [lineFeed] ∧ lineFeed ∉ front := by
  refine ⟨fun c hc => a.not_hazard_of_mem_greeting hc, ?_, a.strip_greetingLine, ?_⟩
  · have hquote : Quoted.IsQuote '"' := Or.inl rfl
    exact ⟨Quoted.escapeAll '"' a.name, a.greeting_eq, Quoted.unescape_escapeAll hquote a.name,
      Quoted.enclosable_escapeAll hquote a.name⟩
  · intro stream hreplies hflush
    obtain ⟨hfailure, hwritten⟩ := a.deliver_of_unrefused hreplies hflush
    refine ⟨hfailure, Utf8.decode?_eq_some_iff.mpr hwritten, Utf8.encode a.greeting, ?_,
      a.lineFeed_not_mem_encode_greeting⟩
    rw [hwritten, encode_greetingLine]

end Arguments

end Salutation
