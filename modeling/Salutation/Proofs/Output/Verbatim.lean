import Salutation.Proofs.Output.Delivery
import Salutation.Proofs.Text.Verbatim

/-!
# Names that are shown as they are

A name is shown between the quotes of a rendered person.  Which names are shown as they are is told
by their characters (`Quoted.StandsForItself`): names of plain characters are, so that they stand in
the line that a stream gets (`encode_name_infix_written`), and names with a quote, a backslash or a
control character are not.  `Person.render_verbatim` puts this together with what the length and the
backslashes of the shown name tell.
-/

namespace Salutation

/-- A character that breaks a quoted text, or the line it is on, does not stand for itself. -/
theorem Quoted.not_standsForItself {c : Char} (h : c = '"' ∨ c = '\\' ∨ IsControl c) :
    ¬ StandsForItself '"' c := by
  rintro ⟨hquote, hbackslash, hshown⟩
  rcases h with h | h | h
  · exact hquote h
  · exact hbackslash h
  · rw [isConcealed_of_isControl h] at hshown
    cases hshown

/-- **A name that is quoted as it is stands in the line** that a stream gets. -/
theorem Arguments.encode_name_infix_written {a : Arguments}
    (h : Quoted.escapeAll '"' a.name = a.name) :
    Utf8.encode a.name <:+: (a.deliver {}).written := by
  rw [deliver_default, greetingLine_eq, h, Utf8.encode_append, Utf8.encode_append]
  exact ⟨_, _, rfl⟩

/-- **Which names are shown as they are.**  What stands between the quotes of a rendered person is
the name with its characters escaped, also if it is copied in stretches.  It is never shorter than
the name.  It is the name exactly if there is no backslash in it, if it is no longer than the name,
or if every character of the name stands for itself.  So a name of plain characters is shown as it
is, and stands in the line that greets whoever has it; a name with a quote, a backslash or a control
character is not. -/
theorem Person.render_verbatim (name : Text) :
    ∃ inside : Text,
      (Person.mk name).render = beforeName ++ inside ++ behindName
        ∧ Quoted.copied? name = some inside
        ∧ name.length ≤ inside.length
        ∧ [inside = name, '\\' ∉ inside, inside.length = name.length,
            ∀ c ∈ name, Quoted.StandsForItself '"' c].TFAE
        ∧ ((∀ c ∈ name, Quoted.IsPlain c) →
            inside = name
              ∧ ∀ a : Arguments, a.name = name →
                  Utf8.encode name <:+: (a.deliver {}).written)
        ∧ ((∃ c ∈ name, c = '"' ∨ c = '\\' ∨ IsControl c) → inside ≠ name) := by
  have htfae := Quoted.escapeAll_tfae '"' name
  refine ⟨Quoted.escapeAll '"' name, render_eq ⟨name⟩, Quoted.copied?_eq name,
    Quoted.length_le_length_escapeAll '"' name, htfae, ?_, ?_⟩
  · intro hplain
    have hself : Quoted.escapeAll '"' name = name :=
      Quoted.escapeAll_eq_self fun c hc => (hplain c hc).standsForItself
    refine ⟨hself, ?_⟩
    rintro a rfl
    exact Arguments.encode_name_infix_written hself
  · rintro ⟨c, hc, hspecial⟩ heq
    have hall : ∀ c ∈ name, Quoted.StandsForItself '"' c := (htfae.out 0 3).mp heq
    exact Quoted.not_standsForItself hspecial (hall c hc)

end Salutation
