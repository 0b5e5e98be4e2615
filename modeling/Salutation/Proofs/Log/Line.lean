import Salutation.Log.Event
import Salutation.Program.Clock
import Salutation.Proofs.Output.SafeLine
import Salutation.Proofs.Terminal.Styled

/-!
# The lines of the log

A message that says nothing concealed (`Visible`) becomes one line: it holds no line feed but the
one that ends it, with colours or without, and without its colours it is the time, the level and
what the message says (`strip_coloured_lineFront`).  The two messages of the program are of that
kind, whatever the name is: one quotes the name, and the other says a greeting, which quotes it too.
So each line tells the name (`nameTold?_greetingPerson`, `nameTold?_writingGreeting`).
-/

namespace Salutation

open Terminal

/-! ### Texts that hide nothing -/

/-- **Whether no character of a text is concealed.** -/
def Visible (t : Text) : Prop := ∀ c ∈ t, isConcealed c = false

section Visible

variable {s t : Text}

theorem visible_append : Visible (s ++ t) ↔ Visible s ∧ Visible t := List.forall_mem_append

theorem visible_singleton {c : Char} : Visible [c] ↔ isConcealed c = false :=
  List.forall_mem_singleton

theorem visible_of_any (h : t.any isConcealed = false) : Visible t :=
  fun c hc => eq_false_of_ne_true (List.any_eq_false.mp h c hc)

theorem Visible.isClean (h : Visible t) : IsClean t :=
  isClean_iff.mpr fun c hc => ground_shows_of_not_concealed (h c hc)

theorem Visible.lineFeed_not_mem (h : Visible t) : '\n' ∉ t := by
  intro hmem
  have hshown := h '\n' hmem
  exact absurd hshown (by decide)

theorem visible_of_digits (h : ∀ c ∈ t, c.isDigit = true) : Visible t := by
  intro c hc
  obtain ⟨hlo, hhi⟩ := toNat_of_isDigit (h c hc)
  rw [isConcealed, if_pos (by omega), decide_eq_false_iff_not]
  omega

end Visible

namespace Clock

theorem isDigit_of_mem_padded {width n : Nat} {c : Char} (hc : c ∈ padded width n) :
    c.isDigit = true := by
  rcases List.mem_append.mp hc with hc | hc
  · rw [List.eq_of_mem_replicate hc]
    rfl
  · exact Nat.isDigit_of_mem_toDigits (by decide) (by decide) hc

theorem visible_padded (width n : Nat) : Visible (padded width n) :=
  visible_of_digits fun _ hc => isDigit_of_mem_padded hc

/-- **The time hides nothing.** -/
theorem visible_text (microseconds : Nat) : Visible (text microseconds) := by
  simp only [text, visible_append, visible_padded, visible_singleton, true_and, and_true]
  decide

/-- The time opens with a digit. -/
theorem exists_text_eq_cons (microseconds : Nat) :
    ∃ c t, text microseconds = c :: t ∧ c.isDigit = true := by
  obtain ⟨c, t, hpadded⟩ : ∃ c t, padded 4 (Date.ofDays (microseconds / 1000000 / 86400)).year
      = c :: t := by
    refine List.exists_cons_of_ne_nil fun hnil => ?_
    exact Nat.toDigits_ne_nil (List.append_eq_nil_iff.mp hnil).2
  have hdigit : c.isDigit = true := isDigit_of_mem_padded (hpadded ▸ List.mem_cons_self)
  simp only [text, hpadded, List.cons_append]
  exact ⟨c, _, rfl, hdigit⟩

end Clock

namespace Log

namespace Event

variable (e : Event) (time : Text)

/-- What a line says behind the time and the level, without colours. -/
def said : Event → Text
  | .greetingPerson name => "greeting person name=".toList ++ Quoted.text name
  | .writingGreeting greeting => "writing greeting ".toList ++ greeting

/-- What a line holds in front of its line feed. -/
def lineFront : Styled :=
  [⟨.dim, time⟩, ⟨.normal, [' ']⟩, ⟨.blue, e.level.name.map Char.toUpper⟩, ⟨.normal, [' ']⟩] ++ e.body

theorem line_eq_append : e.line time = e.lineFront time ++ [⟨.normal, ['\n']⟩] := rfl

theorem bare_body : e.body.bare = e.said := by
  cases e with
  | greetingPerson name =>
    have hend : Quoted.text name ++ [] = Quoted.text name := List.append_nil _
    show "greeting person ".toList ++ ("name".toList ++ (['='] ++ (Quoted.text name ++ []))) = _
    rw [hend]
    rfl
  | writingGreeting greeting =>
    show ("writing greeting ".toList ++ greeting) ++ [] = _
    rw [List.append_nil]
    rfl

/-- Without colours a line is the time, the level and what the message says. -/
theorem bare_lineFront : (e.lineFront time).bare = time ++ (" DEBUG ".toList ++ e.said) := by
  have hlevel : [' '] ++ (e.level.name.map Char.toUpper ++ [' ']) = " DEBUG ".toList := by
    cases e <;> rfl
  rw [← hlevel, ← bare_body]
  simp only [lineFront, Styled.bare, List.flatMap_append, List.flatMap_cons, List.flatMap_nil,
    List.append_nil, List.append_assoc]

section Visible

variable {e : Event} {time : Text} (htime : Visible time) (he : Visible e.said)

include htime he

theorem visible_bare_lineFront : Visible (e.lineFront time).bare := by
  have hlevel : Visible " DEBUG ".toList := visible_of_any (by decide)
  rw [bare_lineFront, visible_append, visible_append]
  exact ⟨htime, hlevel, he⟩

theorem visible_of_mem_lineFront {s : Span} (hs : s ∈ e.lineFront time) : Visible s.text :=
  fun c hc => visible_bare_lineFront htime he c (List.mem_flatMap.mpr ⟨s, hs, hc⟩)

/-- **Without its colours a line is the time, the level and what the message says.** -/
theorem strip_coloured_lineFront :
    strip (e.lineFront time).coloured = time ++ (" DEBUG ".toList ++ e.said) := by
  have hspans : ∀ s ∈ e.lineFront time, IsClean s.text :=
    fun s hs => (visible_of_mem_lineFront htime he hs).isClean
  have hplain := Styled.plain_eq_bare hspans
  rw [Styled.plain] at hplain
  rw [hplain, bare_lineFront]

theorem strip_bare_lineFront :
    strip (e.lineFront time).bare = time ++ (" DEBUG ".toList ++ e.said) := by
  rw [strip_eq_self_iff.mpr (visible_bare_lineFront htime he).isClean, bare_lineFront]

theorem lineFeed_not_mem_coloured_lineFront : '\n' ∉ (e.lineFront time).coloured :=
  Styled.lineFeed_not_mem_coloured fun _ hs =>
    (visible_of_mem_lineFront htime he hs).lineFeed_not_mem

end Visible

/-! ### The name in a line -/

/-- What stands before the name in the line that a person is greeted, up to the opening quote. -/
def beforeQuotedName : Text := "greeting person name=".toList ++ ['"']

/-- What stands before the greeting in the line that a greeting is written. -/
def beforeGreeting : Text := "writing greeting ".toList

/-- The name that the line of a message tells, if the text is such a line without its colours. -/
def nameTold? (time line : Text) : Option Text :=
  (line.dropPrefix? (time ++ " DEBUG ".toList)).bind fun said =>
    match said.dropPrefix? beforeQuotedName with
    | some quoted => (quoted.dropSuffix? ['"']).bind (Quoted.unescape '"')
    | none => (said.dropPrefix? beforeGreeting).bind nameIn?

theorem said_greetingPerson (name : Text) :
    (greetingPerson name).said = beforeQuotedName ++ (Quoted.escapeAll '"' name ++ ['"']) :=
  (List.append_assoc _ _ _).symm

theorem said_writingGreeting (greeting : Text) :
    (writingGreeting greeting).said = beforeGreeting ++ greeting := rfl

theorem nameTold?_line (time : Text) (e : Event) :
    nameTold? time (time ++ (" DEBUG ".toList ++ e.said))
      = match e.said.dropPrefix? beforeQuotedName with
        | some quoted => (quoted.dropSuffix? ['"']).bind (Quoted.unescape '"')
        | none => (e.said.dropPrefix? beforeGreeting).bind nameIn? := by
  have hhead : (time ++ (" DEBUG ".toList ++ e.said)).dropPrefix? (time ++ " DEBUG ".toList)
      = some e.said := by
    rw [← List.append_assoc]
    exact List.dropPrefix?_append_of_beq _ (by simp)
  rw [nameTold?, hhead, Option.bind_some]

/-- **The line that a person is greeted tells the name.** -/
theorem nameTold?_greetingPerson (time name : Text) :
    nameTold? time (time ++ (" DEBUG ".toList ++ (greetingPerson name).said)) = some name := by
  have hfront : (greetingPerson name).said.dropPrefix? beforeQuotedName
      = some (Quoted.escapeAll '"' name ++ ['"']) := by
    rw [said_greetingPerson]
    exact List.dropPrefix?_append_of_beq _ (by simp)
  have hback : (Quoted.escapeAll '"' name ++ ['"']).dropSuffix? ['"']
      = some (Quoted.escapeAll '"' name) :=
    List.dropSuffix?_eq_some_iff.mpr ⟨['"'], rfl, by simp⟩
  simp only [nameTold?_line, hfront, hback, Option.bind_some]
  exact Quoted.unescape_escapeAll (Or.inl rfl) name

/-- **The line that a greeting is written tells the name in the greeting.** -/
theorem nameTold?_writingGreeting (time greeting : Text) :
    nameTold? time (time ++ (" DEBUG ".toList ++ (writingGreeting greeting).said))
      = nameIn? greeting := by
  have hother : (writingGreeting greeting).said.dropPrefix? beforeQuotedName = none := rfl
  have hfront : (writingGreeting greeting).said.dropPrefix? beforeGreeting = some greeting := by
    rw [said_writingGreeting]
    exact List.dropPrefix?_append_of_beq _ (by simp)
  simp only [nameTold?_line, hother, hfront, Option.bind_some]

end Event

end Log

end Salutation
