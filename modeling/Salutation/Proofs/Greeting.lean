import Salutation.Greeting
import Salutation.Proofs.Text.Quoted

/-!
# A greeting tells the name

A rendered person is the escaped name between two fixed texts (`Person.render_eq`), and so is a
greeting (`greeting_eq`).  So the name is read back from it (`nameIn?_greeting`), and two greetings
are the same exactly if the names are (`greeting_inj`); and it is one line
(`lineFeed_not_mem_greeting`).
-/

namespace Salutation

/-- What stands before the name in a rendered person, up to the opening quote.  The brace is given
by its code. -/
def Person.beforeName : Text := "Person \x7b name: \"".toList

/-- What stands before the name in a greeting, up to the opening quote. -/
def beforeName : Text := "Hello Person \x7b name: \"".toList

/-- What stands behind the name in a greeting, from the closing quote on. -/
def behindName : Text := "\" \x7d".toList

/-- The name that a greeting tells, if the text is a greeting. -/
def nameIn? (t : Text) : Option Text :=
  ((t.dropPrefix? beforeName).bind (·.dropSuffix? behindName)).bind (Quoted.unescape '"')

/-- **A rendered person is the escaped name** between two quotes. -/
theorem Person.render_eq (p : Person) :
    p.render = Person.beforeName ++ Quoted.escapeAll '"' p.name ++ behindName := by
  have hbefore : Person.beforeName
      = "Person".toList ++ [' ', '{', ' '] ++ ("name".toList ++ [':', ' '] ++ ['"']) := by
    decide
  have hbehind : behindName = ['"'] ++ [' ', '}'] := by decide
  rw [hbefore, hbehind]
  simp only [render, Structured.record, Structured.enclosed, Structured.field, Quoted.text,
    List.map_cons, List.map_nil, List.intercalate_singleton, List.append_assoc, List.cons_append,
    List.nil_append]

namespace Arguments

theorem greeting_eq (a : Arguments) :
    a.greeting = beforeName ++ Quoted.escapeAll '"' a.name ++ behindName := by
  have hbefore : beforeName = greetingOpening ++ Person.beforeName := by decide
  rw [greeting, Person.render_eq, hbefore, Person.ofArguments]
  simp only [List.append_assoc]

theorem greetingLine_eq (a : Arguments) :
    a.greetingLine = beforeName ++ Quoted.escapeAll '"' a.name ++ (behindName ++ ['\n']) := by
  rw [greetingLine, greeting_eq, List.append_assoc]

/-- **The name is read back from a greeting.** -/
theorem nameIn?_greeting (a : Arguments) : nameIn? a.greeting = some a.name := by
  have hfront : a.greeting.dropPrefix? beforeName
      = some (Quoted.escapeAll '"' a.name ++ behindName) := by
    rw [greeting_eq, List.append_assoc]
    exact List.dropPrefix?_append_of_beq _ (by simp)
  have hback : (Quoted.escapeAll '"' a.name ++ behindName).dropSuffix? behindName
      = some (Quoted.escapeAll '"' a.name) :=
    List.dropSuffix?_eq_some_iff.mpr ⟨behindName, rfl, by simp⟩
  rw [nameIn?, hfront, Option.bind_some, hback, Option.bind_some]
  exact Quoted.unescape_escapeAll (Or.inl rfl) a.name

/-- **Greetings are told apart by the names.** -/
theorem greeting_inj {a b : Arguments} : a.greeting = b.greeting ↔ a.name = b.name := by
  constructor
  · intro h
    rw [greeting_eq, greeting_eq] at h
    exact Quoted.escapeAll_injective (Or.inl rfl)
      (List.append_cancel_left (List.append_cancel_right h))
  · intro h
    rw [greeting_eq, greeting_eq, h]

theorem lineFeed_not_mem_greeting (a : Arguments) : '\n' ∉ a.greeting := by
  have hname := Quoted.lineFeed_not_mem_escapeAll (Or.inl rfl : Quoted.IsQuote '"') a.name
  rw [greeting_eq, List.mem_append, List.mem_append]
  rintro ((h | h) | h)
  · exact absurd h (by decide)
  · exact hname h
  · exact absurd h (by decide)

end Arguments

/-- **Persons are told apart by how they are rendered.** -/
theorem Person.render_injective : Function.Injective Person.render := by
  intro p q h
  rw [render_eq, render_eq] at h
  have hname := List.append_cancel_left (List.append_cancel_right h)
  rw [Person.mk.injEq]
  exact Quoted.escapeAll_injective (Or.inl rfl) hname

theorem Person.ofArguments_inj {a b : Arguments} :
    Person.ofArguments a = Person.ofArguments b ↔ a.name = b.name :=
  Person.mk.injEq a.name b.name ▸ Iff.rfl

end Salutation
