import Salutation.CommandLine.Arguments

/-!
# The greeting

A person is a record of one field, and a greeting is `Hello` and the person as a structured
rendering shows it.  The name is quoted there, so a greeting is one line whatever the name is.
-/

namespace Salutation

/-- The person to greet. -/
structure Person where
  name : Text := []
  deriving Repr, DecidableEq

namespace Person

/-- The person named by the arguments. -/
def ofArguments (a : Arguments) : Person := ⟨a.name⟩

/-- A person, rendered for inspection. -/
def render (p : Person) : Text :=
  Structured.record "Person".toList [("name".toList, Quoted.text p.name)]

end Person

/-- The word that opens every greeting, with the space behind it. -/
def greetingOpening : Text := "Hello ".toList

/-- **The greeting** for the person that the arguments name. -/
def Arguments.greeting (a : Arguments) : Text :=
  greetingOpening ++ (Person.ofArguments a).render

/-- The greeting as a line of output. -/
def Arguments.greetingLine (a : Arguments) : Text := a.greeting ++ ['\n']

end Salutation
