import Salutation.Log.Level
import Salutation.Terminal.Styled
import Salutation.Text.Quoted

/-!
# What the program logs

The program logs two messages, both for debugging: that it greets a person, with the name as a
field, and that it writes a greeting, which is part of the message.  Each message becomes one line,
headed by the time and the level.  The name is quoted, and a greeting holds no line break, so no
name can end its line early or make up another.
-/

namespace Salutation.Log

open Terminal

/-- A message of the program. -/
inductive Event where
  /-- A person is greeted. -/
  | greetingPerson (name : Text)
  /-- A greeting is written. -/
  | writingGreeting (greeting : Text)
  deriving Repr, DecidableEq

namespace Event

/-- The part of the program that a message comes from. -/
def target : Event → Text
  | .greetingPerson _ => "greeter::commands::greet".toList
  | .writingGreeting _ => "greeter".toList

/-- The names of the fields of a message; the message itself is one. -/
def fields : Event → List Text
  | .greetingPerson _ => ["message".toList, "name".toList]
  | .writingGreeting _ => ["message".toList]

/-- The level of a message. -/
def level : Event → Level
  | .greetingPerson _ | .writingGreeting _ => .debug

/-- What a line says behind the time and the level. -/
def body : Event → Styled
  | .greetingPerson name =>
    [⟨.normal, "greeting person ".toList⟩, ⟨.italic, "name".toList⟩, ⟨.dim, ['=']⟩,
      ⟨.normal, Quoted.text name⟩]
  | .writingGreeting greeting => [⟨.normal, "writing greeting ".toList ++ greeting⟩]

/-- **A message as a line**, given the time. -/
def line (time : Text) (e : Event) : Styled :=
  [⟨.dim, time⟩, ⟨.normal, [' ']⟩, ⟨.blue, e.level.name.map Char.toUpper⟩, ⟨.normal, [' ']⟩]
    ++ e.body ++ [⟨.normal, ['\n']⟩]

end Event

end Salutation.Log
