import Salutation.CommandLine.Parse
import Salutation.Output.Delivery

/-!
# Sessions

A session keeps arguments, a person that was saved, and a buffer of output, and carries out commands
on them one after the other.  Most commands only ask.  The arguments change by reading a command
line that is accepted, by taking or dropping a word, and by a reset; the saved person changes when
it is saved; and the buffer only ever grows, by one greeting at a time.

A command line that is refused changes nothing.
-/

namespace Salutation

/-- What a session keeps. -/
structure Session where
  arguments : Arguments := {}
  saved : Person := {}
  buffer : Bytes := []
  deriving Repr, DecidableEq

namespace Session

/-- What a session can be told to do. -/
inductive Command where
  /-- Reads a command line in place of the arguments. -/
  | parse (commandLine : List Bytes)
  /-- Reads a command line into the arguments. -/
  | update (commandLine : List Bytes)
  /-- Adds a word behind the others. -/
  | push (word : Bytes)
  /-- Takes away the first word. -/
  | shift
  /-- Forgets the arguments. -/
  | reset
  /-- Saves the person that the arguments name. -/
  | savePerson
  /-- Asks whether the arguments name the person that was saved. -/
  | samePerson
  /-- Asks for the person that was saved. -/
  | showSaved
  /-- Asks for the greeting. -/
  | greeting
  /-- Asks for the arguments. -/
  | showArguments
  /-- Delivers the greeting to the buffer. -/
  | deliver
  /-- Asks for the buffer. -/
  | showBuffer
  deriving Repr, DecidableEq

/-- What a session answers to a command. -/
inductive Answer where
  /-- The command was carried out. -/
  | done
  /-- The command line was refused. -/
  | refused (failure : ParseFailure)
  /-- The word that was taken away, if there was one. -/
  | word (w : Option Bytes)
  /-- A text that was asked for. -/
  | text (t : Text)
  /-- A yes or a no. -/
  | verdict (b : Bool)
  /-- A greeting. -/
  | greeting (t : Text)
  /-- What was delivered so far. -/
  | delivered (bs : Bytes)
  /-- The greeting could not be delivered. -/
  | undelivered (error : OutputError)
  deriving Repr, DecidableEq

/-- The person that the arguments name. -/
def person (s : Session) : Person := .ofArguments s.arguments

/-- Takes over what came of reading a command line. -/
def adopt (s : Session) : Except ParseFailure Arguments → Session × Answer
  | .ok a => ({ s with arguments := a }, .done)
  | .error f => (s, .refused f)

/-- Delivers the greeting to the buffer, which takes all it is given. -/
def deliverGreeting (s : Session) : Session × Answer :=
  let d := s.arguments.deliver {}
  ({ s with buffer := s.buffer ++ d.written },
    match d.failure with
    | none => .done
    | some e => .undelivered e)

/-- **Carries out a command**: the session behind it, and the answer. -/
def step (s : Session) : Command → Session × Answer
  | .parse commandLine => s.adopt (Arguments.parse commandLine)
  | .update commandLine => s.adopt (s.arguments.update commandLine)
  | .push w => ({ s with arguments := ⟨s.arguments.positionals ++ [w]⟩ }, .done)
  | .shift =>
    ({ s with arguments := ⟨s.arguments.positionals.tail⟩ }, .word s.arguments.positionals.head?)
  | .reset => ({ s with arguments := {} }, .done)
  | .savePerson => ({ s with saved := s.person }, .text s.person.name)
  | .samePerson => (s, .verdict (s.person = s.saved))
  | .showSaved => (s, .text s.saved.render)
  | .greeting => (s, .greeting s.arguments.greeting)
  | .showArguments => (s, .text s.arguments.render)
  | .deliver => s.deliverGreeting
  | .showBuffer => (s, .delivered s.buffer)

/-- The session behind a list of commands. -/
def after (s : Session) (cs : List Command) : Session := cs.foldl (fun s c => (s.step c).1) s

/-- **Carries out commands one after the other**: the session behind each, and its answer. -/
def run : Session → List Command → List (Session × Answer)
  | _, [] => []
  | s, c :: cs => s.step c :: run (s.step c).1 cs

end Session

end Salutation
