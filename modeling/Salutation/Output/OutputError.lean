import Salutation.Output.SystemError
import Salutation.Text.Structured

/-!
# Output errors

A stream that does not take what it is given answers with an error: a number of the operating
system, a bare kind, or a kind with a message.  One more error arises from an answer that is none: a
stream that takes no bytes at all will never take them all.
-/

namespace Salutation

/-- Why a stream did not take what it was given. -/
inductive OutputError where
  /-- An error number of the operating system. -/
  | system (code : Int)
  /-- An error of which only the kind is known. -/
  | bare (kind : ErrorKind)
  /-- An error with a message of its own. -/
  | custom (kind : ErrorKind) (message : Text)
  /-- The stream took none of the bytes left. -/
  | nothingTaken
  deriving Repr, DecidableEq

namespace OutputError

/-- The kind of an error. -/
def kind : OutputError → ErrorKind
  | .system code => SystemError.kind code
  | .bare k => k
  | .custom k _ => k
  | .nothingTaken => .writeZero

/-- The fragments that the text of an error is put together from. -/
def fragments : OutputError → List Text
  | .system code =>
    [SystemError.text code, " (os error ".toList, Text.ofInt code, [')']]
  | .bare k => [k.description]
  | .custom _ message => [message]
  | .nothingTaken => ["failed to write whole buffer".toList]

/-- **What a user reads of an error.** -/
def text (e : OutputError) : Text := e.fragments.flatten

/-- Whether the error only says that the stream was interrupted, so that writing may go on. -/
def isInterruption (e : OutputError) : Bool := e.kind = .interrupted

/-- An error, rendered for inspection. -/
def render : OutputError → Text
  | .system code =>
    Structured.record "Os".toList
      [("code".toList, Text.ofInt code), ("kind".toList, (SystemError.kind code).name),
        ("message".toList, Quoted.text (SystemError.text code))]
  | .bare k => Structured.variant "Kind".toList k.name
  | .custom k message =>
    Structured.record "Custom".toList
      [("kind".toList, k.name), ("error".toList, Quoted.text message)]
  | .nothingTaken =>
    Structured.record "Error".toList
      [("kind".toList, ErrorKind.writeZero.name),
        ("message".toList, Quoted.text (text .nothingTaken))]

end OutputError

end Salutation
