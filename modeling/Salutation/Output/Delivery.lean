import Salutation.Greeting
import Salutation.Output.Report
import Salutation.Output.Writer

/-!
# Delivering the greeting

The greeting goes to a stream in two parts, the text and the line feed, and the stream is flushed
once when it has taken both.  The delivery fails with the first error that writing or flushing ends
with.
-/

namespace Salutation

/-- What came of delivering a greeting. -/
structure Delivery where
  /-- The error that it failed with, if it failed. -/
  failure : Option OutputError
  /-- The bytes that the stream took. -/
  written : Bytes
  /-- How often the stream was called to write. -/
  writeCalls : Nat
  /-- How often the stream was called to flush. -/
  flushCalls : Nat
  deriving Repr, DecidableEq

namespace Arguments

/-- The parts in which a greeting is written. -/
def greetingParts (a : Arguments) : List Bytes :=
  [Utf8.encode a.greeting, Utf8.encode ['\n']]

/-- **Delivers the greeting** to a stream. -/
def deliver (a : Arguments) (stream : Script) : Delivery :=
  let p := Writer.writeParts stream.replies a.greetingParts
  match p.failure with
  | some e => ⟨some e, p.taken, p.calls, 0⟩
  | none => ⟨stream.flush, p.taken, p.calls, 1⟩

end Arguments

end Salutation
