import Salutation.Program.Clock
import Salutation.Program.Invocation
import Std.Time.DateTime.Timestamp

/-!
# The program

The program collects its invocation from the system and offers the two texts of the outcome to its
streams.  What a stream answers is put into the invocation, whose outcome then says what is left to
report and how the program exits.  Standard error comes first, since log lines precede the greeting.
-/

namespace Salutation

/-- The sink that answers a write with a given error.  Only a lack of space and a missing reader are
refusals. -/
def Sink.ofError : IO.Error → Sink
  | .resourceExhausted .. => .full
  | .resourceVanished .. => .broken
  | _ => .readOnly

/-- Offers bytes to a stream, which shows where it ends. -/
def offer (stream : IO.FS.Stream) (bs : Bytes) : IO Sink := do
  try
    stream.write ⟨bs.toArray⟩
    stream.flush
    return .pipe
  catch e => return Sink.ofError e

/-- The variables of the environment that the program reads. -/
def readEnvironment : IO Environment :=
  [Environment.logFilter, Environment.noColour, Environment.forceColour].filterMapM fun name => do
    return (← IO.getEnv (String.ofList name)).map fun value => (name, Utf8.encode value.toList)

/-- The time as log lines give it. -/
def readClock : IO Text := do
  let now ← Std.Time.Timestamp.now
  return Clock.text (now.toNanosecondsSinceUnixEpoch.val / 1000).toNat

end Salutation

open Salutation in
/-- Runs the program on the words of its command line. -/
def main (words : List String) : IO UInt32 := do
  let invocation : Invocation :=
    { program := Utf8.encode (← IO.appPath).toString.toList
      arguments := words.map fun w => Utf8.encode w.toList
      environment := ← readEnvironment
      time := ← readClock }
  let said := invocation.run.stderr
  let invocation := { invocation with stderr := ← offer (← IO.getStderr) said }
  let invocation := { invocation with stdout := ← offer (← IO.getStdout) invocation.run.stdout }
  -- what is left to say is the report of a delivery that failed
  let report := invocation.run.stderr.drop said.length
  let last ← if report = [] then pure invocation.stderr else offer (← IO.getStderr) report
  return UInt32.ofNat { invocation with stderr := last }.run.exitCode
