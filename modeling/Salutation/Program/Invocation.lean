import Salutation.CommandLine.Parse
import Salutation.Log.Filter
import Salutation.Output.Delivery

/-!
# A run of the program

An invocation is all that a run depends on: the path that the program is started by, its arguments,
the environment, the ends of its streams, the time that its log lines give, and what its
surroundings say of a run that has to stop.  The outcome is the exit code and what can be read from
the streams.

The program reads the filter of its log, then the command line.  A request or a fault ends the run
with its text.  Otherwise the program logs, delivers the greeting to standard output, and reports to
standard error if that fails.  The exit code says how far it came:

* 0: the greeting was delivered, or the version was given;
* 1: the greeting could not be delivered;
* 2: help was given, or the command line was at fault;
* 101: standard error did not take what the program had to say there, or a part of the filter would
  have ended inside a character.

Only the text about a fault may be lost without that last code.  A run that ends with it stops where
it is, and its surroundings give notice of that on standard error, if that takes it.
-/

namespace Salutation

/-! ### The environment -/

/-- The variables that are set. -/
abbrev Environment := List (Text × Bytes)

namespace Environment

/-- The value of a variable, if it is set. -/
def value? (env : Environment) (name : Text) : Option Bytes := env.lookup name

/-- Whether a variable is set to something. -/
def isPresent (env : Environment) (name : Text) : Bool := (env.value? name).any (· ≠ [])

/-- The variable that holds the filter of the log. -/
def logFilter : Text := "RUST_LOG".toList

/-- The variable that switches colours off. -/
def noColour : Text := "NO_COLOR".toList

/-- The variable that forces colours. -/
def forceColour : Text := "CLICOLOR_FORCE".toList

/-- **Whether messages about the command line are coloured.**  Switching off prevails. -/
def coloursMessages (env : Environment) : Bool :=
  !env.isPresent noColour && env.isPresent forceColour

/-- **Whether the log is coloured.**  Only a text switches its colours off; other bytes do not. -/
def coloursLog (env : Environment) : Bool :=
  match (env.value? noColour).bind Utf8.decode? with
  | some t => t = []
  | none => true

end Environment

/-! ### Where the streams end -/

/-- The end of a standard stream. -/
inductive Sink where
  /-- A pipe with a reader. -/
  | pipe
  /-- A device without space. -/
  | full
  /-- A file that cannot be written to. -/
  | readOnly
  /-- A pipe without a reader. -/
  | broken
  deriving Repr, DecidableEq

namespace Sink

/-- The error that a sink refuses every write with, if it does. -/
def refusal? : Sink → Option OutputError
  | .pipe | .readOnly => none
  | .full => some (.system SystemError.noSpace)
  | .broken => some (.system SystemError.brokenPipe)

/-- Whether a sink refuses every write. -/
def isBad (s : Sink) : Bool := s.refusal?.isSome

/-- A sink as a stream.  The program writes no more to a stream that has refused, so one reply is
enough. -/
def stream (s : Sink) : Script := { replies := (s.refusal?.map Reply.fail).toList }

/-- What can be read of the bytes that were written to a sink. -/
def captured (s : Sink) (written : Bytes) : Bytes := if s = .pipe then written else []

end Sink

/-! ### Invocations -/

/-- What the surroundings of the program say of a run that had to stop.  They are never silent. -/
structure Notice where
  text : Text
  text_ne_nil : text ≠ []
  deriving Repr, DecidableEq

/-- A notice that gives no reason. -/
def Notice.brief : Notice := ⟨"stopped\n".toList, by decide⟩

/-- All that a run depends on. -/
structure Invocation where
  /-- The path that the program is started by. -/
  program : Bytes
  /-- The words behind it. -/
  arguments : List Bytes
  environment : Environment := []
  stdout : Sink := .pipe
  stderr : Sink := .pipe
  /-- The time that log lines give. -/
  time : Text
  /-- The notice of a run that has to stop. -/
  notice : Notice := .brief
  deriving Repr, DecidableEq

/-- What comes of a run. -/
structure Outcome where
  exitCode : Nat
  stdout : Bytes
  stderr : Bytes
  deriving Repr, DecidableEq

namespace Invocation

/-- The exit code of a run that had to stop where it was. -/
def stopped : Nat := 101

/-- The outcome of a run that has written so much. -/
def outcome (i : Invocation) (exitCode : Nat) (stdout : Bytes) (stderr : Text) : Outcome :=
  ⟨exitCode, i.stdout.captured stdout, i.stderr.captured (Utf8.encode stderr)⟩

/-- Stops the run where it is, with nothing written yet. -/
def stop (i : Invocation) : Outcome := i.outcome stopped [] i.notice.text

/-- Ends the run with a text that standard error has to take. -/
def conclude (i : Invocation) (exitCode : Nat) (stderr : Text) : Outcome :=
  if i.stderr.isBad then i.stop else i.outcome exitCode [] stderr

/-- **Ends the run with the text of a request or a fault.**  Help goes to standard error without
colours, the version to standard output. -/
def explain (i : Invocation) (f : ParseFailure) : Outcome :=
  match f.cause with
  | .helpRequested _ => i.conclude 2 f.styled.plain
  | .versionRequested => i.outcome 0 (Utf8.encode f.styled.plain) []
  | .unknownArgument _ _ | .unexpectedValue _ _ =>
    i.outcome 2 []
      (if i.environment.coloursMessages then f.styled.coloured
        else Terminal.filter f.styled.coloured)

/-- The messages of a run, in order. -/
def events (a : Arguments) : List Log.Event :=
  [.greetingPerson a.name, .writingGreeting a.greeting]

/-- The lines that a filter lets through. -/
def log (i : Invocation) (filter : Log.Filter) (a : Arguments) : Text :=
  ((events a).filter filter.enables).flatMap fun e =>
    let line := e.line i.time
    if i.environment.coloursLog then line.coloured else line.bare

/-- The line that reports a failed delivery. -/
def report (cause : OutputError) : Text := "Error: ".toList ++ Report.block cause ++ ['\n']

/-- **Greets.**  A log line that standard error does not take ends the run before the greeting. -/
def greet (i : Invocation) (filter : Log.Filter) (a : Arguments) : Outcome :=
  let lines := i.log filter a
  if lines ≠ [] && i.stderr.isBad then i.stop
  else
    let d := a.deliver i.stdout.stream
    match d.failure with
    | none => i.outcome 0 d.written lines
    | some e => i.conclude 1 (lines ++ report e)

/-- **Runs the program.** -/
def run (i : Invocation) : Outcome :=
  match Log.Filter.ofVariable (i.environment.value? Environment.logFilter) with
  | .error _ => i.stop
  | .ok filter =>
    match Arguments.parse (i.program :: i.arguments) with
    | .error f => i.explain f
    | .ok a => i.greet filter a

/-! ### Starting a run -/

/-- Why a program cannot be started. -/
inductive StartFault where
  /-- A string holds the byte zero, which ends strings. -/
  | zeroByte
  /-- A string is longer than the system hands over. -/
  | tooLong
  deriving Repr, DecidableEq

/-- What a user reads of a program that cannot be started. -/
def StartFault.text : StartFault → Text
  | .zeroByte => "nul byte found in provided data".toList
  | .tooLong => OutputError.text (.system SystemError.argumentsTooLong)

/-- The length from which on the system hands no string over. -/
def stringLimit : Nat := 131072

/-- The strings that are handed over: the path, the arguments, and for each variable its name and
its value with an equals sign between them. -/
def strings (i : Invocation) : List Bytes :=
  i.program :: i.arguments ++ i.environment.map fun v => Utf8.encode (v.1 ++ ['=']) ++ v.2

/-- **Starts the program**, if all strings can be handed to it. -/
def start (i : Invocation) : Except StartFault Outcome :=
  if i.strings.any (·.contains 0) then .error .zeroByte
  else if i.strings.any (stringLimit ≤ ·.length) then .error .tooLong
  else .ok i.run

end Invocation

end Salutation
