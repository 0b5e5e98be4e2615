import Salutation.CommandLine.Arguments
import Salutation.CommandLine.ParseError
import Salutation.CommandLine.Token

/-!
# Reading a command line

A command line is the path of the program and the words behind it.  The words are read from left to
right in one of two modes: at first options are recognized, and from the first plain word or the
separator on, every word is taken as it is.  An option ends the reading, since the program has none
but those that ask for a text.

The words that are taken are the values of one argument.  What comes of a reading are **matches**,
which say whether that argument is present at all: it is from its first value on.  New arguments are
made of the values, or of none if it is not present (`Arguments.parse`).  Arguments that are there
already are updated by presence (`Arguments.update`): if it is not present they are left alone,
whatever they hold.

An update is read by a description of its own, in which nothing is required.  As nothing is required
for new arguments either, both are read alike.
-/

namespace Salutation

/-- A command line that gives no arguments: the cause, and the name that the program goes by. -/
structure ParseFailure where
  program : Text
  cause : ParseError
  deriving Repr, DecidableEq

/-- The text of a failure, with its styles. -/
def ParseFailure.styled (f : ParseFailure) : Terminal.Styled := f.cause.styled f.program

namespace CommandLine

/-- How the next word of a command line is read. -/
inductive Mode where
  /-- Options are recognized. -/
  | options
  /-- Every word is taken as it is. -/
  | wordsOnly
  deriving Repr, DecidableEq

/-- What a flag by itself asks for. -/
def request (form : Help.Form) : Flag → ParseError
  | .help => .helpRequested form
  | .version => .versionRequested

/-- The flag whose long name is written by these bytes. -/
def longFlag? (name : Bytes) : Option Flag := (Utf8.decode? name).bind Flag.ofLongName?

/-- What a long option ends the reading with.  A flag takes no value; a name that no flag has is
shown without its value. -/
def longOption (name : Bytes) (value : Option Bytes) : ParseError :=
  match longFlag? name, value with
  | some f, none => request .long f
  | some f, some v => .unexpectedValue f (Utf8.decodeLossy v)
  | none, _ =>
    .unknownArgument (['-', '-'] ++ Utf8.decodeLossy name)
      (Similarity.suggest? (Utf8.decodeLossy name))

/-- What a cluster of letters ends the reading with.  Its first character decides; a cluster that
does not begin with a character is shown whole. -/
def cluster (letters : Bytes) : ParseError :=
  match Utf8.segments letters with
  | .scalar c :: _ =>
    match Flag.ofLetter? c with
    | some f => request .short f
    | none => .unknownArgument ['-', c] none
  | _ => .unknownArgument ('-' :: Utf8.decodeLossy letters) none

/-- What was matched of a command line. -/
structure Matches where
  /-- The values of the positional argument, if it is present. -/
  positionals? : Option (List Bytes) := none
  deriving Repr, DecidableEq

/-- The matches with one more value of the positional argument, which is present from then on. -/
def Matches.take (m : Matches) (w : Bytes) : Matches := ⟨some (m.positionals?.getD [] ++ [w])⟩

/-- Reads the words of a command line in a given mode, on top of what was matched before. -/
def scan : Mode → Matches → List Bytes → Except ParseError Matches
  | _, m, [] => .ok m
  | .wordsOnly, m, w :: ws => scan .wordsOnly (m.take w) ws
  | .options, m, w :: ws =>
    match Token.ofBytes w with
    | .separator => scan .wordsOnly m ws
    | .word => scan .wordsOnly (m.take w) ws
    | .long name value => .error (longOption name value)
    | .cluster letters => .error (cluster letters)

/-- **What is matched of a command line**, the path of the program first. -/
def read (commandLine : List Bytes) : Except ParseFailure Matches :=
  (scan .options {} commandLine.tail).mapError (⟨ProgramName.ofCommandLine commandLine, ·⟩)

end CommandLine

namespace Arguments

open CommandLine (Matches)

/-- The arguments that matches make. -/
def ofMatches (m : Matches) : Arguments := ⟨m.positionals?.getD []⟩

/-- The arguments, updated by matches. -/
def updateFrom (a : Arguments) (m : Matches) : Arguments :=
  match m.positionals? with
  | none => a
  | some ws => ⟨ws⟩

/-- **Reads a command line** into new arguments. -/
def parse (commandLine : List Bytes) : Except ParseFailure Arguments :=
  (CommandLine.read commandLine).map ofMatches

/-- **Reads a command line into arguments that are there already.** -/
def update (a : Arguments) (commandLine : List Bytes) : Except ParseFailure Arguments :=
  (CommandLine.read commandLine).map a.updateFrom

end Arguments

end Salutation
