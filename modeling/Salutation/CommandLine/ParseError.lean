import Salutation.CommandLine.Help
import Salutation.CommandLine.Similarity

/-!
# Why a command line gives no arguments

A command line may ask for help or for the version, or it may hold an option that the program does
not have or a value that a flag does not take.  Each of these ends the reading of the command line
at once.  The text that the user gets is a function of the cause and of the name that the program
goes by.
-/

namespace Salutation

open Terminal

/-- The cause for which a command line gives no arguments. -/
inductive ParseError where
  /-- Help was asked for. -/
  | helpRequested (form : Help.Form)
  /-- The version was asked for. -/
  | versionRequested
  /-- An option is not known.  It is given as the message shows it, with the flag most like it. -/
  | unknownArgument (shown : Text) (suggestion : Option Flag)
  /-- A flag was given a value. -/
  | unexpectedValue (flag : Flag) (value : Text)
  deriving Repr, DecidableEq

namespace ParseError

/-- Whether the command line is at fault, rather than a request that was granted. -/
def isFault : ParseError → Bool
  | .helpRequested _ | .versionRequested => false
  | .unknownArgument _ _ | .unexpectedValue _ _ => true

/-- The exit code that goes with the cause by itself. -/
def exitCode (e : ParseError) : Nat := if e.isFault then 2 else 0

/-- The line of a message that proposes something. -/
def tip (proposal : Styled) : Styled :=
  [Help.normal "  ", ⟨.valid, "tip:".toList⟩, Help.normal " "] ++ proposal ++ [Help.normal "\n"]

/-- A message about a fault: the objection, proposals if there are any, usage with the flags at
issue, and where to read on. -/
def message (program : Text) (objection : Styled) (tips : List Styled) (flags : List Flag) :
    Styled :=
  [⟨.fault, "error:".toList⟩, Help.normal " "] ++ objection ++ [Help.normal "\n\n"]
    ++ tips.flatMap tip ++ (if tips = [] then [] else [Help.normal "\n"])
    ++ Help.usage program flags
    ++ [Help.normal "\n\nFor more information, try '", ⟨.literal, Flag.help.long⟩,
      Help.normal "'.\n"]

/-- The proposal of a flag instead of an unknown option. -/
def similarFlag (f : Flag) : Styled :=
  [Help.normal "a similar argument exists: '", ⟨.valid, f.long⟩, Help.normal "'"]

/-- The proposal to put the separator in front of what is shown. -/
def asValue (shown : Text) : Styled :=
  [Help.normal "to pass '", ⟨.invalid, shown⟩, Help.normal "' as a value, use '",
    ⟨.valid, ['-', '-', ' '] ++ shown⟩, Help.normal "'"]

/-- **The text that the user gets**, when the program goes by the given name. -/
def styled (program : Text) : ParseError → Styled
  | .helpRequested form => Help.text form program
  | .versionRequested => Help.version
  | .unknownArgument shown suggestion =>
    message program
      [Help.normal "unexpected argument '", ⟨.invalid, shown⟩, Help.normal "' found"]
      ((suggestion.map similarFlag).toList ++ [asValue shown]) suggestion.toList
  | .unexpectedValue flag value =>
    message program
      [Help.normal "unexpected value '", ⟨.invalid, value⟩, Help.normal "' for '",
        ⟨.literal, flag.long⟩, Help.normal "' found; no more were expected"]
      [] [flag]

end ParseError

end Salutation
