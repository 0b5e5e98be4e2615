import Salutation.CommandLine.Flag
import Salutation.CommandLine.ProgramName
import Salutation.Terminal.Styled

/-!
# Usage, help and version

The texts by which the program explains itself.  The usage line names the program, the flags at
issue if there are any, and the words it takes.  Help comes in a short form, one line for each item,
and a long form with the explanations set apart.
-/

namespace Salutation.Help

open Terminal

/-- The two forms of the help text. -/
inductive Form where
  | short
  | long
  deriving Repr, DecidableEq

/-- A span of normal text. -/
def normal (s : String) : Span := ⟨.normal, s.toList⟩

/-- How the words that the program takes are written. -/
def operands : Span := normal "[NAME]..."

/-- **The usage line**, with the flags at issue between the program and its operands.  A program
without a name is left out. -/
def usage (program : Text) (flags : List Flag) : Styled :=
  [⟨.heading, "Usage:".toList⟩, normal " "]
    ++ (if program = [] then [] else [⟨.literal, program⟩, normal " "])
    ++ flags.flatMap (fun f => [⟨.literal, f.long⟩, normal " "])
    ++ [operands]

/-- The names of a flag: its letter, then its long name. -/
def names (f : Flag) : Styled := [⟨.literal, f.short⟩, normal ", ", ⟨.literal, f.long⟩]

/-- The opening of both forms: what the program does, and how it is used. -/
def opening (program : Text) : Styled :=
  normal "Greets the person named on the command line.\n\n" :: usage program []
    ++ [normal "\n\n", ⟨.heading, "Arguments:".toList⟩, normal "\n  ", operands]

/-- The short form. -/
def shortForm (program : Text) : Styled :=
  opening program
    ++ [normal "  Name of the person to greet. Anything after the first name is ignored\n\n",
      ⟨.heading, "Options:".toList⟩, normal "\n  "]
    ++ names .help ++ [normal "     Print help (see more with '--help')\n  "]
    ++ names .version ++ [normal "  Print version\n"]

/-- The long form. -/
def longForm (program : Text) : Styled :=
  opening program
    ++ [normal "\n          Name of the person to greet. Anything after the first name is ignored.\n",
      normal "          \n",
      normal "          Flags are only recognized before the first positional argument.\n\n",
      ⟨.heading, "Options:".toList⟩, normal "\n  "]
    ++ names .help ++ [normal "\n          Print help (see a summary with '-h')\n\n  "]
    ++ names .version ++ [normal "\n          Print version\n"]

/-- **The help text** in either form. -/
def text : Form → Text → Styled
  | .short, program => shortForm program
  | .long, program => longForm program

/-- **The version text.**  It gives the program's own name, whatever it was started by. -/
def version : Styled := [⟨.normal, ProgramName.default⟩, normal " 0.1.0\n"]

end Salutation.Help
