import Salutation.Text.Structured

/-!
# The arguments of the program

What a command line that is accepted comes down to: its positional words, as bytes.  Only the first
of them is used, as the name of the person to greet, read as text with U+FFFD for every ill-formed
piece.  Without a first word the name is empty.
-/

namespace Salutation

/-- The arguments: the words of the command line that are no options. -/
structure Arguments where
  positionals : List Bytes := []
  deriving Repr, DecidableEq

namespace Arguments

/-- **The name of the person to greet.** -/
def name (a : Arguments) : Text :=
  match a.positionals with
  | [] => []
  | first :: _ => Utf8.decodeLossy first

/-- Whether the name is the first word as it stands, with nothing replaced. -/
def nameIsVerbatim (a : Arguments) : Bool :=
  match a.positionals with
  | [] => true
  | first :: _ => Utf8.isValid first

/-- The arguments, rendered for inspection. -/
def render (a : Arguments) : Text :=
  Structured.record "Args".toList
    [("positionals".toList, Structured.list (a.positionals.map Quoted.bytes))]

end Arguments

end Salutation
