import Salutation.Text.Basic

/-!
# The flags of the program

The program has two flags, each with a long name behind two hyphens and a letter behind one.
-/

namespace Salutation

/-- A flag of the program. -/
inductive Flag where
  | help
  | version
  deriving Repr, DecidableEq

namespace Flag

/-- The flags, in the order in which the help text lists them. -/
def all : List Flag := [.help, .version]

/-- The long name of a flag, without its hyphens. -/
def longName : Flag → Text
  | .help => "help".toList
  | .version => "version".toList

/-- The letter of a flag. -/
def letter : Flag → Char
  | .help => 'h'
  | .version => 'V'

/-- A flag by its long name, as it is written on a command line. -/
def long (f : Flag) : Text := ['-', '-'] ++ f.longName

/-- A flag by its letter, as it is written on a command line. -/
def short (f : Flag) : Text := ['-', f.letter]

/-- The flag with a given long name. -/
def ofLongName? (name : Text) : Option Flag := all.find? (·.longName = name)

/-- The flag with a given letter. -/
def ofLetter? (c : Char) : Option Flag := all.find? (·.letter = c)

end Flag

end Salutation
