import Salutation.Text.Utf8

/-!
# The name of the program

Messages call the program by the last component of the path it was started by.  Empty components and
`.` at the end of a path do not count.  A path whose last component is `..` or is not the encoding
of a text, or that has none, gives no name, and the program goes by its own.
-/

namespace Salutation.ProgramName

/-- The name that the program has by itself. -/
def default : Text := "greeter".toList

/-- The byte that separates the components of a path. -/
def slash : UInt8 := 0x2F

/-- The component `.`, which stands for the directory itself. -/
def here : Bytes := [0x2E]

/-- The component `..`, which stands for the directory above. -/
def above : Bytes := [0x2E, 0x2E]

/-- The last component of a path that counts. -/
def lastComponent? (path : Bytes) : Option Bytes :=
  (path.splitOn slash).reverse.find? fun p => p ≠ [] && p ≠ here

/-- **The name that messages use**, given the path the program was started by. -/
def ofPath (path : Bytes) : Text :=
  match lastComponent? path with
  | none => default
  | some p => if p = above then default else (Utf8.decode? p).getD default

/-- The name that messages use, given the whole command line.  Its first word is the path, and may
be missing. -/
def ofCommandLine : List Bytes → Text
  | [] => default
  | path :: _ => ofPath path

end Salutation.ProgramName
