import Salutation.Log.Pattern.Flags
import Salutation.Text.Quoted

/-!
# Elements of a pattern

The smallest part of a pattern is an **element**: a character, a set of characters that has a
letter, or a place in the text such as its end.  An element is written as the character itself or
behind a backslash.  Behind a backslash a letter has a meaning of its own or none, a digit none, and
any other ASCII character stands for itself.  Characters may also be given by two, four or eight
hexadecimal digits.

Not every element may stand everywhere.  A pattern is matched without tables of Unicode, and what it
matches is always a well-formed text.  So while it is about all of Unicode it has no digits, blanks
and word characters, no boundaries between words and no comparison without letter case, since these
would need tables.  While it is about bytes it has all of them, for ASCII alone, but nothing that
would match a byte beyond ASCII.
-/

namespace Salutation.Log.Pattern

/-- The smallest part of a pattern. -/
inductive Element where
  /-- A character. -/
  | character (c : Char)
  /-- A character given by two digits, which may also be the number of a byte. -/
  | byte (c : Char)
  /-- The digits, the blanks or the word characters, or all characters but those. -/
  | set (complement : Bool)
  /-- A place between characters. -/
  | place
  /-- A place where a word begins or ends, or where none does. -/
  | boundary
  deriving Repr, DecidableEq

/-! ### Where an element may stand -/

namespace Element

/-- The character that an element is, if it is a single one. -/
def single? : Element → Option Char
  | .character c | .byte c => some c
  | .set _ | .place | .boundary => none

/-- Whether two elements are the ends of a range, the lower one first. -/
def spans (low high : Element) : Bool :=
  match low.single?, high.single? with
  | some a, some b => a ≤ b
  | _, _ => false

end Element

/-- Whether a character belongs to ASCII. -/
def isAscii (c : Char) : Bool := c.toNat < 0x80

namespace Flags

/-- Whether letter case would have to be looked up for characters of all Unicode. -/
def needsFolding (f : Flags) : Bool := f.unicode && f.caseless

/-- **Whether an element may stand in a pattern.** -/
def admits (f : Flags) : Element → Bool
  | .character _ => !f.needsFolding
  | .byte c => if f.unicode then !f.caseless else isAscii c
  | .set complement => !f.unicode && !complement
  | .place => true
  | .boundary => !f.unicode

/-- **Whether an element may be a member of a set.**  A set about bytes holds ASCII alone. -/
def admitsMember (f : Flags) : Element → Bool
  | .character c | .byte c => if f.unicode then !f.caseless else isAscii c
  | .set complement => !f.unicode && !complement
  | .place | .boundary => false

/-- Whether the complement of a set may stand in a pattern.  Among bytes it would hold those beyond
ASCII. -/
def admitsComplement (f : Flags) : Bool := f.unicode

/-- Whether the pattern may ask for any character at all. -/
def admitsAny (f : Flags) : Bool := f.unicode

end Flags

/-! ### Reading -/

namespace Element

/-- Reads a number of hexadecimal digits, given the value of those before. -/
def hexDigits? (f : Flags) : Nat → Nat → Text → Option (Nat × Text)
  | 0, value, t => some (value, t)
  | _ + 1, _, [] => none
  | n + 1, value, c :: cs =>
    match Quoted.hexValue? c.toLower with
    | none => none
    | some d => hexDigits? f n (16 * value + d) (f.skip cs)

/-- Reads a character that is given by `count` hexadecimal digits. -/
def numbered? (f : Flags) (count : Nat) (t : Text) : Option (Char × Text) :=
  (hexDigits? f count 0 (f.skip t)).bind fun (n, rest) =>
    (Quoted.ofNumber? n).map fun c => (c, rest)

/-- What a letter or an angle bracket behind a backslash stands for by itself.  The letters for the
general categories of characters are not among them, for want of a table. -/
def ofSign? : Char → Option Element
  | 'd' | 's' | 'w' => some (.set false)
  | 'D' | 'S' | 'W' => some (.set true)
  | 'A' | 'z' => some .place
  | 'b' | 'B' | '<' | '>' => some .boundary
  | 'a' => some (.character '\x07')
  | 'f' => some (.character '\x0c')
  | 'n' => some (.character '\n')
  | 'r' => some (.character '\r')
  | 't' => some (.character '\t')
  | 'v' => some (.character '\x0b')
  | _ => none

/-- Whether a character stands for itself behind a backslash. -/
def isLiteral (c : Char) : Bool := isAscii c && !c.isAlphanum && c ≠ '<' && c ≠ '>'

/-- **Reads an element behind a backslash.**  There is no reference to an earlier group. -/
def escaped? (f : Flags) : Text → Option (Element × Text)
  | [] => none
  | 'x' :: cs => (numbered? f 2 cs).map fun (c, rest) => (.byte c, rest)
  | 'u' :: cs => (numbered? f 4 cs).map fun (c, rest) => (.character c, rest)
  | 'U' :: cs => (numbered? f 8 cs).map fun (c, rest) => (.character c, rest)
  | c :: cs => if isLiteral c then some (.character c, cs) else (ofSign? c).map (·, cs)

end Element

end Salutation.Log.Pattern
