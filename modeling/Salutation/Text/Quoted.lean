import Salutation.Text.Concealed
import Salutation.Text.Utf8

/-!
# Quoted text

A quoted text stands between two quote characters, and inside it a character is written in one of
three ways:

* five characters, and the quote itself, have a **letter** behind a backslash;
* a concealed character is written as its number in hexadecimal, `u` and braces behind a backslash;
* any other character stands for itself.

So a quoted text holds no line break and no control character, and the only quote in it without a
backslash is the one that closes it.  `unescape` reads the inside of a quoted text back; it is one
step on a character, iterated.

A quoted byte string is written the same way, its ill-formed bytes as `x` and two digits.
-/

namespace Salutation.Quoted

/-! ### Writing -/

/-- The letter that stands for a character behind a backslash. -/
def letter? : Char → Option Char
  | '\x00' => some '0'
  | '\t' => some 't'
  | '\n' => some 'n'
  | '\r' => some 'r'
  | '\\' => some '\\'
  | _ => none

/-- A character as it is written between two `quote` characters. -/
def escape (quote c : Char) : Text :=
  match letter? c with
  | some l => ['\\', l]
  | none =>
    if c = quote then ['\\', c]
    else if isConcealed c then ['\\', 'u', '{'] ++ Nat.toDigits 16 c.toNat ++ ['}']
    else [c]

/-- The inside of a quoted text. -/
def escapeAll (quote : Char) (t : Text) : Text := t.flatMap (escape quote)

/-- A text between double quotes. -/
def text (t : Text) : Text := '"' :: escapeAll '"' t ++ ['"']

/-- A single character between single quotes. -/
def char (c : Char) : Text := '\'' :: escape '\'' c ++ ['\'']

/-- The sixteen digits of the upper-case hexadecimal notation. -/
def upperHexDigit (n : Nat) : Char :=
  if n < 10 then Char.ofNat (n + 48) else Char.ofNat (n + 55)

/-- A byte that belongs to no character. -/
def byteEscape (b : UInt8) : Text :=
  ['\\', 'x', upperHexDigit (b.toNat / 16), upperHexDigit (b.toNat % 16)]

/-- A segment of a byte string as it is written between double quotes. -/
def segment : Utf8.Segment → Text
  | .scalar c => escape '"' c
  | .illFormed bs => bs.flatMap byteEscape

/-- A byte string between double quotes. -/
def bytes (bs : Bytes) : Text := '"' :: (Utf8.segments bs).flatMap segment ++ ['"']

/-! ### Reading back -/

/-- The character that a letter behind a backslash stands for.  The quote stands for itself. -/
def ofLetter? (quote : Char) : Char → Option Char
  | '0' => some '\x00'
  | 't' => some '\t'
  | 'n' => some '\n'
  | 'r' => some '\r'
  | '\\' => some '\\'
  | c => if c = quote then some quote else none

/-- The value of a lower-case hexadecimal digit. -/
def hexValue? (c : Char) : Option Nat :=
  if '0' ≤ c ∧ c ≤ '9' then some (c.toNat - 48)
  else if 'a' ≤ c ∧ c ≤ 'f' then some (c.toNat - 87)
  else none

/-- The character with a given number. -/
def ofNumber? (n : Nat) : Option Char :=
  if n.isValidChar then some (Char.ofNat n) else none

/-- Where the reader of an escaped text stands. -/
inductive Reading where
  /-- Between characters. -/
  | plain
  /-- Behind a backslash. -/
  | backslash
  /-- Behind a backslash and `u`. -/
  | unicode
  /-- Inside the braces, with the number read so far. -/
  | digits (value : Option Nat)
  deriving Repr, DecidableEq

/-- Reads one character: where the reader stands then, and the character that is complete, if one
is.  No escape goes on like that where the result is `none`. -/
def Reading.step (quote : Char) : Reading → Char → Option (Reading × Option Char)
  | .plain, c => if c = '\\' then some (.backslash, none) else some (.plain, some c)
  | .backslash, c =>
    if c = 'u' then some (.unicode, none) else (ofLetter? quote c).map fun d => (.plain, some d)
  | .unicode, c => if c = '{' then some (.digits none, none) else none
  | .digits n, c =>
    if c = '}' then (n.bind ofNumber?).map fun d => (.plain, some d)
    else (hexValue? c).map fun d => (.digits (some (16 * n.getD 0 + d)), none)

/-- Reads a text to its end.  It has to end between characters. -/
def unescapeFrom (quote : Char) : Reading → Text → Option Text
  | r, [] => if r = .plain then some [] else none
  | r, c :: cs =>
    match r.step quote c with
    | none => none
    | some (r', out) => (unescapeFrom quote r' cs).map (out.toList ++ ·)

/-- **The text that an escaped text stands for**, if every escape in it can be read. -/
def unescape (quote : Char) (t : Text) : Option Text := unescapeFrom quote .plain t

end Salutation.Quoted
