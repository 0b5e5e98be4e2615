import Salutation.Text.Alphanumeric
import Salutation.Text.Basic

/-!
# Flags and groups of a pattern

A pattern is a regular expression, and flags say how it is read.  Three of them matter for what may
stand in it:

* in **extended** form blanks do not count, and neither does the rest of a line behind a number
  sign;
* a **caseless** pattern does not tell a capital from a small letter;
* the pattern is about characters of all **Unicode**, or else about bytes.

A word of letters turns flags on, and behind a hyphen off.  It stands behind an opening parenthesis,
which begins a group with these flags, or changes the flags for what is left of the group around it.
A group may have a name instead.
-/

namespace Salutation.Log.Pattern

/-- How a pattern is read. -/
structure Flags where
  extended : Bool := false
  caseless : Bool := false
  unicode : Bool := true
  deriving Repr, DecidableEq

namespace Flags

/-! ### Words of flags -/

/-- The letters of the flags, and the sign that turns flags off. -/
def letters : List Char := ['-', 'i', 'm', 's', 'U', 'u', 'R', 'x']

/-- Whether a word sets flags: no letter comes twice, and the last turns a flag on or off. -/
def isWord (word : Text) : Bool :=
  word.all letters.contains && decide word.Nodup && word.getLast? ≠ some '-'

/-- Whether a word turns a flag on, or off, if it says so. -/
def setting? (word : Text) (letter : Char) : Option Bool :=
  if word.contains letter then some (!(word.takeWhile (· ≠ letter)).contains '-') else none

/-- The flags behind a word. -/
def set (f : Flags) (word : Text) : Flags :=
  { extended := (setting? word 'x').getD f.extended
    caseless := (setting? word 'i').getD f.caseless
    unicode := (setting? word 'u').getD f.unicode }

/-! ### Extended form -/

/-- What is left behind blanks and comments, inside of a comment or not. -/
def skipFrom : Bool → Text → Text
  | _, [] => []
  | true, c :: cs => skipFrom (c ≠ '\n') cs
  | false, c :: cs =>
    if isBlank c then skipFrom false cs
    else if c = '#' then skipFrom true cs
    else c :: cs

/-- What is left of a text where the next character that counts is read. -/
def skip (f : Flags) (t : Text) : Text := if f.extended then skipFrom false t else t

/-- The next character to look at, before it is decided how to go on.  In extended form that is the
next one that is not blank, and behind a number sign the next after that, so that a comment is
looked into. -/
def lookAhead? (f : Flags) (t : Text) : Option Char :=
  if f.extended then
    match t.dropWhile isBlank with
    | '#' :: comment => (comment.dropWhile isBlank).head?
    | rest => rest.head?
  else t.head?

end Flags

/-! ### Groups -/

/-- What an opening parenthesis begins. -/
inductive Opening where
  /-- A change of flags, by a word. -/
  | flags (word : Text)
  /-- A group, with a word of flags that may be empty. -/
  | group (word : Text)
  /-- A group with a name. -/
  | named (name : Text)
  deriving Repr, DecidableEq

namespace Opening

/-- Reads a word of flags, up to the sign behind it. -/
def flags? (t : Text) : Option (Opening × Text) :=
  let word := t.takeWhile fun c => c ≠ ':' && c ≠ ')'
  if Flags.isWord word then
    match t.dropWhile fun c => c ≠ ':' && c ≠ ')' with
    | ':' :: rest => some (.group word, rest)
    | ')' :: rest => if word = [] then none else some (.flags word, rest)
    | _ => none
  else none

/-- Whether a text is the name of a group. -/
def isName : Text → Bool
  | [] => false
  | c :: cs =>
    (c = '_' || isLetter c)
      && cs.all fun d => d = '_' || d = '.' || d = '[' || d = ']' || isAlphanumeric d

/-- Reads the name of a group. -/
def named? (t : Text) : Option (Opening × Text) :=
  match t.dropWhile (· ≠ '>') with
  | [] => none
  | _ :: rest =>
    let name := t.takeWhile (· ≠ '>')
    if isName name then some (.named name, rest) else none

/-- **Reads what stands behind an opening parenthesis.** -/
def read? (f : Flags) (t : Text) : Option (Opening × Text) :=
  match f.skip t with
  | '?' :: 'P' :: '<' :: cs | '?' :: '<' :: cs => named? cs
  | '?' :: cs => flags? cs
  | cs => some (.group [], cs)

end Opening

end Salutation.Log.Pattern
