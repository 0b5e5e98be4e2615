import Salutation.Log.Pattern.CharacterSet

/-!
# Patterns for the values of fields

A directive of a log filter may ask for a field with a value.  The value is a truth value, a number
or a pattern.  The program logs no message inside a span, so no such directive ever applies to one;
but a value that is none of the three makes the whole filter unreadable, and that is what this
module decides.

A pattern is a regular expression with alternatives, repetition, groups and sets.  It is read from
left to right, one item at a time (`State.step?`), with the groups that are open on a stack.  Of
what was read only the heights of the parts are kept, since no pattern may be higher than a fixed
limit.  Flags hold up to the end of the group in
which they are set, through its alternatives too.
-/

namespace Salutation.Log.Pattern

/-- The height that no pattern may exceed. -/
def heightLimit : Nat := 250

/-! ### Rows of items -/

/-- A part of a row. -/
inductive Part where
  /-- A change of flags. -/
  | flags
  /-- An item of a given height, which can be repeated. -/
  | item (height : Nat)
  deriving Repr, DecidableEq

/-- The height of a part. -/
def Part.height : Part → Nat
  | .flags => 0
  | .item h => h

/-- What was read of a group, or of the whole pattern. -/
structure Level where
  /-- The parts of the alternative that is being read, the last one first. -/
  row : List Part := []
  /-- The heights of the alternatives before it. -/
  alternatives : List Nat := []
  deriving Repr, DecidableEq

namespace Level

/-- The level with one more part. -/
def add (l : Level) (p : Part) : Level := { l with row := p :: l.row }

/-- The height of the alternative that is being read. -/
def rowsHeight (l : Level) : Nat := rowHeight (l.row.map Part.height)

/-- The height of all that was read. -/
def height (l : Level) : Nat := rowHeight (l.rowsHeight :: l.alternatives)

/-- The level where another alternative begins. -/
def alternate (l : Level) : Level := ⟨[], l.rowsHeight :: l.alternatives⟩

/-- The level with its last part repeated, if that is an item. -/
def repeat? (l : Level) : Option Level :=
  match l.row with
  | .item h :: ps => some { l with row := .item (h + 1) :: ps }
  | _ => none

end Level

/-! ### Patterns -/

/-- How far the reader of a pattern is. -/
structure State where
  /-- The flags that hold here. -/
  flags : Flags := {}
  /-- What was read of the innermost open group. -/
  level : Level := {}
  /-- What was read of those around it, with the flags that hold behind it. -/
  around : List (Flags × Level) := []
  /-- The names of groups so far. -/
  names : List Text := []
  deriving Repr, DecidableEq

namespace State

/-- Behind an item. -/
def item (s : State) (height : Nat) : State := { s with level := s.level.add (.item height) }

/-- Behind an item without parts, if it may stand here. -/
def leaf? (s : State) (admitted : Bool) : Option State :=
  if admitted then some (s.item 0) else none

/-- Inside a group that begins with a word of flags. -/
def enter (s : State) (word : Text) : State :=
  { s with
    flags := s.flags.set word
    level := {}
    around := (s.flags, s.level) :: s.around }

/-- Behind an opening parenthesis. -/
def opened? (s : State) : Opening → Option State
  | .flags word => some { s with flags := s.flags.set word, level := s.level.add .flags }
  | .group word => some (s.enter word)
  | .named name =>
    if s.names.contains name then none else some { s.enter [] with names := name :: s.names }

/-- Behind a closing parenthesis, if a group is open. -/
def closed? (s : State) : Option State :=
  match s.around with
  | [] => none
  | (flags, outer) :: rest =>
    some { s with
      flags := flags
      level := outer.add (.item (1 + s.level.height))
      around := rest }

/-- **Reads an item that begins with a character.**  There is no repetition by a count: a brace
would close the directive. -/
def step? (s : State) (c : Char) (rest : Text) : Option (State × Text) :=
  match c with
  | '(' => (Opening.read? s.flags rest).bind fun (o, behind) => (s.opened? o).map (·, behind)
  | ')' => s.closed?.map (·, rest)
  | '|' => some ({ s with level := s.level.alternate }, rest)
  | '[' => (set? s.flags rest).map fun (height, behind) => (s.item height, behind)
  | '?' | '*' | '+' =>
    s.level.repeat?.map fun l =>
      ({ s with level := l }, if rest.head? = some '?' then rest.tail else rest)
  | '\x7b' => none
  | '\\' =>
    (Element.escaped? s.flags rest).bind fun (e, behind) =>
      (s.leaf? (s.flags.admits e)).map (·, behind)
  | '.' => (s.leaf? s.flags.admitsAny).map (·, rest)
  | '^' | '$' => (s.leaf? (s.flags.admits .place)).map (·, rest)
  | _ => (s.leaf? (s.flags.admits (.character c))).map (·, rest)

/-- Whether a pattern may end here: no group is open, and it is not nested too deeply. -/
def isComplete (s : State) : Bool := s.around.isEmpty && s.level.height ≤ heightLimit

/-- Reads a pattern to its end. -/
def completes : Nat → State → Text → Bool
  | 0, _, _ => false
  | fuel + 1, s, t =>
    match s.flags.skip t with
    | [] => s.isComplete
    | c :: cs =>
      match s.step? c cs with
      | none => false
      | some (s', rest) => completes fuel s' rest

end State

/-- Whether a text is a regular expression. -/
def isRegular (t : Text) : Bool := State.completes (t.length + 1) {} t

/-! ### Numbers -/

/-- Whether a text is an exponent or empty. -/
def isExponent : Text → Bool
  | [] => true
  | e :: cs =>
    let digits := if cs.head? = some '+' || cs.head? = some '-' then cs.tail else cs
    e.toLower = 'e' && digits ≠ [] && digits.all Char.isDigit

/-- Whether a text is a number without a sign: digits, with a point among them or not, and an
exponent; or a word for what is no finite number. -/
def isNumber (t : Text) : Bool :=
  let whole := t.takeWhile Char.isDigit
  let rest := t.dropWhile Char.isDigit
  let fraction := if rest.head? = some '.' then rest.tail.takeWhile Char.isDigit else []
  let behind := if rest.head? = some '.' then rest.tail.dropWhile Char.isDigit else rest
  ((whole ≠ [] || fraction ≠ []) && isExponent behind)
    || ["inf".toList, "infinity".toList, "nan".toList].contains (t.map Char.toLower)

/-- **Whether a value can be read.**  A truth value is a regular expression as well, and so is a
number without a plus sign in front. -/
def isReadable (t : Text) : Bool := isRegular t || (t.head? = some '+' && isNumber t.tail)

end Salutation.Log.Pattern
