import Salutation.Text.Utf8

/-!
# Terminal control sequences

A terminal reads a text character by character and takes some of it as **control sequences**: an
escape and a letter, a control sequence proper (`ESC [`, parameters, a final letter), a device
control string (`ESC P`), an operating system command (`ESC ]`) or another string that a string
terminator ends.  This module follows a terminal's reading with one state and one step
(`State.next`), and says which characters a terminal in a given state would show (`State.shows`).

* `strip` keeps the characters that are shown.  A break that turns up inside an unfinished sequence
  is shown and ends the sequence.
* `filter` is what an output stream without colours lets through.  It differs from `strip` in one
  point: after a break inside an unfinished sequence, the sequence is taken up again at the next
  character that is not shown.

Both read arbitrary text, so an unfinished sequence at the end of one part swallows the beginning of
the next.
-/

namespace Salutation.Terminal

/-- How far a terminal has read into a control sequence. -/
inductive State where
  /-- Outside of any sequence. -/
  | ground
  /-- Behind an escape. -/
  | escape
  /-- Behind an escape and intermediate characters. -/
  | escapeIntermediate
  /-- At the start of a control sequence. -/
  | csiEntry
  /-- Among the parameters of a control sequence. -/
  | csiParameter
  /-- Among the intermediate characters of a control sequence. -/
  | csiIntermediate
  /-- In a malformed control sequence. -/
  | csiIgnore
  /-- At the start of a device control string. -/
  | dcsEntry
  /-- Among the parameters of a device control string. -/
  | dcsParameter
  /-- Among the intermediate characters of a device control string. -/
  | dcsIntermediate
  /-- In a malformed device control string. -/
  | dcsIgnore
  /-- In the data of a device control string. -/
  | dcsData
  /-- In an operating system command. -/
  | osCommand
  /-- In a string of no effect. -/
  | string
  deriving Repr, DecidableEq

/-- The escape character, which begins every sequence. -/
def escapeChar : Char := '\x1b'

/-- The control characters that are shown: tab, line feed, form feed and carriage return. -/
def isBreak (c : Char) : Bool := c = '\t' || c = '\n' || c = '\x0c' || c = '\r'

/-- Whether a character ends a string.  A terminal reads bytes and takes the byte `9C` for a string
terminator, also where it is a continuation byte of a longer character. -/
def endsString (c : Char) : Bool :=
  0x80 ≤ c.toNat && (String.utf8EncodeChar c).contains 0x9C

/-- Whether a character has its code in a range. -/
def inRange (lo hi : Nat) (c : Char) : Bool := lo ≤ c.toNat && c.toNat ≤ hi

/-- The state behind an escape and one more character. -/
def State.afterEscape (c : Char) : State :=
  if inRange 0x20 0x2F c then .escapeIntermediate
  else if c = '[' then .csiEntry
  else if c = ']' then .osCommand
  else if c = 'P' then .dcsEntry
  else if c = 'X' || c = '^' || c = '_' then .string
  else if inRange 0x30 0x7E c then .ground
  else .escape

/-- **One step of a terminal**: the state behind a character.  Cancel and substitute end any
sequence and an escape begins a new one, whatever the state. -/
def State.next (s : State) (c : Char) : State :=
  if c = '\x18' || c = '\x1a' then .ground
  else if c = escapeChar then .escape
  else
    match s with
    | .ground => .ground
    | .escape => .afterEscape c
    | .escapeIntermediate => if inRange 0x30 0x7E c then .ground else .escapeIntermediate
    | .csiEntry =>
      if inRange 0x20 0x2F c then .csiIntermediate
      else if inRange 0x30 0x3F c then .csiParameter
      else if inRange 0x40 0x7E c then .ground
      else .csiEntry
    | .csiParameter =>
      if inRange 0x20 0x2F c then .csiIntermediate
      else if inRange 0x3C 0x3F c then .csiIgnore
      else if inRange 0x40 0x7E c then .ground
      else .csiParameter
    | .csiIntermediate =>
      if inRange 0x30 0x3F c then .csiIgnore
      else if inRange 0x40 0x7E c then .ground
      else .csiIntermediate
    | .csiIgnore => if inRange 0x40 0x7E c then .ground else .csiIgnore
    | .dcsEntry =>
      if inRange 0x20 0x2F c then .dcsIntermediate
      else if inRange 0x30 0x3F c then .dcsParameter
      else if inRange 0x40 0x7E c then .dcsData
      else .dcsEntry
    | .dcsParameter =>
      if inRange 0x20 0x2F c then .dcsIntermediate
      else if inRange 0x3C 0x3F c then .dcsIgnore
      else if inRange 0x40 0x7E c then .dcsData
      else .dcsParameter
    | .dcsIntermediate =>
      if inRange 0x30 0x3F c then .dcsIgnore
      else if inRange 0x40 0x7E c then .dcsData
      else .dcsIntermediate
    | .dcsIgnore => if endsString c then .ground else .dcsIgnore
    | .dcsData => if endsString c then .ground else .dcsData
    | .osCommand => if c = '\x07' then .ground else .osCommand
    | .string => if endsString c then .ground else .string

/-- Whether a terminal shows a character, given the state before it.  Outside of sequences that is
everything but the other control characters; inside a sequence of letters it is the breaks, and
inside a string nothing. -/
def State.shows (s : State) (c : Char) : Bool :=
  match s with
  | .ground => isBreak c || (0x20 ≤ c.toNat && c.toNat ≠ 0x7F)
  | .escape | .escapeIntermediate | .csiEntry | .csiParameter | .csiIntermediate | .csiIgnore =>
    isBreak c
  | .dcsEntry | .dcsParameter | .dcsIntermediate | .dcsIgnore | .dcsData | .osCommand | .string =>
    false

/-! ### Removing sequences from a text -/

/-- What is shown of a text, read in a given state.  A shown character ends any sequence. -/
def stripFrom : State → Text → Text
  | _, [] => []
  | s, c :: cs => if s.shows c then c :: stripFrom .ground cs else stripFrom (s.next c) cs

/-- **A text without its control sequences** and without control characters, breaks excepted. -/
def strip (t : Text) : Text := stripFrom .ground t

/-- What a stream without colours lets through of a text.  `showing` tells that the character before
was let through; then the next one is judged as if outside of sequences, while `s` keeps the
sequence that a break interrupted.  A character beyond ASCII ends it. -/
def filterFrom : State → Bool → Text → Text
  | _, _, [] => []
  | s, showing, c :: cs =>
    if (if showing then State.ground else s).shows c then
      c :: filterFrom (if c.toNat < 0x80 then s else .ground) true cs
    else filterFrom (s.next c) false cs

/-- **A text as a stream without colours writes it.** -/
def filter (t : Text) : Text := filterFrom .ground false t

end Salutation.Terminal
