import Salutation.Log.Level
import Salutation.Log.Pattern
import Salutation.Text.Slice

/-!
# Directives of a log filter

A directive sets the level for some of the messages:

* `level` sets it for all;
* `target=level` sets it for the messages of a target, and `target` alone admits all of them;
* `target[span{field=value}]=level` sets it inside of a span, for messages with a field, or for a
  field with a value.  Each part may be missing.

A directive is read character by character (`advance`), without the blanks around it.  The parts are
then cut out of the directive **as it was written**, blanks included, by the offsets at which the
reader met their ends; so blanks in front shift every part to the left.  If that puts an end of a
part inside a character, there is no such part.
-/

namespace Salutation.Log

/-- What is wrong with a filter. -/
inductive FilterFault where
  /-- A directive does not read as one. -/
  | malformed
  /-- A part of a directive ends inside a character. -/
  | misaligned
  deriving Repr, DecidableEq

/-- A field that a directive asks for, and the value it must have, if one is given. -/
structure FieldMatch where
  name : Text
  value : Option Text
  deriving Repr, DecidableEq

/-- A directive. -/
structure Directive where
  target : Option Text := none
  span : Option Text := none
  fields : List FieldMatch := []
  level : Level := .trace
  deriving Repr, DecidableEq

namespace FieldMatch

/-- Reads a field: its name, and behind an equals sign its value.  What follows a second equals sign
does not count. -/
def parse (t : Text) : Except FilterFault FieldMatch :=
  match t.splitOn '=' with
  | name :: value :: _ =>
    if Pattern.isReadable value then .ok ⟨name, some value⟩ else .error .malformed
  | _ => .ok ⟨t, none⟩

end FieldMatch

namespace Directive

/-- Where the reader of a directive stands.  A part that has begun is given by its offset. -/
inductive Stage where
  /-- At the beginning. -/
  | start
  /-- In the first word, which is a target or a level. -/
  | word (start : Nat)
  /-- In the name of a span. -/
  | span (start : Nat)
  /-- In a field. -/
  | field (start : Nat)
  /-- Behind the fields. -/
  | fieldsClosed
  /-- Behind the span. -/
  | spanClosed
  /-- In the level. -/
  | level (start : Nat)
  deriving Repr, DecidableEq

/-- Whether a directive may begin with a character, other than with a bracket. -/
def beginsWord (c : Char) : Bool := c = '-' || c = ':' || c = '_' || isAlphanumeric c

/-- The part of a directive between two offsets. -/
def part (written : Text) (lo hi : Nat) : Except FilterFault Text :=
  match Text.between? written lo hi with
  | some t => .ok t
  | none => .error .misaligned

/-- The part of a directive from an offset on. -/
def remainder (written : Text) (lo : Nat) : Except FilterFault Text :=
  match Text.dropBytes? written lo with
  | some t => .ok t
  | none => .error .misaligned

/-- Reads the character at an offset. -/
def advance (written : Text) (i : Nat) (c : Char) :
    Stage × Directive → Except FilterFault (Stage × Directive)
  | (.start, d) =>
    if c = '[' then .ok (.span (i + 1), d)
    else if beginsWord c then .ok (.word i, d)
    else .error .malformed
  | (.word s, d) =>
    if c = '=' then (part written s i).map fun t => (.level (i + 1), { d with target := some t })
    else if c = '[' then
      (part written s i).map fun t => (.span (i + 1), { d with target := some t })
    else .ok (.word s, d)
  | (.span s, d) =>
    if c = ']' then (part written s i).map fun t => (.spanClosed, { d with span := some t })
    else if c = '{' then
      (part written s i).map fun t =>
        (.field (i + 1), { d with span := if t = [] then none else some t })
    else .ok (.span s, d)
  | (.field s, d) =>
    if c = '}' then do
      let t ← part written s i
      if t = [] then .error .malformed
      let f ← FieldMatch.parse t
      .ok (.fieldsClosed, { d with fields := d.fields ++ [f] })
    else .ok (.field s, d)
  | (.fieldsClosed, d) => if c = ']' then .ok (.spanClosed, d) else .error .malformed
  | (.spanClosed, d) => if c = '=' then .ok (.level (i + 1), d) else .error .malformed
  | (.level s, d) => .ok (.level s, d)

/-- Reads the characters from an offset on. -/
def scan (written : Text) : Nat → Stage × Directive → Text →
    Except FilterFault (Stage × Directive)
  | _, st, [] => .ok st
  | i, st, c :: cs =>
    match advance written i c st with
    | .ok st' => scan written (i + c.utf8Size) st' cs
    | .error e => .error e

/-- Ends the reading.  A word that has no level behind it is itself a level, if it names one, and
else a target of which everything is logged.  An empty level admits everything. -/
def finish (written : Text) : Stage × Directive → Except FilterFault Directive
  | (.word s, d) =>
    (remainder written s).map fun t =>
      match Level.ofText? t with
      | some l => { d with level := l, target := none }
      | none => { d with level := .trace, target := some t }
  | (.level s, d) => do
    let t ← remainder written s
    if t = [] then .ok { d with level := .trace }
    else
      match Level.ofText? t with
      | some l => .ok { d with level := l }
      | none => .error .malformed
  | (.spanClosed, d) => .ok d
  | _ => .error .malformed

/-- A text without the blanks around it. -/
def trim (t : Text) : Text :=
  ((t.dropWhile isBlank).reverse.dropWhile isBlank).reverse

/-- **Reads a directive.** -/
def parse (written : Text) : Except FilterFault Directive :=
  match scan written 0 (.start, {}) (trim written) with
  | .ok st => finish written st
  | .error e => .error e

/-- Whether a directive depends on the span a message is in, or on its fields. -/
def isDynamic (d : Directive) : Bool := d.span.isSome || !d.fields.isEmpty

end Directive

end Salutation.Log
