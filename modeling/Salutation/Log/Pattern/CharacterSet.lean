import Salutation.Log.Pattern.Element

/-!
# Sets of characters in a pattern

A set stands between brackets.  It lists characters, ranges and other sets, with names for some sets
of ASCII, and may be combined with further lists by operators, which are read from the left.  A
circumflex behind the opening bracket turns it into its complement; hyphens come next if they are
members, and a closing bracket there is a member too.

Of a set that was read only its height is kept.  The parts of a pattern stand in rows: items one
after the other, alternatives, members of a set.  A part that holds others is one higher than what
it holds.  A row counts as a part of its own where it has more than one member, so a single item in
parentheses is one higher than the item, and several are two.
-/

namespace Salutation.Log.Pattern

/-- The height of a row of parts with these heights. -/
def rowHeight : List Nat → Nat
  | [] => 0
  | [h] => h
  | hs => 1 + hs.foldr max 0

/-! ### Members -/

/-- The names of sets of ASCII characters. -/
def setNames : List Text :=
  ["alnum".toList, "alpha".toList, "ascii".toList, "blank".toList, "cntrl".toList, "digit".toList,
    "graph".toList, "lower".toList, "print".toList, "punct".toList, "space".toList, "upper".toList,
    "word".toList, "xdigit".toList]

/-- Reads a named set, of which the bracket was read: the name stands between colons.  The result
tells whether the complement is meant. -/
def namedSet? : Text → Option (Bool × Text)
  | ':' :: cs =>
    let complement := decide (cs.head? = some '^')
    let named := if complement then cs.tail else cs
    match named.dropWhile (· ≠ ':') with
    | ':' :: ']' :: rest =>
      if setNames.contains (named.takeWhile (· ≠ ':')) then some (complement, rest) else none
    | _ => none
  | _ => none

/-- Whether a named set may stand in a pattern. -/
def Flags.admitsNamed (f : Flags) (complement : Bool) : Bool :=
  !f.needsFolding && (!complement || f.admitsComplement)

/-- Reads one member of a set. -/
def member? (f : Flags) : Text → Option (Element × Text)
  | [] => none
  | '\\' :: cs => Element.escaped? f cs
  | c :: cs => some (.character c, cs)

/-- **Reads a member or a range.**  The ends of a range are characters, in order.  A hyphen in front
of a closing bracket or of another hyphen makes no range. -/
def range? (f : Flags) (t : Text) : Option Text :=
  match member? f t with
  | none => none
  | some (low, rest) =>
    if f.admitsMember low then
      match f.skip rest with
      | '-' :: cs =>
        let next := f.lookAhead? cs
        if next = some ']' || next = some '-' then some ('-' :: cs)
        else
          match member? f (f.skip cs) with
          | none => none
          | some (high, behind) =>
            if f.admitsMember high && low.spans high then some behind else none
      | behind => some behind
    else none

/-! ### Whole sets -/

/-- A set of which the closing bracket was not read yet, by the heights of its parts. -/
structure OpenSet where
  /-- What stands left of the last operator, if there is one. -/
  left : Option Nat := none
  /-- The members behind it. -/
  members : List Nat := []
  deriving Repr, DecidableEq

namespace OpenSet

/-- The height of what stands between the brackets. -/
def height (s : OpenSet) : Nat :=
  match s.left with
  | none => rowHeight s.members
  | some l => 1 + max l (rowHeight s.members)

/-- The set with one more member. -/
def add (s : OpenSet) (h : Nat) : OpenSet := { s with members := h :: s.members }

/-- The set behind an operator. -/
def operator (s : OpenSet) : OpenSet := { left := some s.height }

end OpenSet

/-- Reads hyphens into a set. -/
def hyphens (f : Flags) : Nat → OpenSet → Text → OpenSet × Text
  | fuel + 1, s, '-' :: cs => hyphens f fuel (s.add 0) (f.skip cs)
  | _, s, t => (s, t)

/-- Reads what may only stand behind the opening bracket. -/
def openSet? (f : Flags) (t : Text) : Option (OpenSet × Text) :=
  let inside := f.skip t
  let complement := decide (inside.head? = some '^')
  let members := if complement then f.skip inside.tail else inside
  if complement && !f.admitsComplement then none
  else
    match members with
    | '-' :: _ =>
      if f.admitsMember (.character '-') then some (hyphens f members.length {} members) else none
    | ']' :: cs =>
      if f.admitsMember (.character ']') then some (OpenSet.add {} 0, cs) else none
    | _ => some ({}, members)

/-- Reads the rest of a set, given the sets around it, the innermost first. -/
def closeSet? (f : Flags) : Nat → OpenSet → List OpenSet → Text → Option (Nat × Text)
  | 0, _, _, _ => none
  | fuel + 1, s, around, t =>
    match f.skip t with
    | [] => none
    | '[' :: cs =>
      match namedSet? cs with
      | some (complement, rest) =>
        if f.admitsNamed complement then closeSet? f fuel (s.add 0) around rest else none
      | none =>
        match openSet? f cs with
        | some (inner, rest) => closeSet? f fuel inner (s :: around) rest
        | none => none
    | ']' :: cs =>
      match around with
      | [] => some (1 + s.height, cs)
      | outer :: rest => closeSet? f fuel (outer.add (1 + s.height)) rest cs
    | '&' :: '&' :: cs | '-' :: '-' :: cs | '~' :: '~' :: cs =>
      closeSet? f fuel s.operator around cs
    | cs =>
      match range? f cs with
      | some rest => closeSet? f fuel (s.add 0) around rest
      | none => none

/-- **Reads a set** of which the opening bracket was read.  The result begins with its height. -/
def set? (f : Flags) (t : Text) : Option (Nat × Text) :=
  match openSet? f t with
  | some (s, rest) => closeSet? f (t.length + 1) s [] rest
  | none => none

end Salutation.Log.Pattern
