import Salutation.Text.Basic

/-!
# Log levels

A level says how much is logged: nothing, or the messages up to a certain weight.  In a filter a
level is written by its name in any letter case, or by a number from zero to five.
-/

namespace Salutation.Log

/-- How much is logged. -/
inductive Level where
  | off
  | error
  | warn
  | info
  | debug
  | trace
  deriving Repr, DecidableEq

namespace Level

/-- The levels by their numbers. -/
def all : List Level := [.off, .error, .warn, .info, .debug, .trace]

/-- The name of a level, in lower case. -/
def name : Level → Text
  | .off => "off".toList
  | .error => "error".toList
  | .warn => "warn".toList
  | .info => "info".toList
  | .debug => "debug".toList
  | .trace => "trace".toList

/-- The number of a level. -/
def rank : Level → Nat
  | .off => 0
  | .error => 1
  | .warn => 2
  | .info => 3
  | .debug => 4
  | .trace => 5

/-- Whether a level lets messages of another level pass. -/
def admits (limit message : Level) : Bool := message.rank ≤ limit.rank

/-- The level with a given name.  The empty name is that of `error`. -/
def ofName? (t : Text) : Option Level :=
  if t = [] then some .error else all.find? (·.name = t.map Char.toLower)

/-- A number written with decimal digits, with a plus sign in front or not. -/
def numeral? (t : Text) : Option Nat :=
  let digits := if t.head? = some '+' then t.tail else t
  if digits ≠ [] && digits.all Char.isDigit then some (Nat.ofDigitChars 10 digits 0) else none

/-- **The level that a word of a filter names**, by number or by name. -/
def ofText? (t : Text) : Option Level :=
  match (numeral? t).bind (all[·]?) with
  | some l => some l
  | none => ofName? t

end Level

end Salutation.Log
