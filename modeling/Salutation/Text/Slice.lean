import Salutation.Text.Utf8

/-!
# Parts of a text by byte offset

A part of a text may be given by the offsets of its ends in the encoding.  An offset that falls
inside the encoding of a character gives no part.
-/

namespace Salutation.Text

/-- What is left of a text behind its first `n` bytes, if they end with a character. -/
def dropBytes? : Text → Nat → Option Text
  | t, 0 => some t
  | [], _ + 1 => none
  | c :: cs, n + 1 => if c.utf8Size ≤ n + 1 then dropBytes? cs (n + 1 - c.utf8Size) else none

/-- The first `n` bytes of a text, if they end with a character. -/
def takeBytes? : Text → Nat → Option Text
  | _, 0 => some []
  | [], _ + 1 => none
  | c :: cs, n + 1 =>
    if c.utf8Size ≤ n + 1 then (takeBytes? cs (n + 1 - c.utf8Size)).map (c :: ·) else none

/-- **The part of a text between two byte offsets**, if neither falls inside a character. -/
def between? (t : Text) (lo hi : Nat) : Option Text :=
  (dropBytes? t lo).bind (takeBytes? · (hi - lo))

end Salutation.Text
