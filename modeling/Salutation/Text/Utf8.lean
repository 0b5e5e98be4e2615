import Salutation.Text.Basic

/-!
# Reading bytes as text

A byte string is cut from left to right into **segments**: each is either the well-formed encoding
of one character, or an ill-formed piece.  An ill-formed piece is as long as it can be while it
still is the beginning of some well-formed encoding, and a single byte where no encoding begins that
way.  The lossy reading of a byte string keeps the characters and puts one U+FFFD for every
ill-formed piece.

Which bytes may follow which is a table (`followers`): after most leading bytes any continuation
byte may come, and after `E0`, `ED`, `F0` and `F4` the second byte is restricted, which rules out
overlong forms, surrogates and numbers above U+10FFFF.  The reader itself is one step on a byte
(`advance`), iterated over the input.
-/

namespace Salutation.Utf8

/-! ### What may follow a leading byte -/

/-- An inclusive range of bytes. -/
structure ByteRange where
  lo : UInt8
  hi : UInt8
  deriving Repr, DecidableEq

/-- Whether a byte lies in a range. -/
def ByteRange.contains (r : ByteRange) (b : UInt8) : Bool :=
  r.lo ≤ b && b ≤ r.hi

/-- The continuation bytes. -/
def continuation : ByteRange := ⟨0x80, 0xBF⟩

/-- The ranges of the bytes that have to follow a leading byte, in order.  A byte that leads no
encoding has none; a byte that is an encoding by itself is followed by nothing. -/
def followers (lead : UInt8) : Option (List ByteRange) :=
  if lead ≤ 0x7F then some []
  else if lead < 0xC2 then none
  else if lead ≤ 0xDF then some [continuation]
  else if lead = 0xE0 then some [⟨0xA0, 0xBF⟩, continuation]
  else if lead = 0xED then some [⟨0x80, 0x9F⟩, continuation]
  else if lead ≤ 0xEF then some [continuation, continuation]
  else if lead = 0xF0 then some [⟨0x90, 0xBF⟩, continuation, continuation]
  else if lead ≤ 0xF3 then some [continuation, continuation, continuation]
  else if lead = 0xF4 then some [⟨0x80, 0x8F⟩, continuation, continuation]
  else none

/-! ### Segments -/

/-- A piece of a byte string, as the reader cuts it. -/
inductive Segment where
  /-- The well-formed encoding of a character. -/
  | scalar (c : Char)
  /-- A piece that is not, and the bytes of it. -/
  | illFormed (bytes : Bytes)
  deriving Repr, DecidableEq

/-- The number that a leading byte and its continuation bytes stand for: the low bits of each, the
leading byte giving fewer the longer the encoding is. -/
def scalarValue : Bytes → Nat
  | [a] => a.toNat
  | [a, b] => a.toNat % 32 * 64 + b.toNat % 64
  | [a, b, c] => a.toNat % 16 * 4096 + b.toNat % 64 * 64 + c.toNat % 64
  | [a, b, c, d] =>
    a.toNat % 8 * 262144 + b.toNat % 64 * 4096 + c.toNat % 64 * 64 + d.toNat % 64
  | _ => 0

/-- A character that has begun and is not complete: the bytes read so far, the range for the next
byte, and the ranges for those after it. -/
structure Pending where
  seen : Bytes
  next : ByteRange
  later : List ByteRange
  deriving Repr, DecidableEq

/-- Reads a byte at the start of a character.  The result is the segments that are complete, and the
character that is pending after them. -/
def begin (b : UInt8) : List Segment × Option Pending :=
  match followers b with
  | none => ([.illFormed [b]], none)
  | some [] => ([.scalar (Char.ofNat (scalarValue [b]))], none)
  | some (r :: rs) => ([], some ⟨[b], r, rs⟩)

/-- Reads one byte.  A byte in the expected range continues the pending character; any other byte
shows that the bytes seen so far are ill-formed, and is itself read as the start of a character. -/
def advance : Option Pending → UInt8 → List Segment × Option Pending
  | none, b => begin b
  | some p, b =>
    if p.next.contains b then
      match p.later with
      | [] => ([.scalar (Char.ofNat (scalarValue (p.seen ++ [b])))], none)
      | r :: rs => ([], some ⟨p.seen ++ [b], r, rs⟩)
    else (.illFormed p.seen :: (begin b).1, (begin b).2)

/-- The segments of the bytes to come, given the character that is pending before them.  At the end
of the input a pending character is ill-formed. -/
def segmentsFrom : Option Pending → Bytes → List Segment
  | none, [] => []
  | some p, [] => [.illFormed p.seen]
  | p, b :: bs => (advance p b).1 ++ segmentsFrom (advance p b).2 bs

/-- The segments of a byte string. -/
def segments (bs : Bytes) : List Segment := segmentsFrom none bs

/-! ### Readings of a byte string -/

/-- What stands for an ill-formed piece in a text. -/
def replacement : Char := '\uFFFD'

/-- The character that a segment contributes to the lossy reading. -/
def Segment.toChar : Segment → Char
  | .scalar c => c
  | .illFormed _ => replacement

/-- Whether a segment is the encoding of a character. -/
def Segment.isScalar : Segment → Bool
  | .scalar _ => true
  | .illFormed _ => false

/-- **The lossy reading** of a byte string: its characters, and U+FFFD for each ill-formed piece. -/
def decodeLossy (bs : Bytes) : Text := (segments bs).map Segment.toChar

/-- Whether a byte string is the encoding of a text. -/
def isValid (bs : Bytes) : Bool := (segments bs).all Segment.isScalar

/-- The text that a byte string encodes, if it encodes one. -/
def decode? (bs : Bytes) : Option Text :=
  if isValid bs then some (decodeLossy bs) else none

/-- The encoding of a text. -/
def encode (t : Text) : Bytes := t.flatMap String.utf8EncodeChar

/-- The number of bytes that a text takes when it is encoded. -/
def size : Text → Nat
  | [] => 0
  | c :: cs => c.utf8Size + size cs

end Salutation.Utf8
