import Salutation.Output.OutputError

/-!
# Writing to a stream that may refuse

A stream is known by its replies.  The first call to it is answered by the first reply of a script,
the next call by the next, and when the script is used up every call is answered by taking all bytes
offered.  A reply may take some of the bytes, take none, or be an error.

`writeAll` offers what is left of a byte string until the stream has taken all of it.  An
interruption is not heeded; any other error ends the writing, and so does a reply that takes
nothing.  Since every call either uses up a reply or takes all that is left, the writing ends.
-/

namespace Salutation

/-- The answer of a stream to one call. -/
inductive Reply where
  /-- Takes so many of the bytes offered, or all if there are fewer. -/
  | accept (count : Nat)
  /-- Takes none and answers with an error. -/
  | fail (error : OutputError)
  deriving Repr, DecidableEq

/-- A stream: its answers to the calls that write, and its answer to a call that flushes. -/
structure Script where
  replies : List Reply := []
  flush : Option OutputError := none
  deriving Repr, DecidableEq

/-- What came of a writing. -/
structure Progress where
  /-- The bytes that the stream took. -/
  taken : Bytes
  /-- How often the stream was called. -/
  calls : Nat
  /-- The replies that are left. -/
  replies : List Reply
  /-- The error that ended the writing, if one did. -/
  failure : Option OutputError
  deriving Repr, DecidableEq

namespace Progress

/-- One more call in front, which took some bytes. -/
def afterCall (bs : Bytes) (p : Progress) : Progress :=
  { p with taken := bs ++ p.taken, calls := p.calls + 1 }

end Progress

namespace Writer

/-- **Writes all of a byte string** to a stream with the given replies. -/
def writeAll : List Reply → Bytes → Progress
  | replies, [] => ⟨[], 0, replies, none⟩
  | [], bs => ⟨bs, 1, [], none⟩
  | .accept 0 :: rs, _ => ⟨[], 1, rs, some .nothingTaken⟩
  | .accept (n + 1) :: rs, bs => (writeAll rs (bs.drop (n + 1))).afterCall (bs.take (n + 1))
  | .fail e :: rs, bs =>
    if e.isInterruption then (writeAll rs bs).afterCall [] else ⟨[], 1, rs, some e⟩

/-- Writes byte strings one after the other, up to the first that fails. -/
def writeParts : List Reply → List Bytes → Progress
  | replies, [] => ⟨[], 0, replies, none⟩
  | replies, part :: parts =>
    let p := writeAll replies part
    match p.failure with
    | some _ => p
    | none =>
      let q := writeParts p.replies parts
      { q with taken := p.taken ++ q.taken, calls := p.calls + q.calls }

end Writer

end Salutation
