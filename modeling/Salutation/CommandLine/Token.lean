import Salutation.Text.Basic

/-!
# Tokens of a command line

Each word of a command line is, by its first bytes, the separator `--`, a long option, a cluster of
letters behind one hyphen, or a plain word.  A lone hyphen is a plain word, and so is the empty one.
-/

namespace Salutation

/-- What a word of the command line is while options are recognized. -/
inductive Token where
  /-- Two hyphens alone: no word behind them is an option. -/
  | separator
  /-- Two hyphens, a name, and a value if there is an equals sign.  The name may be empty. -/
  | long (name : Bytes) (value : Option Bytes)
  /-- One hyphen and at least one more byte. -/
  | cluster (letters : Bytes)
  /-- Anything else. -/
  | word
  deriving Repr, DecidableEq

namespace Token

/-- The byte of a hyphen. -/
def hyphen : UInt8 := 0x2D

/-- The byte of an equals sign. -/
def equalsSign : UInt8 := 0x3D

/-- A long option, split at its first equals sign. -/
def ofLong (bs : Bytes) : Token :=
  match bs.dropWhile (· ≠ equalsSign) with
  | [] => .long bs none
  | _ :: value => .long (bs.takeWhile (· ≠ equalsSign)) (some value)

/-- **The token that a word is.** -/
def ofBytes : Bytes → Token
  | a :: b :: rest =>
    if a ≠ hyphen then .word
    else if b ≠ hyphen then .cluster (b :: rest)
    else if rest = [] then .separator
    else ofLong rest
  | _ => .word

end Token

end Salutation
