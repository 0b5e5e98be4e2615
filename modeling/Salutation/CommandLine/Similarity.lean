import Salutation.CommandLine.Flag

/-!
# Flags that were meant

An option that is not known may be a misspelt flag.  Two words are compared by their characters in
common: a character of one is **paired** with an equal, unpaired one of the other if the two stand
within a window of each other's place.  The likeness of the words is the mean of three shares: of
the first word that is paired, of the second word that is paired, and of the pairs that come in the
same order.  A flag is proposed if its likeness is above seven tenths; of two, the one with the
greater likeness, and of two alike, the one listed later.

The shares are floating-point numbers, so that a tie or a likeness of exactly seven tenths is
decided by their rounding, in the order of operations given here.
-/

namespace Salutation.Similarity

/-- Pairs a character with the first equal one that stands at a place between `lo` and `hi` and is
not paired yet, where the list begins at place `j`.  The result is the list with that one marked. -/
def pair? (c : Char) (lo hi : Nat) : Nat → List (Char × Bool) → Option (List (Char × Bool))
  | _, [] => none
  | j, (d, paired) :: ds =>
    if lo ≤ j ∧ j < hi ∧ c = d ∧ paired = false then some ((d, true) :: ds)
    else (pair? c lo hi (j + 1) ds).map ((d, paired) :: ·)

/-- Pairs the characters of a word, which begins at place `i`, one after the other.  The result is
the characters that found a partner, and the other word with the partners marked. -/
def pairAll (window : Nat) : Nat → Text → List (Char × Bool) → Text × List (Char × Bool)
  | _, [], other => ([], other)
  | i, c :: cs, other =>
    match pair? c (i - window) (i + window + 1) 0 other with
    | some other' =>
      let rest := pairAll window (i + 1) cs other'
      (c :: rest.1, rest.2)
    | none => pairAll window (i + 1) cs other

/-- Half the number of places at which two words of one length differ. -/
def transpositions (a b : Text) : Nat := ((a.zip b).countP fun p => p.1 ≠ p.2) / 2

/-- **The likeness of two words**, between zero and one. -/
def likeness (a b : Text) : Float :=
  if a = [] ∧ b = [] then 1.0
  else if a = [] ∨ b = [] then 0.0
  else
    let window := max a.length b.length / 2 - 1
    let paired := pairAll window 0 a (b.map fun c => (c, false))
    let pairs := paired.1.length
    if pairs = 0 then 0.0
    else
      let moved := transpositions paired.1 ((paired.2.filter (·.2)).map (·.1))
      (pairs.toFloat / a.length.toFloat + pairs.toFloat / b.length.toFloat
        + (pairs - moved).toFloat / pairs.toFloat) / 3.0

/-- The likeness above which a flag is proposed. -/
def threshold : Float := 0.7

/-- Keeps the flag with the greater likeness; of two alike, the later one. -/
def closer (best : Option (Flag × Float)) (f : Flag) (l : Float) : Option (Flag × Float) :=
  match best with
  | none => some (f, l)
  | some (g, k) => if l < k then some (g, k) else some (f, l)

/-- **The flag that a misspelt name is most like**, if it is like one at all. -/
def suggest? (name : Text) : Option Flag :=
  (Flag.all.foldl (fun best f =>
    let l := likeness name f.longName
    if threshold < l then closer best f l else best) none).map (·.1)

end Salutation.Similarity
