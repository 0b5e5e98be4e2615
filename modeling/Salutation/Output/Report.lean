import Salutation.Output.OutputError

/-!
# The report of a failed delivery

When the greeting cannot be written, the report says so and gives the output error as its cause.  It
comes on one line, the two texts joined by a colon, and as a block, the cause below a heading with
every line of it indented by four spaces.  Nothing of the cause is lost in either.

The lines are indented by a writer that is given the cause in fragments.  A fragment may end in the
middle of a line, and the next one goes on there.
-/

namespace Salutation.Report

/-- What failed. -/
def headline : Text := "failed to write greeting to standard output".toList

/-- The texts of a report, each the reason of the one before. -/
def chain (cause : OutputError) : List Text := [headline, cause.text]

/-- The report on one line. -/
def oneLine (cause : OutputError) : Text := [':', ' '].intercalate (chain cause)

/-- The indentation of a cause. -/
def indentation : Text := List.replicate 4 ' '

/-- A writer that indents lines: what it has written, and whether that is anything. -/
structure Indenter where
  started : Bool := false
  written : Text := []
  deriving Repr, DecidableEq

namespace Indenter

/-- Writes a piece of a fragment, with `i` line breaks of the fragment in front of it.  The
indentation comes first of all, and behind every line break. -/
def writePiece (w : Indenter) (piece : Text) (i : Nat) : Indenter :=
  if !w.started then ⟨true, w.written ++ indentation ++ piece⟩
  else if 0 < i then ⟨true, w.written ++ '\n' :: indentation ++ piece⟩
  else ⟨true, w.written ++ piece⟩

/-- Writes a fragment, from one line break to the next. -/
def write (w : Indenter) (fragment : Text) : Indenter :=
  (fragment.splitOn '\n').zipIdx.foldl (fun w p => w.writePiece p.1 p.2) w

end Indenter

/-- What is written for a text that comes in fragments. -/
def indented (fragments : List Text) : Text := (fragments.foldl Indenter.write {}).written

/-- **The report as a block.** -/
def block (cause : OutputError) : Text :=
  headline ++ "\n\nCaused by:\n".toList ++ indented cause.fragments

/-- The failure, rendered for inspection. -/
def render (cause : OutputError) : Text := Structured.variant "Output".toList cause.render

end Salutation.Report
