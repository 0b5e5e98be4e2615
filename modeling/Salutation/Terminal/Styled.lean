import Salutation.Terminal.Sequence

/-!
# Styled text

A styled text is a list of spans, each a text with a style.  It can be written with colours, each
span between the sequences that turn its style on and off, or bare, the texts of the spans alone.

The **plain** writing of a styled text is the coloured one with the control sequences stripped.  It
is not the bare one: a span may hold text from outside, with sequences of its own, and those are
stripped too.
-/

namespace Salutation.Terminal

/-- A style: the numbers of the renditions that make it up, in the order they are turned on. -/
structure Style where
  renditions : List Nat
  deriving Repr, DecidableEq

namespace Style

/-- Text as it comes. -/
def normal : Style := ⟨[]⟩
/-- The names of options and of the program. -/
def literal : Style := ⟨[1]⟩
/-- The headings of a help text. -/
def heading : Style := ⟨[1, 4]⟩
/-- The word that opens an error message. -/
def fault : Style := ⟨[1, 31]⟩
/-- The input that a message objects to. -/
def invalid : Style := ⟨[33]⟩
/-- What a message proposes instead. -/
def valid : Style := ⟨[32]⟩
/-- Marginal matter of a log line. -/
def dim : Style := ⟨[2]⟩
/-- The name of a field in a log line. -/
def italic : Style := ⟨[3]⟩
/-- The level of a debugging message. -/
def blue : Style := ⟨[34]⟩

end Style

/-- The sequence that turns a rendition on; number zero turns all of them off. -/
def rendition (n : Nat) : Text := [escapeChar, '['] ++ Nat.toDigits 10 n ++ ['m']

/-- A piece of text in one style. -/
structure Span where
  style : Style
  text : Text
  deriving Repr, DecidableEq

/-- A span with its style turned on before and off behind it.  Normal text needs neither. -/
def Span.coloured (s : Span) : Text :=
  if s.style = .normal then s.text
  else s.style.renditions.flatMap rendition ++ s.text ++ rendition 0

/-- A styled text. -/
abbrev Styled := List Span

namespace Styled

/-- A styled text as a terminal with colours gets it. -/
def coloured (t : Styled) : Text := t.flatMap Span.coloured

/-- The texts of the spans, without styles. -/
def bare (t : Styled) : Text := t.flatMap Span.text

/-- **The plain writing**: the coloured one without control sequences. -/
def plain (t : Styled) : Text := strip t.coloured

end Styled

end Salutation.Terminal
