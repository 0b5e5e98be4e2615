import Salutation.Proofs.Program.Outcome
import Salutation.Proofs.Terminal.Styled

/-!
# What is told of a command line that is not accepted

The text about a command line that gives no arguments holds parts of it, and the name of the
program, as they come.  Its plain writing is clean all the same, and the parts do not disturb the
words of the program: in every such text the normal spans are the program's own
(`ParseFailure.isClean_normal`), while what comes from outside stands in spans of other styles.  So
each span is stripped by itself (`ParseFailure.plain_eq`), and a part that ends within a sequence
swallows nothing behind it.

`Arguments.isClean_plain_of_error` puts this together with what a run prints of a request for help.
-/

namespace Salutation

open Terminal

namespace ParseFailure

/-! ### The words of the program

The texts are looked at once, character by character.  The parts from outside stand in spans that
are not normal and do not open a line, so they are not looked at. -/

/-- One step of the look at a text: every character is shown, and none that opens a line is a digit.
The state tells whether a line is about to open. -/
def lookAtChar (opens : Bool) (c : Char) : Option Bool :=
  if State.ground.shows c && !(opens && c.isDigit) then some (c = '\n') else none

/-- The look at a span.  One that is not normal stays within its line; only where it opens the line
its first character is looked at. -/
def lookAtSpan (opens : Bool) (s : Span) : Option Bool :=
  if s.style = .normal then s.text.foldlM lookAtChar opens
  else if opens then (s.text.head?.bind (lookAtChar true)).map fun _ => false
  else some false

/-- The name of the program stands in a span of its own. -/
private theorem lookAt_help (form : Help.Form) (program : Text) :
    (Help.text form program).foldlM lookAtSpan true = some true := by
  have hfront : lookAtSpan true
      (Help.normal "Greets the person named on the command line.\n\n") = some true := by
    decide +kernel
  have husage : (Help.usage program []).foldlM lookAtSpan true
      = (Help.usage [] []).foldlM lookAtSpan true := by cases program <;> rfl
  have hprogram : (Help.text form program).foldlM lookAtSpan true
      = (Help.text form []).foldlM lookAtSpan true := by
    cases form <;>
      simp only [Help.text, Help.shortForm, Help.longForm, Help.opening, List.foldlM_append,
        List.foldlM_cons, hfront, husage, Option.bind_eq_bind, Option.bind_some]
  rw [hprogram]
  cases form <;> decide +kernel

/-- **Every text about a failure passes**, whatever the program is called and whatever is at
fault. -/
theorem lookAt_styled (f : ParseFailure) : f.styled.foldlM lookAtSpan true = some true := by
  obtain ⟨program, cause⟩ := f
  cases cause with
  | helpRequested form => exact lookAt_help form program
  | versionRequested => rfl
  | unknownArgument shown suggestion => cases program <;> cases suggestion <;> rfl
  | unexpectedValue flag value => cases program <;> cases flag <;> rfl

theorem lookAtChar_eq_some_iff {opens opens' : Bool} {c : Char} :
    lookAtChar opens c = some opens'
      ↔ State.ground.shows c = true ∧ (opens = true → c.isDigit = false)
        ∧ opens' = decide (c = '\n') := by
  rw [lookAtChar, Option.ite_none_right_eq_some, Bool.and_eq_true, and_assoc, Option.some_inj]
  refine and_congr_right' (and_congr ?_ eq_comm)
  cases opens <;> simp

theorem isClean_of_lookAt {t : Text} {opens opens' : Bool}
    (h : t.foldlM lookAtChar opens = some opens') : IsClean t := by
  rw [isClean_iff]
  induction t generalizing opens with
  | nil => exact fun _ hc => absurd hc List.not_mem_nil
  | cons c t ih =>
    obtain ⟨next, hc, ht⟩ := Option.bind_eq_some_iff.mp h
    obtain ⟨hshown, -⟩ := lookAtChar_eq_some_iff.mp hc
    exact List.forall_mem_cons.mpr ⟨hshown, ih ht⟩

theorem isClean_normal_of_lookAt {t : Styled} {opens opens' : Bool}
    (h : t.foldlM lookAtSpan opens = some opens') :
    ∀ s ∈ t, s.style = .normal → IsClean s.text := by
  induction t generalizing opens with
  | nil => exact fun _ hs => absurd hs List.not_mem_nil
  | cons s t ih =>
    obtain ⟨next, hs, ht⟩ := Option.bind_eq_some_iff.mp h
    refine List.forall_mem_cons.mpr ⟨fun hnormal => ?_, ih ht⟩
    rw [lookAtSpan, if_pos hnormal] at hs
    exact isClean_of_lookAt hs

/-- **The normal spans are clean**, whatever the program is called and whatever is at fault. -/
theorem isClean_normal (f : ParseFailure) :
    ∀ s ∈ f.styled, s.style = .normal → IsClean s.text :=
  isClean_normal_of_lookAt f.lookAt_styled

/-- **The plain text of a failure** is made of its spans, each stripped by itself. -/
theorem plain_eq (f : ParseFailure) : f.styled.plain = f.styled.flatMap fun s => strip s.text :=
  Styled.plain_eq_flatMap_strip f.isClean_normal

end ParseFailure

namespace Invocation

/-- A run that reads its filter prints the plain help. -/
theorem run_stderr_of_help {i : Invocation} {filter : Log.Filter} {f : ParseFailure}
    (hfilter : i.filter? = .ok filter) (hparsed : i.parsed = .error f)
    (hkind : f.cause.kind = .displayHelp) (hpipe : i.stderr = .pipe) :
    i.run.stderr = Utf8.encode f.styled.plain := by
  rw [run_of_error hfilter hparsed, explain_help hkind, conclude_stderr _ _ _ hpipe]

end Invocation

namespace Arguments

/-- **What is told of a command line that is not accepted.**  The plain text has no hidden controls.
It is the coloured text without its sequences, and it is made of the spans of the text, each
stripped by itself.  A run that reads its filter prints just that where help was asked for.  And
stripping leaves a text as it is exactly if the text has no hidden controls, so that it is stripped
once and for all. -/
theorem isClean_plain_of_error {commandLine : List Bytes} {f : ParseFailure}
    (h : parse commandLine = .error f) :
    IsClean f.styled.plain
      ∧ f.styled.plain = strip f.styled.coloured
      ∧ f.styled.plain = (f.styled.flatMap fun s => strip s.text)
      ∧ (∀ i : Invocation, i.program :: i.arguments = commandLine → i.stderr = .pipe →
          (∃ filter, i.filter? = .ok filter) → f.cause.kind = .displayHelp →
            i.run.stderr = Utf8.encode f.styled.plain)
      ∧ ∀ t : Text, (strip t = t ↔ IsClean t) ∧ strip (strip t) = strip t := by
  refine ⟨isClean_strip _, rfl, f.plain_eq, ?_, fun t => ⟨strip_eq_self_iff, strip_strip t⟩⟩
  rintro i rfl hpipe ⟨filter, hfilter⟩ hkind
  exact Invocation.run_stderr_of_help hfilter h hkind hpipe

/-- A command line whose path ends within an operating system command, and whose argument ends
within a control sequence. -/
def unfinished : List Bytes :=
  [Utf8.encode "gre\x1b]".toList, Utf8.encode "--help=Bob\x1b[3".toList]

/-- The failure that comes of it. -/
def unfinishedFailure : ParseFailure :=
  ⟨"gre\x1b]".toList, .unexpectedValue .help "Bob\x1b[3".toList⟩

/-- The sequences take nothing of the message. -/
theorem plain_unfinishedFailure :
    parse unfinished = .error unfinishedFailure ∧ IsClean unfinishedFailure.styled.plain
      ∧ unfinishedFailure.styled.plain
        = ("error: unexpected value 'Bob' for '--help' found; no more were expected\n\n"
          ++ "Usage: gre --help [NAME]...\n\nFor more information, try '--help'.\n").toList := by
  have hparse : parse unfinished = .error unfinishedFailure := by decide +kernel
  obtain ⟨hclean, -, hspans, -⟩ := isClean_plain_of_error hparse
  refine ⟨hparse, hclean, ?_⟩
  rw [hspans]
  decide +kernel

end Arguments

end Salutation
