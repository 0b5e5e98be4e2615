import Salutation.Proofs.Program.Log
import Salutation.Proofs.Program.PlainText

/-!
# Forged log lines

A line reads as logged if it is a time, the level and what a message says, once its colours are
stripped (`ReadsAsLogged`).  What a run keeps of its log (`Invocation.KeepsLog`) is that a greeting
is logged as it should be, and that a command line which is not accepted leaves no line that reads
as logged.  Names do not touch that, but two things do: a filter that is not read, and a text on
standard error that holds such a line (`Invocation.keepsLog_iff`).

The second comes of line feeds alone.  Every line of a text about a failure opens with a word of the
program, which is no digit (`ParseFailure.lookAt_styled`), while a time opens with one; so a part of
the command line that breaks no line forges none (`Invocation.not_holdsLogLine_told`).  The argument
follows a text through its writings: a plain one is looked at with the eyes of the styled text
(`ParseFailure.lookAt_flatMap`), and the lines of a coloured one are those of the plain one
(`Terminal.Styled.map_strip_splitOn_coloured`).
-/

namespace Salutation

open Terminal
open Log (Event)

/-- **Whether a line reads as one that a run logs**: without its colours it is a time, the level and
what a message says. -/
def ReadsAsLogged (l : Text) : Prop :=
  ∃ microseconds a, ∃ e ∈ Invocation.events a,
    strip l = Clock.text microseconds ++ (" DEBUG ".toList ++ e.said)

/-- Whether a line of a text reads as logged. -/
def HoldsLogLine (t : Text) : Prop := ∃ l ∈ t.splitOn '\n', ReadsAsLogged l

/-- **Whether a line opens with no digit.**  An empty line opens with nothing. -/
def OpensWithNoDigit (l : Text) : Prop := ∀ c ∈ l.head?, c.isDigit = false

theorem opensWithNoDigit_nil : OpensWithNoDigit [] := fun c hc => absurd hc (Option.not_mem_none c)

theorem not_readsAsLogged {l : Text} (h : OpensWithNoDigit (strip l)) : ¬ ReadsAsLogged l := by
  rintro ⟨microseconds, a, e, -, hl⟩
  obtain ⟨c, t, htime, hdigit⟩ := Clock.exists_text_eq_cons microseconds
  rw [hl, htime, List.cons_append] at h
  have hnone := h c rfl
  rw [hdigit] at hnone
  cases hnone

/-! ### The lines of a text that passes the look -/

namespace ParseFailure

section Lines

variable {t : Text} {opens opens' : Bool}

/-- Behind a character that does not open the line, all that is shown and breaks no line passes. -/
theorem lookAt_of_isClean (hclean : IsClean t) (hline : '\n' ∉ t) :
    t.foldlM lookAtChar false = some false := by
  rw [isClean_iff] at hclean
  induction t with
  | nil => rfl
  | cons c t ih =>
    obtain ⟨hc, ht⟩ := List.forall_mem_cons.mp hclean
    have hne : c ≠ '\n' := (List.ne_of_not_mem_cons hline).symm
    have hfirst : lookAtChar false c = some false :=
      lookAtChar_eq_some_iff.mpr ⟨hc, Bool.false_ne_true.elim, (decide_eq_false hne).symm⟩
    rw [List.foldlM_cons, hfirst]
    exact ih ht (List.not_mem_of_not_mem_cons hline)

/-- **No line of a text that passes opens with a digit**; the first one is open already, if the look
does not begin with a line. -/
theorem opensWithNoDigit_of_lookAt (h : t.foldlM lookAtChar opens = some opens') :
    ∃ l ls, t.splitOn '\n' = l :: ls ∧ (opens = true → OpensWithNoDigit l)
      ∧ ∀ l ∈ ls, OpensWithNoDigit l := by
  induction t generalizing opens with
  | nil => exact ⟨[], [], rfl, fun _ => opensWithNoDigit_nil, fun _ h => absurd h List.not_mem_nil⟩
  | cons c t ih =>
    obtain ⟨next, hc, ht⟩ := Option.bind_eq_some_iff.mp h
    obtain ⟨-, hdigit, rfl⟩ := lookAtChar_eq_some_iff.mp hc
    obtain ⟨l, ls, hsplit, hfirst, hlater⟩ := ih ht
    rw [List.splitOn_cons_eq_if_modifyHead, hsplit]
    by_cases hbreak : c = '\n'
    · -- the next line opens
      have hopens : OpensWithNoDigit l := hfirst (decide_eq_true hbreak)
      rw [if_pos (beq_iff_eq.mpr hbreak)]
      exact ⟨[], l :: ls, rfl, fun _ => opensWithNoDigit_nil,
        List.forall_mem_cons.mpr ⟨hopens, hlater⟩⟩
    · rw [if_neg (fun heq => hbreak (beq_iff_eq.mp heq)), List.modifyHead_cons]
      refine ⟨c :: l, ls, rfl, fun hopens d hd => ?_, hlater⟩
      rw [← Option.some.inj hd]
      exact hdigit hopens

theorem opensWithNoDigit_of_mem_splitOn (h : t.foldlM lookAtChar true = some opens') {l : Text}
    (hl : l ∈ t.splitOn '\n') : OpensWithNoDigit l := by
  obtain ⟨l', ls, hsplit, hfirst, hlater⟩ := opensWithNoDigit_of_lookAt h
  rw [hsplit] at hl
  exact List.forall_mem_cons.mpr ⟨hfirst rfl, hlater⟩ l hl

end Lines

/-! ### The writings of a styled text that passes the look -/

section Writing

variable {write : Text → Text} (hwrite : Plainly write)

include hwrite

theorem lookAt_write {t : Text} (hline : '\n' ∉ t) :
    (write t).foldlM lookAtChar false = some false := by
  have hwritten : '\n' ∉ write t := fun hmem => hline ((hwrite.sublist t).subset hmem)
  exact lookAt_of_isClean (hwrite.isClean t) hwritten

theorem lookAt_span {s : Span} {opens opens' : Bool} (h : lookAtSpan opens s = some opens')
    (hline : s.style ≠ .normal → '\n' ∉ s.text) :
    (write s.text).foldlM lookAtChar opens = some opens' := by
  unfold lookAtSpan at h
  split_ifs at h with hnormal hopens
  · rwa [hwrite.eq_self (isClean_of_lookAt h)]
  · -- the first character opens the line, and what is written keeps it
    obtain ⟨b, hfirst, hopens'⟩ := Option.map_eq_some_iff.mp h
    obtain ⟨c, hc, hlook⟩ := Option.bind_eq_some_iff.mp hfirst
    obtain ⟨t, ht⟩ := List.head?_eq_some_iff.mp hc
    have hrest := hline hnormal
    rw [ht] at hrest
    obtain ⟨hshown, -, hb⟩ := lookAtChar_eq_some_iff.mp hlook
    have hclean : IsClean [c] := isClean_iff.mpr (List.forall_mem_singleton.mpr hshown)
    have hwritten : write (c :: t) = c :: write t := hwrite.append hclean t
    have hinside : b = false :=
      hb.trans (decide_eq_false (List.ne_of_not_mem_cons hrest).symm)
    rw [ht, hwritten, List.foldlM_cons, hopens, hlook, hinside, ← hopens']
    exact lookAt_write hwrite (List.not_mem_of_not_mem_cons hrest)
  · rw [Bool.eq_false_of_not_eq_true hopens, ← Option.some.inj h]
    exact lookAt_write hwrite (hline hnormal)

/-- **What passes as a styled text passes as it is written**, if only normal spans break its
lines. -/
theorem lookAt_flatMap {t : Styled} {opens opens' : Bool}
    (h : t.foldlM lookAtSpan opens = some opens') (hlines : t.BreaksNormally) :
    (t.flatMap fun s => write s.text).foldlM lookAtChar opens = some opens' := by
  induction t generalizing opens with
  | nil => exact h
  | cons s t ih =>
    obtain ⟨hline, hlines⟩ := Styled.breaksNormally_cons.mp hlines
    obtain ⟨next, hs, ht⟩ := Option.bind_eq_some_iff.mp h
    rw [List.flatMap_cons, List.foldlM_append, lookAt_span hwrite hs hline]
    exact ih ht hlines

/-- No line of such a text opens with a digit. -/
theorem opensWithNoDigit_of_plainly {f : ParseFailure} (hlines : f.styled.BreaksNormally)
    {l : Text} (hl : l ∈ (write f.styled.coloured).splitOn '\n') :
    OpensWithNoDigit (strip l) := by
  have hclean : IsClean l := fun c hc =>
    hwrite.isClean f.styled.coloured c (mem_of_mem_splitOn l hl c hc).1
  rw [strip_eq_self_iff.mpr hclean]
  rw [hwrite.coloured_eq f.isClean_normal] at hl
  exact opensWithNoDigit_of_mem_splitOn (lookAt_flatMap hwrite f.lookAt_styled hlines) hl

end Writing

theorem opensWithNoDigit_of_coloured {f : ParseFailure} (hlines : f.styled.BreaksNormally)
    {l : Text} (hl : l ∈ f.styled.coloured.splitOn '\n') : OpensWithNoDigit (strip l) := by
  have hplain : strip l ∈ f.styled.plain.splitOn '\n' := by
    rw [← Styled.map_strip_splitOn_coloured f.isClean_normal hlines]
    exact List.mem_map_of_mem hl
  have hopens := opensWithNoDigit_of_plainly plainly_strip hlines hplain
  rwa [strip_strip] at hopens

end ParseFailure

/-! ### What breaks the lines of a text about a failure -/

/-- What the text about a failure quotes of the command line. -/
def ParseError.quoted : ParseError → Text
  | .helpRequested _ | .versionRequested => []
  | .unknownArgument shown _ => shown
  | .unexpectedValue _ value => value

section Breaks

open Styled

variable {program : Text} (hprogram : '\n' ∉ program)

include hprogram

theorem breaksNormally_usage (flags : List Flag) : (Help.usage program flags).BreaksNormally := by
  have hname : BreaksNormally
      (if program = [] then [] else [⟨.literal, program⟩, Help.normal " "]) := by
    split
    · exact breaksNormally_nil
    · exact breaksNormally_cons.mpr ⟨fun _ => hprogram, by decide⟩
  have hflag : ∀ f : Flag, BreaksNormally [⟨.literal, f.long⟩, Help.normal " "] := by
    intro f
    cases f <;> decide
  simp only [Help.usage, breaksNormally_append, breaksNormally_flatMap]
  exact ⟨⟨⟨by decide, hname⟩, fun f _ => hflag f⟩, by decide⟩

theorem breaksNormally_help (form : Help.Form) : (Help.text form program).BreaksNormally := by
  have hopening : (Help.opening program).BreaksNormally := by
    rw [Help.opening, List.cons_append, breaksNormally_cons, breaksNormally_append]
    exact ⟨fun h => absurd rfl h, breaksNormally_usage hprogram [], by decide⟩
  cases form with
  | short =>
    simp only [Help.text, Help.shortForm, breaksNormally_append]
    exact ⟨⟨⟨⟨⟨hopening, by decide⟩, by decide⟩, by decide⟩, by decide⟩, by decide⟩
  | long =>
    simp only [Help.text, Help.longForm, breaksNormally_append]
    exact ⟨⟨⟨⟨⟨hopening, by decide⟩, by decide⟩, by decide⟩, by decide⟩, by decide⟩

theorem breaksNormally_message {objection : Styled} (hobjection : objection.BreaksNormally)
    {tips : List Styled} (htips : ∀ t ∈ tips, t.BreaksNormally) (flags : List Flag) :
    (ParseError.message program objection tips flags).BreaksNormally := by
  have htip : BreaksNormally (tips.flatMap ParseError.tip) := by
    refine breaksNormally_flatMap.mpr fun t ht => ?_
    rw [ParseError.tip, breaksNormally_append, breaksNormally_append]
    exact ⟨⟨by decide, htips t ht⟩, by decide⟩
  have hgap : BreaksNormally (if tips = [] then [] else [Help.normal "\n"]) := by
    split <;> decide
  simp only [ParseError.message, breaksNormally_append]
  exact ⟨⟨⟨⟨⟨⟨by decide, hobjection⟩, by decide⟩, htip⟩, hgap⟩,
    breaksNormally_usage hprogram flags⟩, by decide⟩

/-- **Only normal spans break the lines of a text about a failure**, if neither the name of the
program nor what is quoted breaks a line. -/
theorem breaksNormally_styled {cause : ParseError} (hquoted : '\n' ∉ cause.quoted) :
    (cause.styled program).BreaksNormally := by
  cases cause with
  | helpRequested form => exact breaksNormally_help hprogram form
  | versionRequested =>
    show Help.version.BreaksNormally
    decide
  | unexpectedValue flag value =>
    have hobjection : BreaksNormally [Help.normal "unexpected value '", ⟨.invalid, value⟩,
        Help.normal "' for '", ⟨.literal, flag.long⟩,
        Help.normal "' found; no more were expected"] := by
      refine breaksNormally_cons.mpr ⟨by decide, breaksNormally_cons.mpr ⟨fun _ => hquoted, ?_⟩⟩
      cases flag <;> decide
    exact breaksNormally_message hprogram hobjection (fun _ h => absurd h List.not_mem_nil) _
  | unknownArgument shown suggestion =>
    have hobjection : BreaksNormally
        [Help.normal "unexpected argument '", ⟨.invalid, shown⟩, Help.normal "' found"] :=
      breaksNormally_cons.mpr ⟨by decide, breaksNormally_cons.mpr ⟨fun _ => hquoted, by decide⟩⟩
    have hseparated : '\n' ∉ ['-', '-', ' '] ++ shown := List.not_mem_append (by decide) hquoted
    have hvalue : (ParseError.asValue shown).BreaksNormally := by
      refine breaksNormally_cons.mpr ⟨by decide, breaksNormally_cons.mpr ⟨fun _ => hquoted, ?_⟩⟩
      exact breaksNormally_cons.mpr
        ⟨by decide, breaksNormally_cons.mpr ⟨fun _ => hseparated, by decide⟩⟩
    refine breaksNormally_message hprogram hobjection (fun t ht => ?_) _
    cases suggestion with
    | none => exact List.mem_singleton.mp ht ▸ hvalue
    | some flag =>
      rcases List.mem_pair.mp ht with rfl | rfl
      · cases flag <;> decide
      · exact hvalue

end Breaks

namespace Invocation

variable {i : Invocation} {f : ParseFailure}

/-- **What breaks no line forges none**: if neither the name of the program nor what is quoted of
the command line holds a line feed, no line that is told of a failure reads as logged. -/
theorem not_holdsLogLine_told (hprogram : '\n' ∉ f.program) (hquoted : '\n' ∉ f.cause.quoted) :
    ¬ HoldsLogLine (i.told f) := by
  have hlines : f.styled.BreaksNormally := breaksNormally_styled hprogram hquoted
  rintro ⟨l, hl, hlogged⟩
  refine not_readsAsLogged ?_ hlogged
  cases hfault : f.cause.isFault with
  | true =>
    rw [told_of_fault hfault] at hl
    split_ifs at hl
    · exact ParseFailure.opensWithNoDigit_of_coloured hlines hl
    · exact ParseFailure.opensWithNoDigit_of_plainly plainly_filter hlines hl
  | false =>
    rcases f.cause.kind_of_not_isFault hfault with hkind | hkind
    · have htold : i.told f = f.styled.plain := by rw [told, hkind]
      rw [htold] at hl
      exact ParseFailure.opensWithNoDigit_of_plainly plainly_strip hlines hl
    · have htold : i.told f = [] := by rw [told, hkind]
      rw [htold] at hl
      rw [List.mem_singleton.mp hl]
      exact opensWithNoDigit_nil

/-! ### What a run keeps of its log -/

/-- **What a run keeps of its log.** -/
structure KeepsLog (i : Invocation) : Prop where
  /-- A greeting is logged as it should be. -/
  greeted : ∀ a, i.parsed = .ok a → i.Account a
  /-- A command line that is not accepted leaves no line that reads as logged. -/
  refused : ∀ f, i.parsed = .error f →
    ∀ l, Utf8.encode l ∈ i.run.stderr.splitOn lineFeed → ¬ ReadsAsLogged l

theorem mem_splitOn_stderr_iff {t l : Text} (h : i.run.stderr = Utf8.encode t) :
    Utf8.encode l ∈ i.run.stderr.splitOn lineFeed ↔ l ∈ t.splitOn '\n' := by
  rw [h, Utf8.splitOn_encode]
  exact List.mem_map_of_injective Utf8.encode_injective

section KeepsLog

variable (htime : Visible i.time) (hstdout : i.stdout = .pipe) (hstderr : i.stderr = .pipe)

include htime hstdout hstderr

theorem keepsLog_of_ok {a : Arguments} (hparsed : i.parsed = .ok a) :
    i.KeepsLog ↔ i.ReadsFilter := by
  have haccount := account_iff htime hstdout hstderr hparsed
  refine ⟨fun h => haccount.mp (h.greeted a hparsed), fun h => ⟨fun b hb => ?_, fun f hf => ?_⟩⟩
  · rw [hparsed] at hb
    exact Except.ok.inj hb ▸ haccount.mpr h
  · rw [hparsed] at hf
    cases hf

omit htime hstdout in
theorem keepsLog_of_error (hparsed : i.parsed = .error f) :
    i.KeepsLog ↔ ¬ HoldsLogLine (i.refusal f) := by
  have hsaid : i.run.stderr = Utf8.encode (i.refusal f) :=
    run_stderr_of_error hstderr hparsed i.time
  constructor
  · rintro h ⟨l, hl, hlogged⟩
    exact h.refused f hparsed l ((mem_splitOn_stderr_iff hsaid).mpr hl) hlogged
  · refine fun h => ⟨fun a ha => ?_, fun g _ l hl hlogged => h ⟨l, ?_, hlogged⟩⟩
    · rw [hparsed] at ha
      cases ha
    · exact (mem_splitOn_stderr_iff hsaid).mp hl

/-- **When a run keeps its log.**  A run that greets does exactly if it reads its filter; otherwise
the notice is all that it leaves.  A run whose command line is not accepted says the same at all
times, and keeps its log exactly if no line of that reads as logged.  So both do if the filter is
read, as it is wherever it is aligned, and nothing that is quoted breaks a line. -/
theorem keepsLog_iff :
    (i.KeepsLog ↔ (∀ a, i.parsed = .ok a → i.ReadsFilter)
        ∧ ∀ f, i.parsed = .error f → ¬ HoldsLogLine (i.refusal f))
      ∧ (¬ i.ReadsFilter → i.run.stderr = Utf8.encode i.notice.text)
      ∧ (∀ f, i.parsed = .error f → ∀ time,
          (i.atTime time).run.stderr = Utf8.encode (i.refusal f))
      ∧ (i.ReadsFilter → (∀ f, i.parsed = .error f → '\n' ∉ f.program ∧ '\n' ∉ f.cause.quoted) →
          i.KeepsLog)
      ∧ (Log.Filter.IsAligned (i.environment.value? Environment.logFilter) → i.ReadsFilter) := by
  refine ⟨?_, fun hunread => ?_, fun f => run_stderr_of_error hstderr, fun hreads hquoted => ?_,
    exists_filter_of_isAligned⟩
  · cases hparsed : i.parsed with
    | ok a => rw [keepsLog_of_ok htime hstdout hstderr hparsed]; simp
    | error f => rw [keepsLog_of_error hstderr hparsed]; simp
  · cases hfilter : i.filter? with
    | ok filter => exact absurd ⟨filter, hfilter⟩ hunread
    | error e => exact run_stderr_of_unreadable hstderr hfilter
  · cases hparsed : i.parsed with
    | ok a => exact (keepsLog_of_ok htime hstdout hstderr hparsed).mpr hreads
    | error f =>
      obtain ⟨filter, hfilter⟩ := hreads
      obtain ⟨hprogram, hquoted⟩ := hquoted f hparsed
      have hrefusal : i.refusal f = i.told f := by rw [refusal, hfilter]
      rw [keepsLog_of_error hstderr hparsed, hrefusal]
      exact not_holdsLogLine_told hprogram hquoted

end KeepsLog

/-- A greeting of a name that breaks its line and goes on with a line as a coloured log has it. -/
def withForgedName : Invocation where
  program := Utf8.encode ProgramName.default
  arguments := [Utf8.encode
    "Bob\"\n\x1b[2m1970-01-01T00:00:00.000000Z\x1b[0m DEBUG writing greeting".toList]
  environment := [(Environment.logFilter, Utf8.encode "trace".toList)]
  time := Clock.text 0

/-- Its log is kept all the same. -/
theorem keepsLog_withForgedName :
    Visible withForgedName.time ∧ withForgedName.stdout = .pipe ∧ withForgedName.stderr = .pipe
      ∧ withForgedName.KeepsLog := by
  have hreads : withForgedName.ReadsFilter := ⟨.ofLevel .trace, by decide +kernel⟩
  have hparsed : withForgedName.parsed = .ok ⟨withForgedName.arguments⟩ := by decide +kernel
  obtain ⟨hiff, -⟩ := keepsLog_iff (i := withForgedName) (Clock.visible_text 0) rfl rfl
  refine ⟨Clock.visible_text 0, rfl, rfl, hiff.mpr ⟨fun _ _ => hreads, fun f hf => ?_⟩⟩
  rw [hparsed] at hf
  cases hf

/-- The greeting of `withShiftedFilter` where both streams are pipes and a notice is given. -/
def withNotice (notice : Notice) : Invocation :=
  { withShiftedFilter with stderr := .pipe, time := Clock.text 0, notice }

/-- A value that breaks its line and goes on with a line as a log without colours has it. -/
def forgedValue : Text :=
  ("\n1970-01-01T00:00:00.000000Z DEBUG writing greeting "
    ++ "Hello Person \x7b name: \"Mallory\" \x7d\n").toList

/-- The arguments that the line speaks of. -/
def ungreeted : Arguments := ⟨[Utf8.encode "Mallory".toList]⟩

/-- The value, given to a flag that takes none. -/
def withForgedValue : Invocation where
  program := Utf8.encode ProgramName.default
  arguments := [Utf8.encode ("--help=".toList ++ forgedValue)]
  time := Clock.text 0

/-- Both exceptions occur: a greeting that leaves a notice instead of its log, whatever the notice
is, and a message that holds a line which reads as logged. -/
theorem not_keepsLog_of_exceptions :
    (∀ notice, ¬ (withNotice notice).KeepsLog) ∧ ¬ withForgedValue.KeepsLog := by
  constructor
  · intro notice h
    have hparsed : withShiftedFilter.parsed = .ok ⟨withShiftedFilter.arguments⟩ := by
      decide +kernel
    have hunread : withShiftedFilter.filter? = .error .misaligned := by decide +kernel
    -- the notice has no part in what is read
    have hkept := keepsLog_of_ok (i := withNotice notice) (Clock.visible_text 0) rfl rfl hparsed
    obtain ⟨filter, hfilter⟩ := hkept.mp h
    cases hunread.symm.trans hfilter
  · intro h
    have hparsed : withForgedValue.parsed
        = .error ⟨ProgramName.default, .unexpectedValue .help forgedValue⟩ := by decide +kernel
    have hline : ∃ l ∈ (withForgedValue.refusal
          ⟨ProgramName.default, .unexpectedValue .help forgedValue⟩).splitOn '\n',
        strip l = Clock.text 0
          ++ (" DEBUG ".toList ++ (Event.writingGreeting ungreeted.greeting).said) := by
      decide +kernel
    obtain ⟨l, hl, hstrip⟩ := hline
    refine (keepsLog_of_error rfl hparsed).mp h ⟨l, hl, 0, ungreeted, _, ?_, hstrip⟩
    exact List.mem_cons_of_mem _ List.mem_cons_self

end Invocation

end Salutation
