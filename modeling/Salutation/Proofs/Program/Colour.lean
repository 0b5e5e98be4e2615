import Salutation.Proofs.Program.Log

/-!
# What colours have to do with what is said

The log and the messages about a command line at fault each decide about their colours, and the
other texts have none.  `SaysTheSame` compares what two runs say on standard error once the control
sequences are taken out of both, with the time of the log left open.

Two runs that differ in their colours only say the same, with one exception (`saysTheSame_iff`): the
text about a fault, where one run colours it and the other does not, if it resumes a sequence.
There the stream without colours swallows a character that the plain text has.

The log is told alike since its spans are clean, so colours leave no trace in it, whatever comes
behind (`strip_log_append`).  The text about a fault has parts from outside, which one run passes on
and the other filters; what is filtered holds nothing to strip (`Terminal.strip_filter`), so the two
come to the same exactly if filtering is stripping (`strip_told_eq_iff`).
-/

namespace Salutation

open Terminal
open Log (Event Template)

/-- All spans of a log line are clean. -/
theorem Log.Event.isClean_of_mem_line {e : Event} {time : Text} (htime : Visible time)
    (he : Visible e.said) {s : Span} (hs : s ∈ e.line time) : IsClean s.text := by
  rw [e.line_eq_append time, List.mem_append, List.mem_singleton] at hs
  rcases hs with hs | rfl
  · exact (visible_of_mem_lineFront htime he hs).isClean
  · exact isClean_iff.mpr (List.forall_mem_singleton.mpr rfl)

namespace Invocation

/-! ### Two runs that differ in their colours -/

/-- Whether two invocations differ in their colours only: they ask for the same, have the same
filter of the log and would be given the same notice, while the variables about colours may be set
to anything or not at all. -/
structure SameButColours (i j : Invocation) : Prop extends SameTask i j where
  logFilter : i.environment.value? Environment.logFilter
    = j.environment.value? Environment.logFilter
  notice : i.notice = j.notice

/-- **Whether two runs say the same** on standard error but for control sequences, wherever the time
stands in what they say. -/
def SaysTheSame (i j : Invocation) : Prop :=
  ∃ said said' : Template,
    (∀ time, (i.atTime time).run.stderr = Utf8.encode (said.fill time))
      ∧ (∀ time, (j.atTime time).run.stderr = Utf8.encode (said'.fill time))
      ∧ ∀ time, Visible time → strip (said.fill time) = strip (said'.fill time)

section Alike

variable {i j : Invocation} {f : ParseFailure} {a : Arguments} {filter : Log.Filter}

theorem SameButColours.parsed_eq (h : SameButColours i j) : i.parsed = j.parsed := by
  rw [parsed, parsed, h.program, h.arguments]

theorem SameButColours.filter?_eq (h : SameButColours i j) : i.filter? = j.filter? := by
  rw [filter?, filter?, h.logFilter]

/-- What both runs say is the same but for control sequences, if neither tells the time. -/
theorem saysTheSame_of_timeless {t u : Text}
    (hi : ∀ time, (i.atTime time).run.stderr = Utf8.encode t)
    (hj : ∀ time, (j.atTime time).run.stderr = Utf8.encode u) (h : strip t = strip u) :
    SaysTheSame i j := by
  refine ⟨[some t], [some u], ?_, ?_, ?_⟩
  · simpa only [Template.fill_text] using hi
  · simpa only [Template.fill_text] using hj
  · intro time _
    rw [Template.fill_text, Template.fill_text, h]

/-- What the runs say at a time decides whether they say the same. -/
theorem SaysTheSame.strip_eq {t u : Text} (h : SaysTheSame i j)
    (hi : (i.atTime []).run.stderr = Utf8.encode t)
    (hj : (j.atTime []).run.stderr = Utf8.encode u) : strip t = strip u := by
  obtain ⟨said, said', hsaid, hsaid', hstrip⟩ := h
  have ht : said.fill [] = t := Utf8.encode_injective ((hsaid []).symm.trans hi)
  have hu : said'.fill [] = u := Utf8.encode_injective ((hsaid' []).symm.trans hj)
  rw [← ht, ← hu]
  exact hstrip [] fun c hc => absurd hc List.not_mem_nil

/-! ### The log -/

/-- **The log without its control sequences**, whatever comes behind it. -/
theorem strip_log_append (htime : Visible i.time) (v : Text) :
    strip (i.log filter a ++ v)
      = (((events a).filter filter.enables).flatMap fun e => (e.line i.time).bare) ++ strip v := by
  have hsaid : ∀ e ∈ (events a).filter filter.enables, Visible e.said :=
    fun e he => visible_said (List.mem_filter.mp he).1
  unfold log
  generalize (events a).filter filter.enables = es at hsaid ⊢
  induction es with
  | nil => rfl
  | cons e es ih =>
    obtain ⟨he, hes⟩ := List.forall_mem_cons.mp hsaid
    have hclean : ∀ s ∈ e.line i.time, IsClean s.text :=
      fun s hs => Event.isClean_of_mem_line htime he hs
    rw [List.flatMap_cons, List.flatMap_cons, List.append_assoc, List.append_assoc,
      Styled.strip_append_of_isClean hclean, ih hes]

theorem run_stderr_template (hpipe : i.stderr = .pipe) (hfilter : i.filter? = .ok filter)
    (hparsed : i.parsed = .ok a) (time : Text) :
    (i.atTime time).run.stderr
      = Utf8.encode ((i.logTemplate filter a ++ [some (i.epilogue a)]).fill time) := by
  have hpipe' : (i.atTime time).stderr = .pipe := hpipe
  have hfilter' : (i.atTime time).filter? = .ok filter := hfilter
  have hparsed' : (i.atTime time).parsed = .ok a := hparsed
  rw [run_stderr_of_ok hpipe' hfilter' hparsed', ← log_eq_lines hfilter', Template.fill_append,
    Template.fill_text, fill_logTemplate]
  rfl

/-- Runs that greet say the same: lines of the log, and a report without colours. -/
theorem saysTheSame_of_ok (h : SameButColours i j) (hi : i.stderr = .pipe) (hj : j.stderr = .pipe)
    (hfilter : i.filter? = .ok filter) (hparsed : i.parsed = .ok a) : SaysTheSame i j := by
  have hfilter' : j.filter? = .ok filter := h.filter?_eq.symm.trans hfilter
  have hparsed' : j.parsed = .ok a := h.parsed_eq.symm.trans hparsed
  have hepilogue : i.epilogue a = j.epilogue a := by
    rw [epilogue, epilogue, h.stdout]
  refine ⟨_, _, run_stderr_template hi hfilter hparsed,
    run_stderr_template hj hfilter' hparsed', ?_⟩
  intro time htime
  have hstrip (k : Invocation) : strip ((k.logTemplate filter a ++ [some (k.epilogue a)]).fill time)
      = (((events a).filter filter.enables).flatMap fun e => (e.line time).bare)
        ++ strip (k.epilogue a) := by
    have htime' : Visible (k.atTime time).time := htime
    rw [Template.fill_append, Template.fill_text, fill_logTemplate, strip_log_append htime']
    rfl
  rw [hstrip, hstrip, hepilogue]

/-! ### Failures -/

/-- Runs that stop at their filters leave the same notice. -/
theorem saysTheSame_of_unreadable {e : Log.FilterFault} (h : SameButColours i j)
    (hi : i.stderr = .pipe) (hj : j.stderr = .pipe) (hfilter : i.filter? = .error e) :
    SaysTheSame i j := by
  have hfilter' : j.filter? = .error e := h.filter?_eq.symm.trans hfilter
  have hnotice : ∀ time, (i.atTime time).run.stderr = Utf8.encode i.notice.text :=
    fun time => run_stderr_of_unreadable (i := i.atTime time) hi hfilter
  have hnotice' : ∀ time, (j.atTime time).run.stderr = Utf8.encode j.notice.text :=
    fun time => run_stderr_of_unreadable (i := j.atTime time) hj hfilter'
  exact saysTheSame_of_timeless hnotice hnotice' (by rw [h.notice])

/-- Runs that stop at their command lines say the same exactly if they tell the same. -/
theorem saysTheSame_iff_of_failure (h : SameButColours i j) (hi : i.stderr = .pipe)
    (hj : j.stderr = .pipe) (hfilter : i.filter? = .ok filter) (hparsed : i.parsed = .error f) :
    SaysTheSame i j ↔ strip (i.told f) = strip (j.told f) := by
  have hfilter' : j.filter? = .ok filter := h.filter?_eq.symm.trans hfilter
  have hparsed' : j.parsed = .error f := h.parsed_eq.symm.trans hparsed
  have htold : ∀ time, (i.atTime time).run.stderr = Utf8.encode (i.told f) :=
    fun time => run_stderr_of_failure (i := i.atTime time) hi hfilter hparsed
  have htold' : ∀ time, (j.atTime time).run.stderr = Utf8.encode (j.told f) :=
    fun time => run_stderr_of_failure (i := j.atTime time) hj hfilter' hparsed'
  exact ⟨fun hsame => hsame.strip_eq (htold []) (htold' []), saysTheSame_of_timeless htold htold'⟩

/-- What is told of a request has no colours. -/
theorem told_eq_of_not_fault (hfault : f.cause.isFault = false) : i.told f = j.told f := by
  rcases f.cause.kind_of_not_isFault hfault with hkind | hkind <;> rw [told, told, hkind]

/-- What is told of a fault without colours has nothing left to strip. -/
theorem strip_told_of_fault (hfault : f.cause.isFault = true) :
    strip (i.told f) = if i.environment.coloursMessages then strip f.styled.coloured
      else Terminal.filter f.styled.coloured := by
  rw [told_of_fault hfault]
  split
  · rfl
  · exact strip_filter _

/-- Two runs tell the same of a fault if both colour it or neither does; otherwise one tells it
stripped and the other filtered. -/
theorem strip_told_eq_iff (hfault : f.cause.isFault = true) :
    strip (i.told f) = strip (j.told f)
      ↔ (i.environment.coloursMessages ≠ j.environment.coloursMessages →
          ¬ Terminal.Resumes f.styled.coloured) := by
  rw [strip_told_of_fault hfault, strip_told_of_fault hfault]
  cases i.environment.coloursMessages <;> cases j.environment.coloursMessages
  · simp
  · simpa using filter_eq_strip_iff
  · simpa using eq_comm.trans filter_eq_strip_iff
  · simp

/-- **When colours do not touch what is said**: of two invocations that differ in their colours
only, and whose standard error is a pipe, come the same texts but for control sequences, unless the
command line is at fault, one run colours the text about it and the other does not, and that text
resumes a sequence. -/
theorem saysTheSame_iff (h : SameButColours i j) (hi : i.stderr = .pipe) (hj : j.stderr = .pipe) :
    SaysTheSame i j
      ↔ ∀ f, i.parsed = .error f → f.cause.isFault = true → i.ReadsFilter →
          i.environment.coloursMessages ≠ j.environment.coloursMessages →
            ¬ Terminal.Resumes f.styled.coloured := by
  cases hfilter : i.filter? with
  | error e =>
    apply iff_of_true (saysTheSame_of_unreadable h hi hj hfilter)
    rintro f - - ⟨filter, hread⟩
    rw [hfilter] at hread
    cases hread
  | ok filter =>
    cases hparsed : i.parsed with
    | ok a =>
      apply iff_of_true (saysTheSame_of_ok h hi hj hfilter hparsed)
      intro f hf
      cases hf
    | error f =>
      rw [saysTheSame_iff_of_failure h hi hj hfilter hparsed]
      cases hfault : f.cause.isFault with
      | true =>
        rw [strip_told_eq_iff hfault]
        constructor
        · intro hplain g hg _ _
          rw [← Except.error.inj hg]
          exact hplain
        · exact fun hplain => hplain f rfl hfault ⟨filter, hfilter⟩
      | false =>
        apply iff_of_true (congrArg strip (told_eq_of_not_fault hfault))
        intro g hg hg'
        rw [← Except.error.inj hg, hfault] at hg'
        cases hg'

/-- A fault with a rendition in the value that is at fault, told in colours. -/
def withColouredFault : Invocation where
  program := Utf8.encode ProgramName.default
  arguments := [Utf8.encode "--help=\x1b[31mBob\n".toList]
  environment := [(Environment.forceColour, [0x31])]
  time := []

/-- The same where colours are switched off and not forced. -/
def withPlainFault : Invocation :=
  { withColouredFault with environment := [(Environment.noColour, [0x31])] }

/-- A sequence that is finished leaves no trace, whether it is passed on or filtered. -/
theorem saysTheSame_withColouredFault :
    SameButColours withColouredFault withPlainFault ∧ withColouredFault.stderr = .pipe
      ∧ withPlainFault.stderr = .pipe
      ∧ withColouredFault.run.stderr ≠ withPlainFault.run.stderr
      ∧ SaysTheSame withColouredFault withPlainFault := by
  have hcolours : SameButColours withColouredFault withPlainFault := ⟨⟨rfl, rfl, rfl⟩, rfl, rfl⟩
  have hparsed : withColouredFault.parsed = .error ⟨ProgramName.default,
      .unexpectedValue .help "\x1b[31mBob\n".toList⟩ := by decide +kernel
  refine ⟨hcolours, rfl, rfl, by decide +kernel, ?_⟩
  refine (saysTheSame_iff hcolours rfl rfl).mpr fun f hf _ _ _ => ?_
  rw [← Except.error.inj (hparsed.symm.trans hf)]
  apply filter_eq_strip_iff.mp
  decide +kernel

/-- The fault of `withResumedSequence`, told in colours. -/
def withForcedColours : Invocation :=
  { withResumedSequence with environment := [(Environment.forceColour, [0x31])] }

/-- **Colours may touch what is said**: forced colours bring back a letter of the message. -/
theorem not_saysTheSame_withForcedColours :
    SameButColours withResumedSequence withForcedColours ∧ withResumedSequence.stderr = .pipe
      ∧ withForcedColours.stderr = .pipe
      ∧ ¬ SaysTheSame withResumedSequence withForcedColours := by
  have hcolours : SameButColours withResumedSequence withForcedColours := ⟨⟨rfl, rfl, rfl⟩, rfl, rfl⟩
  have hfilter : withResumedSequence.filter? = .ok .fallback := by decide +kernel
  have hparsed : withResumedSequence.parsed = .error ⟨ProgramName.default,
      .unexpectedValue .help "\x1b[\n\x01abc".toList⟩ := by decide +kernel
  refine ⟨hcolours, rfl, rfl, fun hsame => ?_⟩
  rw [saysTheSame_iff_of_failure hcolours rfl rfl hfilter hparsed] at hsame
  revert hsame
  decide +kernel

end Alike

end Invocation

end Salutation
