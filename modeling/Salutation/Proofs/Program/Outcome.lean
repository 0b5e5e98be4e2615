import Salutation.Program.Invocation
import Salutation.Proofs.CommandLine.Grammar
import Salutation.Proofs.Log.Alignment
import Salutation.Proofs.Output.Delivery
import Salutation.Proofs.Terminal.Sequence

/-!
# What comes of a run

`Promised` says what a run should come to, from the reading of the command line, the ends of the two
streams and the filter of the log: the exit code, what standard output holds, and that the text of a
failure is plain where no colours are forced.

A run keeps this with two exceptions (`promised_iff`).  A filter of the log that cannot be cut where
its parts end stops the program before it reads its command line, so it exits as if standard error
were bad; an aligned value gives no such filter (`promised_of_isAligned`).  And the text about a
fault goes through a stream that does not quite write it plainly: the two writings differ
exactly where the text resumes a sequence.

The paths of a run are taken one by one: the filter that does not read (`run_of_unreadable`), the
texts of requests and faults (`explain_help` and its neighbours), and the greeting
(`greet_of_silenced` and its neighbours).  Each of these lemmas gives the whole outcome.
-/

namespace Salutation

/-! ### The ends of the streams -/

namespace Sink

theorem isBad_eq_false_of_pipe {s : Sink} (h : s = .pipe) : s.isBad = false := by
  rw [h]
  rfl

theorem stream_of_good {s : Sink} (h : s.isBad = false) : s.stream = {} := by
  cases s with
  | pipe => rfl
  | readOnly => rfl
  | full => cases h
  | broken => cases h

/-- A bad sink refuses the first call, and not by an interruption. -/
theorem stream_of_bad {s : Sink} (h : s.isBad = true) :
    ∃ e : OutputError, s.stream = { replies := [.fail e] } ∧ e.isInterruption = false := by
  cases s with
  | pipe => cases h
  | readOnly => cases h
  | full => exact ⟨.system SystemError.noSpace, rfl, by decide⟩
  | broken => exact ⟨.system SystemError.brokenPipe, rfl, by decide⟩

end Sink

theorem Arguments.deliver_of_bad (a : Arguments) {s : Sink} (h : s.isBad = true) :
    ∃ e, (a.deliver s.stream).failure = some e := by
  obtain ⟨e, hstream, hinterruption⟩ := Sink.stream_of_bad h
  have hgreeting : Writer.writeAll [.fail e] (Utf8.encode a.greeting) = ⟨[], 1, [], some e⟩ := by
    rw [Writer.writeAll]
    · rw [hinterruption]
      rfl
    · exact a.encode_greeting_ne_nil
  refine ⟨e, ?_⟩
  have hfailure : (Writer.writeParts s.stream.replies a.greetingParts).failure = some e := by
    rw [hstream, greetingParts, Writer.writeParts_cons_of_some (by rw [hgreeting]), hgreeting]
  rw [a.deliver_of_some hfailure]

/-! ### The lines of the log -/

namespace Log.Event

variable (e : Event) (time : Text)

/-- Every line ends with a span that holds the line feed. -/
theorem lineFeed_mem_line : (⟨.normal, ['\n']⟩ : Terminal.Span) ∈ e.line time :=
  List.mem_append_right _ List.mem_cons_self

theorem line_coloured_ne_nil : (e.line time).coloured ≠ [] := by
  have hmem : '\n' ∈ (e.line time).coloured :=
    List.mem_flatMap.mpr ⟨_, e.lineFeed_mem_line time, List.mem_singleton_self _⟩
  exact List.ne_nil_of_mem hmem

theorem line_bare_ne_nil : (e.line time).bare ≠ [] := by
  have hmem : '\n' ∈ (e.line time).bare :=
    List.mem_flatMap.mpr ⟨_, e.lineFeed_mem_line time, List.mem_singleton_self _⟩
  exact List.ne_nil_of_mem hmem

end Log.Event

/-- Something is logged exactly if the filter enables a message. -/
theorem Invocation.log_ne_nil_iff {i : Invocation} {filter : Log.Filter} {a : Arguments} :
    i.log filter a ≠ [] ↔ (events a).any filter.enables = true := by
  rw [log, ne_eq, List.flatMap_eq_nil_iff, List.any_eq_true]
  constructor
  · intro h
    by_contra hnone
    refine h fun e he => ?_
    obtain ⟨hevent, henabled⟩ := List.mem_filter.mp he
    exact absurd ⟨e, hevent, henabled⟩ hnone
  · rintro ⟨e, hevent, henabled⟩ hnil
    have hline := hnil e (List.mem_filter.mpr ⟨hevent, henabled⟩)
    split at hline
    · exact e.line_coloured_ne_nil i.time hline
    · exact e.line_bare_ne_nil i.time hline

namespace Invocation

/-! ### What a run should come to -/

/-- The reading of the command line. -/
def parsed (i : Invocation) : Except ParseFailure Arguments :=
  Arguments.parse (i.program :: i.arguments)

/-- The filter that the environment gives. -/
def filter? (i : Invocation) : Except Log.FilterFault Log.Filter :=
  Log.Filter.ofVariable (i.environment.value? Environment.logFilter)

/-- An aligned value of the variable gives a filter. -/
theorem exists_filter_of_isAligned {i : Invocation}
    (h : Log.Filter.IsAligned (i.environment.value? Environment.logFilter)) :
    ∃ filter, i.filter? = .ok filter := h.exists_ofVariable_eq_ok

/-- Whether the filter that the environment gives lets a message of a greeting through. -/
def logs (i : Invocation) (a : Arguments) : Bool :=
  match i.filter? with
  | .ok filter => (events a).any filter.enables
  | .error _ => false

/-- **The exit code that a run should have.** -/
def promisedExitCode (i : Invocation) : Nat :=
  match i.parsed with
  | .error f =>
    match f.cause.kind with
    | .displayVersion => 0
    | .displayHelp => if i.stderr.isBad then 101 else 2
    | .tooManyValues | .unknownArgument => 2
  | .ok a =>
    if i.stderr.isBad && i.logs a then 101
    else if !i.stdout.isBad then 0
    else if !i.stderr.isBad then 1
    else 101

/-- Whether standard error holds the plain text of a request for help or of a fault, where colours
are not forced. -/
def ExplainedBy (i : Invocation) (stderr : Bytes) : Prop :=
  i.stderr = .pipe → i.environment.value? Environment.forceColour = none →
    ∀ f, i.parsed = .error f → f.cause.kind ≠ .displayVersion →
      stderr = Utf8.encode f.styled.plain

/-- **What a run should come to.** -/
structure Promised (i : Invocation) : Prop where
  /-- The exit code is the one that the command line, the streams and the filter call for. -/
  exitCode : i.run.exitCode = i.promisedExitCode
  /-- Something is read from standard output exactly after a success. -/
  stdout_ne_nil_iff : i.stdout = .pipe → (i.run.stdout ≠ [] ↔ i.run.exitCode = 0)
  /-- After a success standard output holds the version or the greeting line, and nothing else. -/
  stdout_eq : i.stdout = .pipe → i.run.exitCode = 0 →
    (∃ f, i.parsed = .error f ∧ f.cause.kind = .displayVersion
        ∧ i.run.stdout = Utf8.encode Help.version.plain)
      ∨ ∃ a, i.parsed = .ok a ∧ i.run.stdout = (a.deliver {}).written
  /-- Why a command line was not accepted is told plainly. -/
  explained : i.ExplainedBy i.run.stderr

/-! ### The outcome of each path -/

section Outcome

variable (i : Invocation) (code : Nat) (stdout : Bytes) (stderr : Text)

theorem outcome_stdout_nil : (i.outcome code [] stderr).stdout = [] := ite_self _

theorem outcome_stdout (h : i.stdout = .pipe) : (i.outcome code stdout stderr).stdout = stdout :=
  if_pos h

theorem outcome_stderr (h : i.stderr = .pipe) :
    (i.outcome code stdout stderr).stderr = Utf8.encode stderr := if_pos h

theorem stop_stdout : i.stop.stdout = [] := i.outcome_stdout_nil _ _

theorem conclude_of_bad (h : i.stderr.isBad = true) : i.conclude code stderr = i.stop := if_pos h

theorem conclude_of_good (h : i.stderr.isBad = false) :
    i.conclude code stderr = i.outcome code [] stderr := by
  rw [conclude, h]
  rfl

theorem conclude_exitCode :
    (i.conclude code stderr).exitCode = if i.stderr.isBad then 101 else code :=
  apply_ite Outcome.exitCode _ _ _

theorem conclude_stdout : (i.conclude code stderr).stdout = [] := by
  unfold conclude
  split
  · exact i.stop_stdout
  · exact i.outcome_stdout_nil _ _

theorem conclude_stderr (h : i.stderr = .pipe) :
    (i.conclude code stderr).stderr = Utf8.encode stderr := by
  rw [i.conclude_of_good _ _ (Sink.isBad_eq_false_of_pipe h), i.outcome_stderr _ _ _ h]

end Outcome

variable {i : Invocation} {f : ParseFailure} {a : Arguments} {filter : Log.Filter}

theorem run_of_unreadable {e : Log.FilterFault} (h : i.filter? = .error e) : i.run = i.stop := by
  unfold filter? at h
  rw [run, h]

theorem run_of_error (h : i.filter? = .ok filter) (hparsed : i.parsed = .error f) :
    i.run = i.explain f := by
  unfold filter? at h
  unfold parsed at hparsed
  rw [run, h]
  simp only [hparsed]

theorem run_of_ok (h : i.filter? = .ok filter) (hparsed : i.parsed = .ok a) :
    i.run = i.greet filter a := by
  unfold filter? at h
  unfold parsed at hparsed
  rw [run, h]
  simp only [hparsed]

theorem explain_help (h : f.cause.kind = .displayHelp) :
    i.explain f = i.conclude 2 f.styled.plain := by
  obtain ⟨program, cause⟩ := f
  cases cause with
  | helpRequested form => rfl
  | versionRequested => cases h
  | unknownArgument shown suggestion => cases h
  | unexpectedValue flag value => cases h

theorem explain_version (h : f.cause.kind = .displayVersion) :
    i.explain f = i.outcome 0 (Utf8.encode Help.version.plain) [] := by
  obtain ⟨program, cause⟩ := f
  cases cause with
  | helpRequested form => cases h
  | versionRequested => rfl
  | unknownArgument shown suggestion => cases h
  | unexpectedValue flag value => cases h

theorem explain_fault (h : f.cause.isFault = true) :
    i.explain f = i.outcome 2 [] (if i.environment.coloursMessages then f.styled.coloured
      else Terminal.filter f.styled.coloured) := by
  obtain ⟨program, cause⟩ := f
  cases cause with
  | helpRequested form => cases h
  | versionRequested => cases h
  | unknownArgument shown suggestion => rfl
  | unexpectedValue flag value => rfl

/-- A log line that standard error does not take ends the run. -/
theorem greet_of_silenced (hbad : i.stderr.isBad = true)
    (hlogs : (events a).any filter.enables = true) : i.greet filter a = i.stop := by
  have hlines : i.log filter a ≠ [] := log_ne_nil_iff.mpr hlogs
  unfold greet
  apply if_pos
  rw [hbad, Bool.and_true, decide_eq_true_eq]
  exact hlines

/-- Where standard error refuses nothing, every line of the log is taken. -/
theorem heard_of_good (h : i.stderr.isBad = false) (filter : Log.Filter) (a : Arguments) :
    ¬ (i.stderr.isBad && (events a).any filter.enables) = true := by
  rw [h]
  exact Bool.false_ne_true

section Heard

variable (hheard : ¬ (i.stderr.isBad && (events a).any filter.enables) = true)

include hheard

theorem greet_of_heard :
    i.greet filter a = match (a.deliver i.stdout.stream).failure with
      | none => i.outcome 0 (a.deliver i.stdout.stream).written (i.log filter a)
      | some e => i.conclude 1 (i.log filter a ++ report e) := by
  unfold greet
  refine if_neg fun h => hheard ?_
  rw [Bool.and_eq_true, decide_eq_true_eq, log_ne_nil_iff] at h
  rw [Bool.and_eq_true]
  exact ⟨h.2, h.1⟩

theorem greet_of_good (h : i.stdout.isBad = false) :
    i.greet filter a = i.outcome 0 (Utf8.encode a.greetingLine) (i.log filter a) := by
  rw [greet_of_heard hheard, Sink.stream_of_good h, a.deliver_default]

theorem greet_of_bad (h : i.stdout.isBad = true) :
    ∃ e, i.greet filter a = i.conclude 1 (i.log filter a ++ report e) := by
  obtain ⟨e, he⟩ := a.deliver_of_bad h
  exact ⟨e, by rw [greet_of_heard hheard, he]⟩

end Heard

/-! ### When a run keeps what it should come to -/

/-- A run that stops or fails shows nothing on standard output. -/
theorem promised_of_silent (hexit : i.run.exitCode = i.promisedExitCode)
    (hcode : i.run.exitCode ≠ 0) (hstdout : i.run.stdout = [])
    (hexplained : i.ExplainedBy i.run.stderr) : i.Promised where
  exitCode := hexit
  stdout_ne_nil_iff _ := ⟨fun h => absurd hstdout h, fun h => absurd h hcode⟩
  stdout_eq _ h := absurd h hcode
  explained := hexplained

theorem explainedBy_of_ok (hparsed : i.parsed = .ok a) (stderr : Bytes) :
    i.ExplainedBy stderr := by
  intro _ _ f hf
  rw [hparsed] at hf
  cases hf

theorem promised_of_ok (hfilter : i.filter? = .ok filter) (hparsed : i.parsed = .ok a) :
    i.Promised := by
  have hlogs : i.logs a = (events a).any filter.enables := by
    rw [logs, hfilter]
  have hcode : i.promisedExitCode
      = if i.stderr.isBad && (events a).any filter.enables then 101
        else if !i.stdout.isBad then 0 else if !i.stderr.isBad then 1 else 101 := by
    rw [promisedExitCode, hparsed]
    simp only [hlogs]
  have hrun := run_of_ok hfilter hparsed
  by_cases hheard : (i.stderr.isBad && (events a).any filter.enables) = true
  · -- a log line is refused before the greeting
    rw [if_pos hheard] at hcode
    obtain ⟨hbad, henabled⟩ := Bool.and_eq_true _ _ ▸ hheard
    rw [greet_of_silenced hbad henabled] at hrun
    refine promised_of_silent ?_ ?_ ?_ (explainedBy_of_ok hparsed _) <;> rw [hrun]
    · exact hcode.symm
    · exact Nat.succ_ne_zero 100
    · exact i.stop_stdout
  · rw [if_neg hheard] at hcode
    cases hstdout : i.stdout.isBad with
    | false =>
      -- the greeting is taken, or lost by a file that cannot be written to
      rw [hstdout] at hcode
      rw [greet_of_good hheard hstdout] at hrun
      refine ⟨?_, ?_, ?_, explainedBy_of_ok hparsed _⟩ <;> rw [hrun]
      · exact hcode.symm
      · intro hpipe
        rw [outcome_stdout _ _ _ _ hpipe]
        have hline : Utf8.encode a.greetingLine ≠ [] := by
          rw [a.encode_greetingLine]
          simp
        exact ⟨fun _ => rfl, fun _ => hline⟩
      · intro hpipe _
        refine Or.inr ⟨a, hparsed, ?_⟩
        rw [outcome_stdout _ _ _ _ hpipe, a.deliver_default]
    | true =>
      -- the greeting is refused, and the report may be refused as well
      rw [hstdout] at hcode
      obtain ⟨e, he⟩ := greet_of_bad hheard hstdout
      rw [he] at hrun
      refine promised_of_silent ?_ ?_ ?_ (explainedBy_of_ok hparsed _) <;> rw [hrun]
      · rw [conclude_exitCode, hcode]
        cases i.stderr.isBad <;> rfl
      · rw [conclude_exitCode]
        cases i.stderr.isBad <;> decide
      · exact conclude_stdout _ _ _

theorem explainedBy_of_error {stderr : Bytes} (hparsed : i.parsed = .error f)
    (hstderr : i.stderr = .pipe → i.environment.value? Environment.forceColour = none →
      stderr = Utf8.encode f.styled.plain) :
    i.ExplainedBy stderr := by
  intro hpipe hforce g hg _
  rw [hparsed] at hg
  rw [hstderr hpipe hforce, Except.error.inj hg]

theorem promised_of_help (hfilter : i.filter? = .ok filter) (hparsed : i.parsed = .error f)
    (hkind : f.cause.kind = .displayHelp) : i.Promised := by
  have hcode : i.promisedExitCode = if i.stderr.isBad then 101 else 2 := by
    rw [promisedExitCode, hparsed]
    simp only [hkind]
  have hrun := run_of_error hfilter hparsed
  rw [explain_help hkind] at hrun
  refine promised_of_silent ?_ ?_ ?_ ?_ <;> rw [hrun]
  · rw [conclude_exitCode, hcode]
  · rw [conclude_exitCode]
    cases i.stderr.isBad <;> decide
  · exact conclude_stdout _ _ _
  · exact explainedBy_of_error hparsed fun hpipe _ => conclude_stderr _ _ _ hpipe

theorem promised_of_version (hfilter : i.filter? = .ok filter) (hparsed : i.parsed = .error f)
    (hkind : f.cause.kind = .displayVersion) : i.Promised := by
  have hcode : i.promisedExitCode = 0 := by
    rw [promisedExitCode, hparsed]
    simp only [hkind]
  have hrun := run_of_error hfilter hparsed
  rw [explain_version hkind] at hrun
  have hversion : Utf8.encode Help.version.plain ≠ [] := by decide
  refine ⟨?_, ?_, ?_, ?_⟩
  · rw [hrun, hcode]
    rfl
  · intro hpipe
    rw [hrun, outcome_stdout _ _ _ _ hpipe]
    exact ⟨fun _ => rfl, fun _ => hversion⟩
  · intro hpipe _
    exact Or.inl ⟨f, hparsed, hkind, by rw [hrun, outcome_stdout _ _ _ _ hpipe]⟩
  · intro _ _ g hg hother
    rw [hparsed] at hg
    rw [← Except.error.inj hg] at hother
    exact absurd hkind hother

theorem coloursMessages_of_unforced {env : Environment}
    (h : env.value? Environment.forceColour = none) : env.coloursMessages = false := by
  rw [Environment.coloursMessages, Environment.isPresent, Environment.isPresent, h]
  exact Bool.and_false _

theorem promisedExitCode_of_fault (hparsed : i.parsed = .error f)
    (hfault : f.cause.isFault = true) : i.promisedExitCode = 2 := by
  rw [promisedExitCode, hparsed]
  obtain ⟨program, cause⟩ := f
  cases cause with
  | helpRequested form => cases hfault
  | versionRequested => cases hfault
  | unknownArgument shown suggestion => rfl
  | unexpectedValue flag value => rfl

/-- The text about a fault is the plain one exactly if it resumes no sequence. -/
theorem promised_iff_of_fault (hfilter : i.filter? = .ok filter) (hparsed : i.parsed = .error f)
    (hfault : f.cause.isFault = true) :
    i.Promised ↔ (i.stderr = .pipe → i.environment.value? Environment.forceColour = none →
      ¬ Terminal.Resumes f.styled.coloured) := by
  have hrun := run_of_error hfilter hparsed
  rw [explain_fault hfault] at hrun
  constructor
  · intro h hpipe hforce
    have hkind := (f.cause.isFault_iff.mp hfault).2
    have hstderr := h.explained hpipe hforce f hparsed hkind
    rw [hrun, outcome_stderr _ _ _ _ hpipe, coloursMessages_of_unforced hforce] at hstderr
    exact Terminal.filter_eq_strip_iff.mp (Utf8.encode_injective hstderr)
  · intro h
    refine promised_of_silent ?_ ?_ ?_ ?_ <;> rw [hrun]
    · rw [promisedExitCode_of_fault hparsed hfault]
      rfl
    · exact Nat.succ_ne_zero 1
    · exact outcome_stdout_nil _ _ _
    · refine explainedBy_of_error hparsed fun hpipe hforce => ?_
      rw [outcome_stderr _ _ _ _ hpipe, coloursMessages_of_unforced hforce]
      exact congrArg Utf8.encode (Terminal.filter_eq_strip_iff.mpr (h hpipe hforce))

/-- A run that stops at its filter looks like one that could not speak. -/
theorem promised_iff_of_unreadable {e : Log.FilterFault} (h : i.filter? = .error e) :
    i.Promised ↔ i.promisedExitCode = 101 := by
  have hrun := run_of_unreadable h
  constructor
  · intro hpromised
    rw [← hpromised.exitCode, hrun]
    rfl
  · intro hcode
    refine promised_of_silent ?_ ?_ ?_ ?_
    · rw [hrun, hcode]
      rfl
    · rw [hrun]
      exact Nat.succ_ne_zero 100
    · rw [hrun]
      exact i.stop_stdout
    · -- where standard error is a pipe, no failure calls for that exit code
      intro hpipe _ f hparsed _
      rw [promisedExitCode, hparsed] at hcode
      rw [Sink.isBad_eq_false_of_pipe hpipe] at hcode
      cases hkind : f.cause.kind <;> simp [hkind] at hcode

/-- A run that reads its filter comes to what it should if a text about a fault that can be read, and
is not to be coloured, resumes no sequence. -/
theorem promised_iff_of_ok (hfilter : i.filter? = .ok filter) :
    i.Promised ↔ (i.stderr = .pipe → i.environment.value? Environment.forceColour = none →
      ∀ f, i.parsed = .error f → f.cause.isFault = true →
        ¬ Terminal.Resumes f.styled.coloured) := by
  cases hparsed : i.parsed with
  | ok a =>
    apply iff_of_true (promised_of_ok hfilter hparsed)
    intro _ _ f hf
    cases hf
  | error f =>
    cases hfault : f.cause.isFault with
    | true =>
      rw [promised_iff_of_fault hfilter hparsed hfault]
      constructor
      · intro h hpipe hforce g hg _
        rw [← Except.error.inj hg]
        exact h hpipe hforce
      · exact fun h hpipe hforce => h hpipe hforce f rfl hfault
    | false =>
      have hpromised : i.Promised := by
        rcases f.cause.kind_of_not_isFault hfault with hkind | hkind
        · exact promised_of_help hfilter hparsed hkind
        · exact promised_of_version hfilter hparsed hkind
      apply iff_of_true hpromised
      intro _ _ g hg hg'
      rw [← Except.error.inj hg, hfault] at hg'
      cases hg'

/-- **A run with an aligned filter that greets comes to what it should**, whatever the ends of its
streams are. -/
theorem promised_of_isAligned
    (h : Log.Filter.IsAligned (i.environment.value? Environment.logFilter))
    (hparsed : i.parsed = .ok a) : i.Promised := by
  obtain ⟨filter, hfilter⟩ := exists_filter_of_isAligned h
  exact promised_of_ok hfilter hparsed

/-- **When a run comes to what it should**: the filter can be cut where its parts end, or the exit
code should be 101 anyway; and a text about a fault that can be read, and is not to be coloured,
resumes no sequence. -/
theorem promised_iff (i : Invocation) :
    i.Promised
      ↔ ((∃ filter, i.filter? = .ok filter) ∨ i.promisedExitCode = 101)
        ∧ (i.stderr = .pipe → i.environment.value? Environment.forceColour = none →
            ∀ f, i.parsed = .error f → f.cause.isFault = true →
              ¬ Terminal.Resumes f.styled.coloured) := by
  cases hfilter : i.filter? with
  | error e =>
    rw [promised_iff_of_unreadable hfilter]
    constructor
    · intro hcode
      refine ⟨Or.inr hcode, fun _ _ f hparsed hfault => ?_⟩
      rw [promisedExitCode_of_fault hparsed hfault] at hcode
      exact absurd hcode (by decide)
    · rintro ⟨⟨filter, h⟩ | hcode, -⟩
      · cases h
      · exact hcode
  | ok filter =>
    rw [promised_iff_of_ok hfilter]
    exact (and_iff_right (Or.inl ⟨filter, rfl⟩)).symm

/-- An invocation whose filter has a blank in front of a character beyond ASCII. -/
def withShiftedFilter : Invocation where
  program := Utf8.encode ProgramName.default
  arguments := [Utf8.encode "Alice".toList]
  environment := [(Environment.logFilter, Utf8.encode " é=debug".toList)]
  stderr := .readOnly
  time := []

/-- An invocation whose fault is told by a text that resumes a sequence. -/
def withResumedSequence : Invocation where
  program := Utf8.encode ProgramName.default
  arguments := [Utf8.encode "--help=\x1b[\n\x01abc".toList]
  time := []

/-- Both exceptions occur: a greeting that ends with the exit code 101 though every stream takes
what it is given, and a message that lacks a letter of the plain one. -/
theorem not_promised_of_exceptions :
    ¬ withShiftedFilter.Promised ∧ ¬ withResumedSequence.Promised := by
  constructor
  · intro h
    have hexit : withShiftedFilter.run.exitCode = 101 := by decide +kernel
    have hpromised : withShiftedFilter.promisedExitCode = 0 := by decide +kernel
    have hequal := h.exitCode
    rw [hexit, hpromised] at hequal
    cases hequal
  · intro h
    have hparsed : withResumedSequence.parsed = .error ⟨ProgramName.default,
        .unexpectedValue .help "\x1b[\n\x01abc".toList⟩ := by decide +kernel
    have hstderr := h.explained rfl rfl _ hparsed (by decide)
    revert hstderr
    decide +kernel

end Invocation

end Salutation
