import Salutation.Proofs.Log.Line
import Salutation.Proofs.Program.Indifference

/-!
# The log of a run

A run that greets logs the messages that its filter enables, in order, one line for each
(`run_stderr_of_ok`); a failed delivery adds its report.  A run whose command line is not accepted
tells of the failure instead (`run_stderr_of_failure`), and one whose filter is misaligned leaves
the notice of its surroundings and nothing else (`run_stderr_of_unreadable`).

Names do not change that.  Where both streams are pipes, `Account` says what standard error holds,
line by line, and that every line tells the name that is greeted; a run that greets keeps that
exactly if it reads its filter (`account_iff`).
-/

namespace Salutation

open Log (Event)

/-- The messages of a run say nothing concealed, whatever the name is. -/
theorem visible_said {a : Arguments} {e : Event} (he : e ∈ Invocation.events a) :
    Visible e.said := by
  rcases List.mem_pair.mp he with rfl | rfl
  · have hfront : Visible Event.beforeQuotedName := visible_of_any (by decide)
    have hname : Visible (Quoted.escapeAll '"' a.name) :=
      fun c hc => Quoted.isConcealed_of_mem_escapeAll (Or.inl rfl) hc
    have hback : Visible ['"'] := visible_of_any (by decide)
    rw [Event.said_greetingPerson, visible_append, visible_append]
    exact ⟨hfront, hname, hback⟩
  · have hfront : Visible Event.beforeGreeting := visible_of_any (by decide)
    rw [Event.said_writingGreeting, visible_append]
    exact ⟨hfront, fun c hc => a.isConcealed_of_mem_greeting hc⟩

/-- Both messages tell the name. -/
theorem nameTold?_of_mem_events {a : Arguments} {e : Event} (he : e ∈ Invocation.events a)
    (time : Text) :
    Event.nameTold? time (time ++ (" DEBUG ".toList ++ e.said)) = some a.name := by
  rcases List.mem_pair.mp he with rfl | rfl
  · exact Event.nameTold?_greetingPerson time a.name
  · rw [Event.nameTold?_writingGreeting, a.nameIn?_greeting]

namespace Invocation

variable {i : Invocation} {a : Arguments} {f : ParseFailure} {filter : Log.Filter}

/-! ### What is logged -/

/-- **The messages that are logged** when the arguments are greeted.  A filter that cannot be read
enables none. -/
def enabledEvents (i : Invocation) (a : Arguments) : List Event :=
  match i.filter? with
  | .ok filter => (events a).filter filter.enables
  | .error _ => []

/-- A message as it is written, without the line feed. -/
def written (i : Invocation) (e : Event) : Text :=
  if i.environment.coloursLog then (e.lineFront i.time).coloured else (e.lineFront i.time).bare

/-- The lines of the log, without their line feeds. -/
def logLines (i : Invocation) (a : Arguments) : List Text := (i.enabledEvents a).map i.written

theorem enabledEvents_of_ok (hfilter : i.filter? = .ok filter) :
    i.enabledEvents a = (events a).filter filter.enables := by
  rw [enabledEvents, hfilter]

/-- Only the two messages are logged, each at most once and in this order. -/
theorem enabledEvents_sublist (i : Invocation) (a : Arguments) :
    (i.enabledEvents a).Sublist [.greetingPerson a.name, .writingGreeting a.greeting] := by
  unfold enabledEvents
  cases i.filter? with
  | error e => exact List.nil_sublist _
  | ok filter => exact List.filter_sublist

theorem mem_events_of_mem_enabledEvents {e : Event} (he : e ∈ i.enabledEvents a) : e ∈ events a :=
  (i.enabledEvents_sublist a).subset he

/-- The log is the written messages, each ended by a line feed. -/
theorem log_eq_lines (hfilter : i.filter? = .ok filter) :
    i.log filter a = (i.logLines a).flatMap (· ++ ['\n']) := by
  rw [log, logLines, enabledEvents_of_ok hfilter, List.flatMap_map]
  refine List.flatMap_congr fun e _ => ?_
  have hcoloured : (e.line i.time).coloured = (e.lineFront i.time).coloured ++ ['\n'] := by
    rw [Event.line_eq_append, Terminal.Styled.coloured, List.flatMap_append]
    rfl
  have hbare : (e.line i.time).bare = (e.lineFront i.time).bare ++ ['\n'] := by
    rw [Event.line_eq_append, Terminal.Styled.bare, List.flatMap_append]
    rfl
  show (if _ then (e.line i.time).coloured else (e.line i.time).bare) = i.written e ++ ['\n']
  rw [hcoloured, hbare, written]
  split <;> rfl

/-- What standard error gets behind the log: the report of a delivery that failed. -/
def epilogue (i : Invocation) (a : Arguments) : Text :=
  match (a.deliver i.stdout.stream).failure with
  | none => []
  | some e => report e

/-- **What a run that greets says**: its log, and the report of a delivery that failed. -/
theorem run_stderr_of_ok (hpipe : i.stderr = .pipe) (hfilter : i.filter? = .ok filter)
    (hparsed : i.parsed = .ok a) :
    i.run.stderr
      = Utf8.encode ((i.logLines a).flatMap (· ++ ['\n']) ++ i.epilogue a) := by
  have hheard := heard_of_good (Sink.isBad_eq_false_of_pipe hpipe) filter a
  rw [run_of_ok hfilter hparsed, greet_of_heard hheard, epilogue, log_eq_lines hfilter]
  cases (a.deliver i.stdout.stream).failure with
  | none =>
    rw [List.append_nil]
    exact outcome_stderr _ _ _ _ hpipe
  | some e => exact conclude_stderr _ _ _ hpipe

theorem epilogue_of_good (h : i.stdout.isBad = false) : i.epilogue a = [] := by
  rw [epilogue, Sink.stream_of_good h, a.deliver_default]

/-- What a run says of a command line that is not accepted, if it gets that far.  The environment
decides about the colours of a fault. -/
def told (i : Invocation) (f : ParseFailure) : Text :=
  match f.cause.kind with
  | .displayHelp => f.styled.plain
  | .displayVersion => []
  | .tooManyValues | .unknownArgument =>
    if i.environment.coloursMessages then f.styled.coloured else Terminal.filter f.styled.coloured

theorem told_of_fault (hfault : f.cause.isFault = true) :
    i.told f = if i.environment.coloursMessages then f.styled.coloured
      else Terminal.filter f.styled.coloured := by
  obtain ⟨hhelp, hversion⟩ := f.cause.isFault_iff.mp hfault
  unfold told
  cases hkind : f.cause.kind with
  | displayHelp => exact absurd hkind hhelp
  | displayVersion => exact absurd hkind hversion
  | tooManyValues => rfl
  | unknownArgument => rfl

/-- **What a run that reads its filter says of a command line that is not accepted.** -/
theorem run_stderr_of_failure (hpipe : i.stderr = .pipe) (hfilter : i.filter? = .ok filter)
    (hparsed : i.parsed = .error f) : i.run.stderr = Utf8.encode (i.told f) := by
  rw [run_of_error hfilter hparsed]
  cases hfault : f.cause.isFault with
  | true => rw [explain_fault hfault, outcome_stderr _ _ _ _ hpipe, told_of_fault hfault]
  | false =>
    rcases f.cause.kind_of_not_isFault hfault with hkind | hkind
    · rw [explain_help hkind, conclude_stderr _ _ _ hpipe, told, hkind]
    · rw [explain_version hkind, outcome_stderr _ _ _ _ hpipe, told, hkind]

/-- **A run that stops at its filter leaves the notice.** -/
theorem run_stderr_of_unreadable {e : Log.FilterFault} (hpipe : i.stderr = .pipe)
    (hfilter : i.filter? = .error e) : i.run.stderr = Utf8.encode i.notice.text := by
  rw [run_of_unreadable hfilter]
  exact outcome_stderr _ _ _ _ hpipe

/-- What standard error gets of a run whose command line is not accepted: what is told of the
failure, or the notice, if the run does not get that far. -/
def refusal (i : Invocation) (f : ParseFailure) : Text :=
  match i.filter? with
  | .ok _ => i.told f
  | .error _ => i.notice.text

/-- **A run whose command line is not accepted logs nothing**: what it says is one text at all
times. -/
theorem run_stderr_of_error (hpipe : i.stderr = .pipe) (hparsed : i.parsed = .error f)
    (time : Text) : (i.atTime time).run.stderr = Utf8.encode (i.refusal f) := by
  unfold refusal
  cases hfilter : i.filter? with
  | error e => exact run_stderr_of_unreadable (i := i.atTime time) hpipe hfilter
  | ok filter =>
    -- the environment decides about colours, at all times alike
    exact run_stderr_of_failure (i := i.atTime time) hpipe hfilter hparsed

/-! ### The lines are those of the messages -/

section Lines

variable (htime : Visible i.time)

include htime

theorem strip_written {e : Event} (he : e ∈ events a) :
    Terminal.strip (i.written e) = i.time ++ (" DEBUG ".toList ++ e.said) := by
  unfold written
  split
  · exact Event.strip_coloured_lineFront htime (visible_said he)
  · exact Event.strip_bare_lineFront htime (visible_said he)

theorem lineFeed_not_mem_written {e : Event} (he : e ∈ events a) : '\n' ∉ i.written e := by
  unfold written
  split
  · exact Event.lineFeed_not_mem_coloured_lineFront htime (visible_said he)
  · exact (Event.visible_bare_lineFront htime (visible_said he)).lineFeed_not_mem

theorem lineFeed_not_mem_of_mem_logLines {l : Text} (hl : l ∈ i.logLines a) : '\n' ∉ l := by
  obtain ⟨e, he, rfl⟩ := List.mem_map.mp hl
  exact lineFeed_not_mem_written htime (mem_events_of_mem_enabledEvents he)

theorem strip_logLines :
    (i.logLines a).map Terminal.strip
      = (i.enabledEvents a).map fun e => i.time ++ (" DEBUG ".toList ++ e.said) := by
  rw [logLines, List.map_map]
  exact List.map_congr_left fun e he =>
    strip_written htime (mem_events_of_mem_enabledEvents he)

theorem nameTold?_of_mem_logLines {l : Text} (hl : l ∈ i.logLines a) :
    Event.nameTold? i.time (Terminal.strip l) = some a.name := by
  obtain ⟨e, he, rfl⟩ := List.mem_map.mp hl
  have hevent := mem_events_of_mem_enabledEvents he
  rw [strip_written htime hevent, nameTold?_of_mem_events hevent]

end Lines

/-- **What the log of a greeting holds.** -/
structure Account (i : Invocation) (a : Arguments) : Prop where
  /-- Only the two messages are logged, each at most once and in this order. -/
  events_sublist :
    (i.enabledEvents a).Sublist [.greetingPerson a.name, .writingGreeting a.greeting]
  /-- Standard error holds a line for each message that is logged, and nothing else. -/
  stderr_eq : i.run.stderr = Utf8.encode ((i.logLines a).flatMap (· ++ ['\n']))
  /-- Cut at its line feeds, it has just these lines, and nothing behind the last line feed. -/
  lines_eq : i.run.stderr.splitOn lineFeed = (i.logLines a).map Utf8.encode ++ [[]]
  /-- Without its colours a line is the time, the level and what the message says. -/
  strip_eq : (i.logLines a).map Terminal.strip
    = (i.enabledEvents a).map fun e => i.time ++ (" DEBUG ".toList ++ e.said)
  /-- Every line tells the name that is greeted. -/
  names_eq : ∀ l ∈ i.logLines a, Event.nameTold? i.time (Terminal.strip l) = some a.name
  /-- Where anything is logged, standard output holds the greeting that the log speaks of. -/
  stdout_eq : i.enabledEvents a ≠ [] → i.run.stdout = Utf8.encode (a.greeting ++ ['\n'])

section Account

variable (htime : Visible i.time) (hstdout : i.stdout = .pipe) (hstderr : i.stderr = .pipe)
  (hparsed : i.parsed = .ok a)

include htime hstdout hstderr hparsed

theorem account_of_readsFilter (h : i.ReadsFilter) : i.Account a := by
  obtain ⟨filter, hfilter⟩ := h
  have hgood : i.stdout.isBad = false := Sink.isBad_eq_false_of_pipe hstdout
  have hrun : i.run.stderr = Utf8.encode ((i.logLines a).flatMap (· ++ ['\n'])) := by
    rw [run_stderr_of_ok hstderr hfilter hparsed, epilogue_of_good hgood, List.append_nil]
  refine ⟨i.enabledEvents_sublist a, hrun, ?_, strip_logLines htime,
    fun l hl => nameTold?_of_mem_logLines htime hl, fun _ => ?_⟩
  · rw [hrun]
    exact Utf8.splitOn_encode_lines fun l hl => lineFeed_not_mem_of_mem_logLines htime hl
  · have hheard := heard_of_good (Sink.isBad_eq_false_of_pipe hstderr) filter a
    rw [run_of_ok hfilter hparsed, greet_of_good hheard hgood, outcome_stdout _ _ _ _ hstdout]
    rfl

/-- **When the log of a greeting holds what it should**: exactly if the filter is read.  Otherwise
nothing is logged, but the notice is there. -/
theorem account_iff : i.Account a ↔ i.ReadsFilter := by
  refine ⟨fun haccount => ?_, account_of_readsFilter htime hstdout hstderr hparsed⟩
  cases hfilter : i.filter? with
  | ok filter => exact ⟨filter, hfilter⟩
  | error e =>
    have hnone : i.logLines a = [] := by
      rw [logLines, enabledEvents, hfilter]
      rfl
    have hnotice := haccount.stderr_eq
    rw [run_stderr_of_unreadable hstderr hfilter, hnone] at hnotice
    exact absurd (Utf8.encode_injective hnotice) i.notice.text_ne_nil

end Account

end Invocation

end Salutation
