import Salutation.Proofs.Program.Outcome

/-!
# What a run does not depend on

* Words that are not used do not matter: command lines that begin alike (`SameLead`) give runs with
  the same exit code and the same output, and what they say on standard error differs in nothing but
  the time (`run_of_sameLead`).
* Diagnostics do not matter to the result: where standard error refuses nothing, the environment,
  the end of standard error and the time have no part in the exit code and in what standard output
  gets, as long as the filter of the log can be cut where its parts end (`result_eq_iff`), as those
  that are aligned can (`result_eq_of_isAligned`).  Any other filter stops the program, and so it
  shows in the result (`result_withShiftedFilter_ne`).

The first goes through what is made of a command line: the name, or a failure
(`Arguments.parse_of_sameLead`), which is all that a run takes from it (`run_congr`); and through
the places where the time stands in the log (`Log.Template`, `run_timeless`).  The second compares
each run with a result that is made without diagnostics (`undisturbed`).
-/

namespace Salutation

/-- Two results whose values are alike under a function are both failures, the same one, or both
successes, with values that the function makes the same. -/
private theorem alike_of_map_eq {ε α β : Type} {f : α → β} {r r' : Except ε α}
    (h : r.map f = r'.map f) :
    (∃ e, r = .error e ∧ r' = .error e) ∨ ∃ x y, r = .ok x ∧ r' = .ok y ∧ f x = f y := by
  cases r with
  | error e =>
    cases r' with
    | error e' => exact Or.inl ⟨e, rfl, congrArg Except.error (Except.error.inj h).symm⟩
    | ok y => cases h
  | ok x =>
    cases r' with
    | error e' => cases h
    | ok y => exact Or.inr ⟨x, y, rfl, rfl, Except.ok.inj h⟩

/-! ### The words that count -/

/-- Whether two lists of words begin alike: with the same word, or both with none; and behind a
separator with the same second word, or both with none. -/
def SameLead (ws ws' : List Bytes) : Prop :=
  ws.head? = ws'.head? ∧ (ws.head? = some separator → ws[1]? = ws'[1]?)

theorem Token.eq_separator_of_ofBytes {w : Bytes} (h : ofBytes w = .separator) :
    w = Salutation.separator := by
  rcases word_cases w with hw | hw | ⟨b, rest, hb, rfl⟩ | ⟨name, hname, heq, rfl⟩
      | ⟨name, value, heq, rfl⟩
  · rw [ofBytes_of_plain hw] at h
    cases h
  · exact hw
  · rw [ofBytes_cluster hb] at h
    cases h
  · rw [ofBytes_long hname, ofLong_of_not_mem heq] at h
    cases h
  · rw [ofBytes_long (by simp), ofLong_append heq] at h
    cases h

/-- The words of two lists that begin alike are refused for the same reason, or begin alike. -/
theorem CommandLine.scan_of_sameLead {ws ws' : List Bytes} (h : SameLead ws ws') :
    (scan .options {} ws).map (fun m => (Arguments.ofMatches m).positionals.head?)
      = (scan .options {} ws').map fun m => (Arguments.ofMatches m).positionals.head? := by
  obtain ⟨hfirst, hsecond⟩ := h
  cases ws with
  | nil =>
    rw [List.head?_eq_none_iff.mp hfirst.symm]
  | cons w ws =>
    obtain ⟨ws', rfl⟩ := List.head?_eq_some_iff.mp hfirst.symm
    -- the first word decides how the others are read, and the second counts behind a separator only
    rw [scan, scan]
    cases htoken : Token.ofBytes w with
    | separator =>
      have hnext : ws.head? = ws'.head? := by
        have hseparator := congrArg some (Token.eq_separator_of_ofBytes htoken)
        simpa [List.head?_eq_getElem?] using hsecond hseparator
      simp only [scan_wordsOnly, Except.map, ofMatches_foldl_take, hnext]
    | word =>
      simp only [scan_wordsOnly, Except.map, ← List.foldl_cons, ofMatches_foldl_take,
        List.head?_cons]
    | long name value => rfl
    | cluster letters => rfl

namespace Arguments

theorem name_congr {a b : Arguments} (h : a.positionals.head? = b.positionals.head?) :
    a.name = b.name := by
  obtain ⟨ws⟩ := a
  obtain ⟨ws'⟩ := b
  cases ws <;> cases ws' <;> cases h <;> rfl

/-- **Command lines that begin alike** give the same name, or fail alike. -/
theorem parse_of_sameLead (program : Bytes) {ws ws' : List Bytes} (h : SameLead ws ws') :
    (parse (program :: ws)).map name = (parse (program :: ws')).map name := by
  have hscan := CommandLine.scan_of_sameLead h
  rw [parse, parse, CommandLine.read, CommandLine.read, List.tail_cons, List.tail_cons]
  rcases alike_of_map_eq hscan with ⟨e, he, he'⟩ | ⟨m, m', hm, hm', hhead⟩
  · rw [he, he']
    rfl
  · rw [hm, hm']
    exact congrArg Except.ok (name_congr hhead)

theorem deliver_congr {a b : Arguments} (h : a.name = b.name) (stream : Script) :
    a.deliver stream = b.deliver stream := by
  rw [deliver, deliver, greetingParts, greetingParts, greeting_inj.mpr h]

end Arguments

/-! ### Where the time stands -/

namespace Log

open Terminal

/-- A text with places for the time: each part is a text of its own, or such a place. -/
abbrev Template := List (Option Text)

/-- The text with the time put in its places. -/
def Template.fill (time : Text) (t : Template) : Text := t.flatMap (·.getD time)

theorem Template.fill_append (time : Text) (t u : Template) :
    (t ++ u).fill time = t.fill time ++ u.fill time := List.flatMap_append

theorem Template.fill_text (time text : Text) : fill time [some text] = text :=
  List.append_nil text

namespace Event

variable (e : Event) (time : Text)

/-- What a line holds behind the time. -/
def lineRest : Styled := (e.line []).tail

theorem line_eq : e.line time = ⟨.dim, time⟩ :: e.lineRest := rfl

/-- A line without its time, with colours or without. -/
def template (coloured : Bool) : Template :=
  if coloured then [some (rendition 2), none, some (rendition 0 ++ e.lineRest.coloured)]
  else [none, some e.lineRest.bare]

theorem fill_template (coloured : Bool) :
    (e.template coloured).fill time
      = if coloured then (e.line time).coloured else (e.line time).bare := by
  rw [line_eq]
  cases coloured with
  | true =>
    have htime : (⟨.dim, time⟩ : Span).coloured = rendition 2 ++ time ++ rendition 0 := rfl
    simp [template, Template.fill, Styled.coloured, htime]
  | false => simp [template, Template.fill, Styled.bare]

end Event

end Log

namespace Invocation

open Log (Template)

section Time

variable (i : Invocation) (filter : Log.Filter) (a : Arguments) (f : ParseFailure) (time : Text)

/-- The invocation at another time. -/
def atTime : Invocation := { i with time }

theorem atTime_stdout : (i.atTime time).stdout = i.stdout := rfl

/-- The lines that a filter lets through, without their times. -/
def logTemplate : Template :=
  ((events a).filter filter.enables).flatMap (·.template i.environment.coloursLog)

theorem fill_logTemplate :
    (i.logTemplate filter a).fill time = (i.atTime time).log filter a := by
  simp only [logTemplate, Template.fill, List.flatMap_assoc, log]
  exact List.flatMap_congr fun e _ => e.fill_template time _

/-- Whether there is one outcome for all times, but for the places where the time stands. -/
def Timeless (outcomeAt : Text → Outcome) : Prop :=
  ∃ (code : Nat) (stdout : Bytes) (said : Template), ∀ time,
    outcomeAt time = i.outcome code stdout (said.fill time)

theorem outcome_timeless (code : Nat) (stdout : Bytes) (stderr : Text) :
    i.Timeless fun time => (i.atTime time).outcome code stdout stderr := by
  refine ⟨code, stdout, [some stderr], fun time => ?_⟩
  rw [Template.fill_text]
  rfl

theorem stop_timeless : i.Timeless fun time => (i.atTime time).stop :=
  i.outcome_timeless stopped [] i.notice.text

theorem conclude_timeless (code : Nat) (stderr : Text) :
    i.Timeless fun time => (i.atTime time).conclude code stderr := by
  cases hbad : i.stderr.isBad with
  | true =>
    have hconclude (time : Text) := (i.atTime time).conclude_of_bad code stderr hbad
    simp only [hconclude]
    exact i.stop_timeless
  | false =>
    have hconclude (time : Text) := (i.atTime time).conclude_of_good code stderr hbad
    simp only [hconclude]
    exact i.outcome_timeless _ _ _

theorem explain_timeless : i.Timeless fun time => (i.atTime time).explain f := by
  cases hfault : f.cause.isFault with
  | true =>
    -- whether the text is coloured depends on the environment, which has no time
    have hexplain (time : Text) := explain_fault (i := i.atTime time) hfault
    simp only [hexplain]
    exact i.outcome_timeless 2 [] (if i.environment.coloursMessages then _ else _)
  | false =>
    rcases f.cause.kind_of_not_isFault hfault with hkind | hkind
    · have hexplain (time : Text) := explain_help (i := i.atTime time) hkind
      simp only [hexplain]
      exact i.conclude_timeless _ _
    · have hexplain (time : Text) := explain_version (i := i.atTime time) hkind
      simp only [hexplain]
      exact i.outcome_timeless _ _ _

/-- Of what a greeting comes to, only the log has the time. -/
theorem greet_timeless : i.Timeless fun time => (i.atTime time).greet filter a := by
  by_cases hheard : (i.stderr.isBad && (events a).any filter.enables) = true
  · -- whether a line is refused depends on there being one, not on what it says
    obtain ⟨hbad, hlogs⟩ := Bool.and_eq_true _ _ ▸ hheard
    have hgreet (time : Text) :
        (i.atTime time).greet filter a = (i.atTime time).stop :=
      greet_of_silenced hbad hlogs
    simp only [hgreet]
    exact i.stop_timeless
  · -- the stream of standard output does not know the time, so it answers the same at all times
    have hgreet (time : Text) := greet_of_heard (i := i.atTime time) hheard
    simp only [atTime_stdout] at hgreet
    cases hfailure : (a.deliver i.stdout.stream).failure with
    | none =>
      refine ⟨0, (a.deliver i.stdout.stream).written, i.logTemplate filter a, fun time => ?_⟩
      simp only [hgreet, hfailure, fill_logTemplate]
      rfl
    | some e =>
      cases hbad : i.stderr.isBad with
      | true =>
        have hconclude (time : Text) (t : Text) := (i.atTime time).conclude_of_bad 1 t hbad
        simp only [hgreet, hfailure, hconclude]
        exact i.stop_timeless
      | false =>
        have hconclude (time : Text) (t : Text) := (i.atTime time).conclude_of_good 1 t hbad
        refine ⟨1, [], i.logTemplate filter a ++ [some (report e)], fun time => ?_⟩
        simp only [hgreet, hfailure, hconclude, Template.fill_append, Template.fill_text,
          fill_logTemplate]
        rfl

/-- **A run comes to the same at all times**, but for the places where the time stands. -/
theorem run_timeless : i.Timeless fun time => (i.atTime time).run := by
  cases hfilter : i.filter? with
  | error e =>
    have hrun (time : Text) : (i.atTime time).run = (i.atTime time).stop :=
      run_of_unreadable hfilter
    simp only [hrun]
    exact i.stop_timeless
  | ok filter =>
    cases hparsed : i.parsed with
    | error f =>
      have hrun (time : Text) : (i.atTime time).run = (i.atTime time).explain f :=
        run_of_error hfilter hparsed
      simp only [hrun]
      exact i.explain_timeless f
    | ok a =>
      have hrun (time : Text) : (i.atTime time).run = (i.atTime time).greet filter a :=
        run_of_ok hfilter hparsed
      simp only [hrun]
      exact i.greet_timeless filter a

end Time

/-! ### Words that are not used -/

section Words

variable (i : Invocation)

theorem log_congr (filter : Log.Filter) {a b : Arguments} (h : a.name = b.name) :
    i.log filter a = i.log filter b := by
  rw [log, log, events, events, Arguments.greeting_inj.mpr h, h]

theorem greet_congr (filter : Log.Filter) {a b : Arguments} (h : a.name = b.name) :
    i.greet filter a = i.greet filter b := by
  rw [greet, greet, i.log_congr filter h, Arguments.deliver_congr h]

/-- A run takes nothing from its words but the name, or the failure. -/
theorem run_congr {ws ws' : List Bytes}
    (h : (Arguments.parse (i.program :: ws)).map Arguments.name
      = (Arguments.parse (i.program :: ws')).map Arguments.name) :
    { i with arguments := ws }.run = { i with arguments := ws' }.run := by
  unfold run
  cases Log.Filter.ofVariable (i.environment.value? Environment.logFilter) with
  | error e => rfl
  | ok filter =>
    simp only
    -- a failure is explained and a name is greeted; neither goes back to the words
    rcases alike_of_map_eq h with ⟨f, hf, hf'⟩ | ⟨a, b, ha, hb, hname⟩
    · simp only [hf, hf']
      rfl
    · simp only [ha, hb]
      exact i.greet_congr filter hname

/-- **Words that are not used do not matter**: of two lists that begin alike come the same exit code
and the same output, and on standard error the same text with the time in the same places. -/
theorem run_of_sameLead {ws ws' : List Bytes} (h : SameLead ws ws') :
    ∃ (code : Nat) (stdout : Bytes) (said : Template), ∀ time,
      { i with arguments := ws, time }.run = i.outcome code stdout (said.fill time)
        ∧ { i with arguments := ws', time }.run = i.outcome code stdout (said.fill time) := by
  obtain ⟨code, stdout, said, hsaid⟩ := run_timeless { i with arguments := ws }
  refine ⟨code, stdout, said, fun time => ⟨hsaid time, ?_⟩⟩
  have hsame := (i.atTime time).run_congr (Arguments.parse_of_sameLead i.program h)
  exact hsame.symm.trans (hsaid time)

/-- An invocation that logs, with a separator in front of the name and words behind it. -/
def withSeparator (rest : List Bytes) : Invocation where
  program := Utf8.encode ProgramName.default
  arguments := separator :: Utf8.encode "Alice".toList :: rest
  environment := [(Environment.logFilter, Utf8.encode "debug".toList)]
  time := []

/-- Behind the name, a flag, a second separator, a byte that begins no character and an empty word
do not matter. -/
theorem run_withSeparator :
    SameLead (withSeparator []).arguments
        (withSeparator [Utf8.encode "--help".toList, separator, [0xFF], []]).arguments
      ∧ (withSeparator []).run
        = (withSeparator [Utf8.encode "--help".toList, separator, [0xFF], []]).run := by
  have hlead : SameLead (withSeparator []).arguments
      (withSeparator [Utf8.encode "--help".toList, separator, [0xFF], []]).arguments :=
    ⟨rfl, fun _ => rfl⟩
  obtain ⟨code, stdout, said, hsaid⟩ := (withSeparator []).run_of_sameLead hlead
  exact ⟨hlead, (hsaid []).1.trans (hsaid []).2.symm⟩

end Words

end Invocation

/-! ### What diagnostics have to do with the result -/

/-- What others go by: the exit code and what standard output gets. -/
def Outcome.result (o : Outcome) : Nat × Bytes := (o.exitCode, o.stdout)

namespace Invocation

/-- Whether two invocations ask for the same: the same words behind the same path, with standard
output ending alike. -/
structure SameTask (i j : Invocation) : Prop where
  program : i.program = j.program
  arguments : i.arguments = j.arguments
  stdout : i.stdout = j.stdout

/-- Whether the filter of the log can be cut where its parts end. -/
def ReadsFilter (i : Invocation) : Prop := ∃ filter, i.filter? = .ok filter

/-- **The result that is made without diagnostics.** -/
def undisturbed (i : Invocation) : Nat × Bytes :=
  match i.parsed with
  | .error f =>
    if f.cause.kind = .displayVersion then
      (0, i.stdout.captured (Utf8.encode Help.version.plain))
    else (2, [])
  | .ok a =>
    if i.stdout.isBad then (1, []) else (0, i.stdout.captured (Utf8.encode a.greetingLine))

section Result

variable {i j : Invocation}

theorem SameTask.undisturbed_eq (h : SameTask i j) : i.undisturbed = j.undisturbed := by
  have hparsed : i.parsed = j.parsed := by
    rw [parsed, parsed, h.program, h.arguments]
  rw [undisturbed, undisturbed, hparsed, h.stdout]

theorem undisturbed_exitCode_ne_stopped : i.undisturbed.1 ≠ stopped := by
  unfold undisturbed
  split <;> split_ifs <;> simp [stopped]

theorem result_outcome (code : Nat) (stdout : Bytes) (stderr : Text) :
    (i.outcome code stdout stderr).result = (code, i.stdout.captured stdout) := rfl

theorem result_conclude (hstderr : i.stderr.isBad = false) (code : Nat) (stderr : Text) :
    (i.conclude code stderr).result = (code, []) := by
  rw [i.conclude_of_good _ _ hstderr, result_outcome]
  exact congrArg (Prod.mk code) (ite_self _)

theorem result_explain (hstderr : i.stderr.isBad = false) {f : ParseFailure}
    (hparsed : i.parsed = .error f) : (i.explain f).result = i.undisturbed := by
  rw [undisturbed, hparsed]
  cases hfault : f.cause.isFault with
  | true =>
    rw [explain_fault hfault, result_outcome]
    simp only [(f.cause.isFault_iff.mp hfault).2, if_false]
    exact congrArg (Prod.mk 2) (ite_self _)
  | false =>
    rcases f.cause.kind_of_not_isFault hfault with hkind | hkind
    · rw [explain_help hkind, result_conclude hstderr]
      simp [hkind]
    · rw [explain_version hkind, result_outcome]
      simp [hkind]

theorem result_greet (hstderr : i.stderr.isBad = false) (filter : Log.Filter) {a : Arguments}
    (hparsed : i.parsed = .ok a) : (i.greet filter a).result = i.undisturbed := by
  have hheard := heard_of_good hstderr filter a
  rw [undisturbed, hparsed]
  -- the lines of the log are written, or not, before the greeting, and change nothing about it
  cases hstdout : i.stdout.isBad with
  | false =>
    rw [greet_of_good hheard hstdout]
    rfl
  | true =>
    obtain ⟨e, he⟩ := greet_of_bad hheard hstdout
    rw [he, result_conclude hstderr]
    rfl

theorem result_of_readsFilter (hstderr : i.stderr.isBad = false) (h : i.ReadsFilter) :
    i.run.result = i.undisturbed := by
  obtain ⟨filter, hfilter⟩ := h
  cases hparsed : i.parsed with
  | error f => rw [run_of_error hfilter hparsed, result_explain hstderr hparsed]
  | ok a => rw [run_of_ok hfilter hparsed, result_greet hstderr filter hparsed]

theorem result_of_not_readsFilter (h : ¬ i.ReadsFilter) : i.run.result = (stopped, []) := by
  cases hfilter : i.filter? with
  | error e =>
    rw [run_of_unreadable hfilter]
    exact congrArg (Prod.mk stopped) i.stop_stdout
  | ok filter => exact absurd ⟨filter, hfilter⟩ h

theorem result_ne (hi : i.stderr.isBad = false) (h : i.ReadsFilter) (h' : ¬ j.ReadsFilter) :
    i.run.result ≠ j.run.result := by
  rw [result_of_readsFilter hi h, result_of_not_readsFilter h']
  -- no run that reads its filter and can speak has the exit code of one that had to stop
  intro heq
  exact undisturbed_exitCode_ne_stopped (congrArg Prod.fst heq)

/-- **Diagnostics do not touch the result where filters are aligned.** -/
theorem result_eq_of_isAligned (h : SameTask i j) (hi : i.stderr.isBad = false)
    (hj : j.stderr.isBad = false)
    (hfilter : Log.Filter.IsAligned (i.environment.value? Environment.logFilter))
    (hfilter' : Log.Filter.IsAligned (j.environment.value? Environment.logFilter)) :
    i.run.result = j.run.result := by
  rw [result_of_readsFilter hi (exists_filter_of_isAligned hfilter),
    result_of_readsFilter hj (exists_filter_of_isAligned hfilter'), h.undisturbed_eq]

/-- **When diagnostics do not touch the result**: of two invocations that ask for the same, and
whose standard error refuses nothing, come the same exit code and the same output exactly if the
filters of both can be cut where their parts end, or neither can. -/
theorem result_eq_iff (h : SameTask i j) (hi : i.stderr.isBad = false)
    (hj : j.stderr.isBad = false) :
    i.run.result = j.run.result ↔ (i.ReadsFilter ↔ j.ReadsFilter) := by
  by_cases hfilter : i.ReadsFilter <;> by_cases hfilter' : j.ReadsFilter
  · rw [result_of_readsFilter hi hfilter, result_of_readsFilter hj hfilter', h.undisturbed_eq]
    exact iff_of_true rfl (iff_of_true hfilter hfilter')
  · apply iff_of_false (result_ne hi hfilter hfilter')
    exact fun hiff => hfilter' (hiff.mp hfilter)
  · apply iff_of_false (result_ne hj hfilter' hfilter).symm
    exact fun hiff => hfilter (hiff.mpr hfilter')
  · rw [result_of_not_readsFilter hfilter, result_of_not_readsFilter hfilter']
    exact iff_of_true rfl (iff_of_false hfilter hfilter')

/-- The same greeting with a filter that is no text, without colours, where standard error can only
be read. -/
def withUnreadFilter : Invocation :=
  { withSeparator [] with
    environment := [(Environment.logFilter, [0xFF]), (Environment.noColour, [0x31])]
    stderr := .readOnly }

/-- A log that is written and one that is not leave the result alike. -/
theorem result_withUnreadFilter :
    SameTask (withSeparator []) withUnreadFilter
      ∧ (withSeparator []).stderr.isBad = false ∧ withUnreadFilter.stderr.isBad = false
      ∧ (withSeparator []).run.result = withUnreadFilter.run.result := by
  have htask : SameTask (withSeparator []) withUnreadFilter := ⟨rfl, rfl, rfl⟩
  have hreads : (withSeparator []).ReadsFilter := ⟨.ofLevel .debug, by decide +kernel⟩
  have hreads' : withUnreadFilter.ReadsFilter := ⟨.fallback, by decide +kernel⟩
  exact ⟨htask, rfl, rfl, (result_eq_iff htask rfl rfl).mpr (iff_of_true hreads hreads')⟩

/-- The greeting of `withShiftedFilter` without a filter. -/
def withoutFilter : Invocation := { withShiftedFilter with environment := [] }

/-- **Diagnostics may touch the result**: a filter with a blank in front of a character beyond ASCII
takes the greeting away. -/
theorem result_withShiftedFilter_ne :
    SameTask withShiftedFilter withoutFilter
      ∧ withShiftedFilter.stderr.isBad = false ∧ withoutFilter.stderr.isBad = false
      ∧ withShiftedFilter.run.result ≠ withoutFilter.run.result := by
  refine ⟨⟨rfl, rfl, rfl⟩, rfl, rfl, fun hequal => ?_⟩
  have hshifted : withShiftedFilter.run.exitCode = 101 := by decide +kernel
  have hgreeted : withoutFilter.run.exitCode = 0 := by decide +kernel
  have hcodes : withShiftedFilter.run.exitCode = withoutFilter.run.exitCode :=
    congrArg Prod.fst hequal
  rw [hshifted, hgreeted] at hcodes
  cases hcodes

end Result

end Invocation

end Salutation
