import Salutation.Proofs.Log.SimpleDirective
import Salutation.Proofs.Program.Log

/-!
# Which messages a filter selects

Where the filter of the log is a list of simple directives, the directive with the longest target
decides about a message, among those whose target is a beginning of that of the message; of several
with one target it is the last (`Log.Decides`).  A message is logged exactly if there is such a
directive and its level lets the message pass.  Nothing else about the order of the list matters, so
directives with different targets may change places (`Log.Rearranged`).

`Log.settled_rules` goes through the list from its front, as the filter does, and says at every
point which directive decides; the rules of the filter are in order all along (`Log.ranked_rules`).
`Invocation.selection` puts this together with what a run logs.
-/

namespace Salutation

namespace Log

open SimpleDirective (rules)

variable {ds ds' : List SimpleDirective} {d q : SimpleDirective} {t : Text} {e : Event}

/-! ### The directive that decides -/

/-- **The directive that decides about a target**: its own target is a beginning of it, the longest
one of all, and the directive is the last one given for its target. -/
structure Decides (ds : List SimpleDirective) (t : Text) (d : SimpleDirective) : Prop where
  begins : d.target <+: t
  longest : ∀ q ∈ ds, q.target <+: t → q.target.length ≤ d.target.length
  last : (ds.filter (·.target = d.target)).getLast? = some d

namespace Decides

theorem mem (h : Decides ds t d) : d ∈ ds :=
  List.mem_of_mem_filter (List.mem_of_getLast? h.last)

/-- Only one directive decides. -/
theorem unique (h : Decides ds t d) (h' : Decides ds t q) : d = q := by
  have hlength : d.target.length = q.target.length :=
    Nat.le_antisymm (h'.longest d h.mem h.begins) (h.longest q h'.mem h'.begins)
  have htarget : d.target = q.target :=
    (List.prefix_of_prefix_length_le h.begins h'.begins (Nat.le_of_eq hlength)).eq_of_length hlength
  have hlast := h.last
  rw [htarget, h'.last] at hlast
  exact (Option.some.inj hlast).symm

/-- A directive for another target may follow the one that decides, if it does not fit or its target
is shorter. -/
theorem concat (h : Decides ds t d)
    (hq : q.target <+: t → q.target.length < d.target.length) : Decides (ds ++ [q]) t d where
  begins := h.begins
  longest p hp hfits := by
    rcases List.mem_append.mp hp with hp | hp
    · exact h.longest p hp hfits
    · obtain rfl := List.mem_singleton.mp hp
      exact Nat.le_of_lt (hq hfits)
  last := by
    have hother : ¬ q.target = d.target := by
      intro htarget
      have hlt := hq (htarget ▸ h.begins)
      rw [htarget] at hlt
      exact Nat.lt_irrefl _ hlt
    rw [List.filter_append, List.filter_singleton, decide_eq_false hother, Bool.cond_false,
      List.append_nil]
    exact h.last

/-- A directive decides from the end of a list, if no target that fits is longer. -/
theorem concat_self (hbegins : q.target <+: t)
    (hlongest : ∀ p ∈ ds, p.target <+: t → p.target.length ≤ q.target.length) :
    Decides (ds ++ [q]) t q where
  begins := hbegins
  longest p hp hfits := by
    rcases List.mem_append.mp hp with hp | hp
    · exact hlongest p hp hfits
    · rw [List.mem_singleton.mp hp]
  last := by
    rw [List.filter_append, List.filter_singleton, decide_eq_true rfl, Bool.cond_true,
      List.getLast?_concat]

end Decides

/-! ### The rules of a list of simple directives -/

theorem rule_fits_iff : d.rule.fits e = true ↔ d.target <+: e.target := by
  have hfront : d.rule.front = d.target := by
    show d.target?.getD [] = d.target
    unfold SimpleDirective.target?
    split
    · next h => exact h.symm
    · rfl
  rw [Rule.fits_iff_of_plain rfl, hfront]

theorem rank_rule (d : SimpleDirective) :
    d.rule.rank = if d.target.length = 0 then 0 else d.target.length + 1 := by
  have hsize : Utf8.size d.target = d.target.length :=
    Directive.size_eq_length fun c hc => toNat_lt_of_isTargetChar (d.isTargetChar_of_mem c hc)
  by_cases h : d.target = []
  · have htarget : d.rule.target = none := if_pos h
    rw [Rule.rank, htarget, if_pos (List.length_eq_zero_iff.mpr h)]
  · have htarget : d.rule.target = some d.target := if_neg h
    rw [Rule.rank, htarget, if_neg fun hlength => h (List.length_eq_zero_iff.mp hlength)]
    exact congrArg (· + 1) hsize

/-- **The longer target is of the higher rank.** -/
theorem rank_rule_lt_iff : d.rule.rank < q.rule.rank ↔ d.target.length < q.target.length := by
  rw [rank_rule, rank_rule]
  split_ifs <;> omega

theorem rules_concat (ds : List SimpleDirective) (d : SimpleDirective) :
    rules (ds ++ [d]) = Rule.insert d.rule (rules ds) := by
  rw [rules, List.map_append, List.foldl_append]
  rfl

/-- The rules are in order, however many directives have been read. -/
theorem ranked_rules (ds : List SimpleDirective) : Rule.Ranked (rules ds) := by
  induction ds using List.reverseRecOn with
  | nil => exact Rule.Ranked.nil
  | append_singleton ds d ih =>
    rw [rules_concat]
    exact ih.insert rfl

/-- What it means that a rule decides about a message, or none: that its directive does, or that no
directive fits. -/
def Settled (ds : List SimpleDirective) (e : Event) : Option Rule → Prop
  | none => ∀ d ∈ ds, ¬ d.target <+: e.target
  | some r => ∃ d, Decides ds e.target d ∧ d.rule = r

/-- One more directive that does not fit settles nothing else. -/
theorem Settled.concat_of_not_fits {r : Option Rule} (h : Settled ds e r)
    (hd : ¬ d.target <+: e.target) : Settled (ds ++ [d]) e r := by
  cases r with
  | none =>
    intro q hq
    rcases List.mem_append.mp hq with hq | hq
    · exact h q hq
    · rwa [List.mem_singleton.mp hq]
  | some r =>
    obtain ⟨q, hq, hrule⟩ := h
    exact ⟨q, hq.concat fun hfits => absurd hfits hd, hrule⟩

/-- **At every point of the list the first rule that fits is that of the directive that decides.** -/
theorem settled_rules (ds : List SimpleDirective) (e : Event) :
    Settled ds e (Rule.deciding? (rules ds) e) := by
  induction ds using List.reverseRecOn with
  | nil =>
    intro d hd
    cases hd
  | append_singleton ds d ih =>
    rw [rules_concat]
    by_cases hd : d.target <+: e.target
    · rw [Rule.deciding?_insert_of_fits rfl (ranked_rules ds) (rule_fits_iff.mpr hd)]
      cases hr : Rule.deciding? (rules ds) e with
      | none =>
        rw [hr] at ih
        exact ⟨d, .concat_self hd fun q hq hfits => absurd hfits (ih q hq), rfl⟩
      | some r =>
        rw [hr] at ih
        obtain ⟨q, hq, rfl⟩ := ih
        by_cases hlonger : d.rule.rank < q.rule.rank
        · -- the longer target keeps deciding
          simp only [if_pos hlonger]
          exact ⟨q, hq.concat fun _ => rank_rule_lt_iff.mp hlonger, rfl⟩
        · simp only [if_neg hlonger]
          rw [rank_rule_lt_iff, Nat.not_lt] at hlonger
          refine ⟨d, .concat_self hd fun p hp hfits => ?_, rfl⟩
          exact Nat.le_trans (hq.longest p hp hfits) hlonger
    · have hfits : ¬ d.rule.fits e = true := fun h => hd (rule_fits_iff.mp h)
      rw [Rule.deciding?_insert_of_not_fits rfl (ranked_rules ds) hfits]
      exact ih.concat_of_not_fits hd

/-- The messages of the program are let through by two levels. -/
theorem admits_iff {l : Level} : l.admits e.level = true ↔ l = .debug ∨ l = .trace := by
  have hlevel : e.level = .debug := by cases e <;> rfl
  rw [hlevel]
  cases l <;> decide

theorem enables_rules : (⟨rules ds⟩ : Filter).enables e = true
    ↔ ∃ d, Decides ds e.target d ∧ (d.level = .debug ∨ d.level = .trace) := by
  have hsettled := settled_rules ds e
  have henables : (⟨rules ds⟩ : Filter).enables e = match Rule.deciding? (rules ds) e with
      | none => false
      | some r => r.level.admits e.level := rfl
  rw [henables]
  cases hr : Rule.deciding? (rules ds) e with
  | none =>
    rw [hr] at hsettled
    apply iff_of_false Bool.false_ne_true
    rintro ⟨d, hd, -⟩
    exact hsettled d hd.mem hd.begins
  | some r =>
    rw [hr] at hsettled
    obtain ⟨d, hd, rfl⟩ := hsettled
    rw [admits_iff]
    constructor
    · exact fun hlevel => ⟨d, hd, hlevel⟩
    · rintro ⟨q, hq, hlevel⟩
      rwa [hd.unique hq]

/-- **What a list of simple directives lets through.** -/
theorem filter_enables_iff : (SimpleDirective.filter ds).enables e = true
    ↔ ∃ d, Decides ds e.target d ∧ (d.level = .debug ∨ d.level = .trace) := by
  rw [SimpleDirective.filter]
  split
  · -- without directives only errors are logged, and none of the messages is one
    next hds =>
    have henables : (Filter.ofLevel .error).enables e = Level.error.admits e.level := rfl
    rw [henables, admits_iff]
    apply iff_of_false (by decide)
    rintro ⟨d, hd, -⟩
    rw [hds] at hd
    exact absurd hd.mem List.not_mem_nil
  · exact enables_rules

/-! ### The order of a list -/

/-- **Whether two lists have the same directives for each target**, in the same order.  Directives
with different targets may stand in any order. -/
def Rearranged (ds ds' : List SimpleDirective) : Prop :=
  ∀ t, ds.filter (·.target = t) = ds'.filter (·.target = t)

/-- Neighbours with different targets may change places. -/
theorem rearranged_swap (hne : d.target ≠ q.target) (us vs : List SimpleDirective) :
    Rearranged (us ++ d :: q :: vs) (us ++ q :: d :: vs) := by
  intro t
  simp only [List.filter_append, List.filter_cons, decide_eq_true_eq]
  split_ifs with hd hq
  · exact absurd (hd.trans hq.symm) hne
  · rfl
  · rfl
  · rfl

namespace Rearranged

theorem symm (h : Rearranged ds ds') : Rearranged ds' ds := fun t => (h t).symm

theorem mem (h : Rearranged ds ds') (hd : d ∈ ds) : d ∈ ds' := by
  have hfilter : d ∈ ds.filter (·.target = d.target) := List.mem_filter.mpr ⟨hd, decide_eq_true rfl⟩
  rw [h] at hfilter
  exact List.mem_of_mem_filter hfilter

/-- The same directive decides. -/
theorem decides (h : Rearranged ds ds') (hd : Decides ds t d) : Decides ds' t d where
  begins := hd.begins
  longest q hq := hd.longest q (h.symm.mem hq)
  last := h d.target ▸ hd.last

/-- **A rearranged list lets the same messages through.** -/
theorem enables_eq (h : Rearranged ds ds') (e : Event) :
    (SimpleDirective.filter ds').enables e = (SimpleDirective.filter ds).enables e := by
  rw [Bool.eq_iff_iff, filter_enables_iff, filter_enables_iff]
  constructor
  · rintro ⟨d, hd, hlevel⟩
    exact ⟨d, h.symm.decides hd, hlevel⟩
  · rintro ⟨d, hd, hlevel⟩
    exact ⟨d, h.decides hd, hlevel⟩

end Rearranged

end Log

namespace Invocation

open Log (SimpleDirective Decides Rearranged)

variable {i : Invocation} {a : Arguments} {ds ds' : List SimpleDirective}

theorem filter?_of_list
    (h : i.environment.value? Environment.logFilter = some (Utf8.encode (SimpleDirective.list ds))) :
    i.filter? = .ok (SimpleDirective.filter ds) := by
  rw [filter?, h, SimpleDirective.ofVariable_list]

/-- Environments that differ in the filter of the log only colour it alike. -/
theorem coloursLog_congr {env env' : Environment}
    (h : ∀ name, name ≠ Environment.logFilter → env'.value? name = env.value? name) :
    env'.coloursLog = env.coloursLog := by
  rw [Environment.coloursLog, Environment.coloursLog, h Environment.noColour (by decide)]

/-- Rearranging the filter of the log does not change the lines. -/
theorem logLines_of_rearranged {env' : Environment} (hrearranged : Rearranged ds ds')
    (hcolours : env'.coloursLog = i.environment.coloursLog)
    (hfilter : i.filter? = .ok (SimpleDirective.filter ds))
    (hfilter' : { i with environment := env' }.filter? = .ok (SimpleDirective.filter ds')) :
    { i with environment := env' }.logLines a = i.logLines a := by
  have hevents : { i with environment := env' }.enabledEvents a = i.enabledEvents a := by
    rw [enabledEvents_of_ok hfilter', enabledEvents_of_ok hfilter]
    exact List.filter_congr fun e _ => hrearranged.enables_eq e
  have hwritten : { i with environment := env' }.written = i.written := by
    funext e
    show (if env'.coloursLog then _ else _) = _
    rw [hcolours]
    rfl
  rw [logLines, logLines, hevents, hwritten]

/-- **A message is logged exactly if the directive that decides about its target says so.**  Where
standard error is a pipe and the filter of the log is a list of simple directives, a run that greets
writes a line for each message whose target is decided about by a directive of the level debug or
trace, and no other line; and rearranging the list does not change what it writes. -/
theorem selection (hstderr : i.stderr = .pipe) (hparsed : i.parsed = .ok a)
    (hlist : i.environment.value? Environment.logFilter
      = some (Utf8.encode (SimpleDirective.list ds))) :
    i.run.stderr = Utf8.encode ((i.logLines a).flatMap (· ++ ['\n']) ++ i.epilogue a)
      ∧ (∀ e ∈ events a, e ∈ i.enabledEvents a
          ↔ ∃ d, Decides ds e.target d ∧ (d.level = .debug ∨ d.level = .trace))
      ∧ ∀ (ds' : List SimpleDirective) (env' : Environment), Rearranged ds ds' →
          (∀ name, name ≠ Environment.logFilter →
            env'.value? name = i.environment.value? name) →
          env'.value? Environment.logFilter = some (Utf8.encode (SimpleDirective.list ds')) →
            { i with environment := env' }.run.stderr = i.run.stderr := by
  have hfilter := filter?_of_list hlist
  have hstderr_eq := run_stderr_of_ok hstderr hfilter hparsed
  refine ⟨hstderr_eq, ?_, ?_⟩
  · intro e he
    rw [enabledEvents_of_ok hfilter, List.mem_filter, Log.filter_enables_iff]
    exact and_iff_right he
  · intro ds' env' hrearranged hsame hlist'
    have hfilter' : { i with environment := env' }.filter? = .ok (SimpleDirective.filter ds') :=
      filter?_of_list hlist'
    have hlines : { i with environment := env' }.logLines a = i.logLines a :=
      logLines_of_rearranged hrearranged (coloursLog_congr hsame) hfilter hfilter'
    have hrun := run_stderr_of_ok (i := { i with environment := env' }) hstderr hfilter' hparsed
    rw [hrun, hlines, hstderr_eq]
    -- the report depends on the greeting and on standard output only
    rfl

/-- A directive that asks for one part of the program. -/
def commandsDebug : SimpleDirective :=
  ⟨"greeter::commands".toList, .debug, "Debug".toList, List.all_eq_true.mp (by decide), by decide⟩

/-- A directive that silences the program. -/
def greeterOff : SimpleDirective :=
  ⟨"greeter".toList, .off, "OFF".toList, List.all_eq_true.mp (by decide), by decide⟩

/-- An invocation with a list of directives for its filter. -/
def withDirectives (ds : List SimpleDirective) : Invocation where
  program := Utf8.encode ProgramName.default
  arguments := [Utf8.encode "Alice".toList]
  environment := [(Environment.logFilter, Utf8.encode (SimpleDirective.list ds))]
  time := []

/-- The longer target decides, whichever directive comes first. -/
theorem selection_withDirectives :
    (withDirectives [commandsDebug, greeterOff]).stderr = .pipe
      ∧ (∃ a, (withDirectives [commandsDebug, greeterOff]).parsed = .ok a
          ∧ .greetingPerson "Alice".toList
            ∈ (withDirectives [commandsDebug, greeterOff]).enabledEvents a)
      ∧ (withDirectives [greeterOff, commandsDebug]).run.stderr
        = (withDirectives [commandsDebug, greeterOff]).run.stderr := by
  have hparsed : (withDirectives [commandsDebug, greeterOff]).parsed
      = .ok ⟨[Utf8.encode "Alice".toList]⟩ := by decide +kernel
  have hlist (ds : List SimpleDirective) :
      (withDirectives ds).environment.value? Environment.logFilter
        = some (Utf8.encode (SimpleDirective.list ds)) := List.lookup_cons_self
  have hother (ds : List SimpleDirective) (name : Text) (hname : name ≠ Environment.logFilter) :
      (withDirectives ds).environment.value? name = none := by
    have hne : (name == Environment.logFilter) = false := beq_false_of_ne hname
    simp only [Environment.value?, withDirectives, List.lookup_cons, hne, List.lookup_nil]
  obtain ⟨-, hevents, hrearranged⟩ := selection rfl hparsed (hlist _)
  refine ⟨rfl, ⟨_, hparsed, ?_⟩, ?_⟩
  · have hdecides : Decides [commandsDebug, greeterOff] "greeter::commands::greet".toList
        commandsDebug :=
      ⟨by decide, by decide +kernel, rfl⟩
    exact (hevents (.greetingPerson "Alice".toList) (by decide +kernel)).mpr
      ⟨commandsDebug, hdecides, Or.inl rfl⟩
  · have hne : commandsDebug.target ≠ greeterOff.target := by decide
    exact hrearranged _ (withDirectives [greeterOff, commandsDebug]).environment
      (Log.rearranged_swap hne [] [])
      (fun name hname => (hother _ name hname).trans (hother _ name hname).symm) (hlist _)

end Invocation

end Salutation
