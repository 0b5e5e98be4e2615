import Salutation.Proofs.CommandLine.ProgramName
import Salutation.Proofs.Program.Indifference

/-!
# The path of the program is a label

The path that the program is started by has no part in how its words are read.  It only gives the
name that the texts about a failure use.

* `Arguments.parse_alike`: two command lines with the same words are both accepted, with the same
  positional words, or fail for the same cause, and so with the same exit code.
* `Arguments.parse_congr`: if their paths give the same name, they come to the same altogether, and
  then the texts are the same too, with colours and without.
* `Invocation.run_startedBy`, `Invocation.result_startedBy`: the same of whole runs.  The exit code
  and standard output do not depend on the path at all.

`Invocation.path_onlyLabels` puts this together with what the name is (`ProgramName.ofPath_eq_iff`)
and with the paths that give the same one.
-/

namespace Salutation

namespace Arguments

/-- **The path has no part in the reading**: two command lines with the same words are both accepted,
or fail for the same cause. -/
theorem parse_alike {commandLine commandLine' : List Bytes}
    (h : commandLine.tail = commandLine'.tail) :
    (∃ a, parse commandLine = .ok a ∧ parse commandLine' = .ok a)
      ∨ ∃ f f', parse commandLine = .error f ∧ parse commandLine' = .error f'
        ∧ f.cause = f'.cause := by
  unfold parse CommandLine.read
  rw [← h]
  cases CommandLine.scan .options {} commandLine.tail with
  | ok m => exact Or.inl ⟨ofMatches m, rfl, rfl⟩
  | error e => exact Or.inr ⟨_, _, rfl, rfl, rfl⟩

/-- With the same name, they come to the same altogether. -/
theorem parse_congr {commandLine commandLine' : List Bytes}
    (h : commandLine.tail = commandLine'.tail)
    (hname : ProgramName.ofCommandLine commandLine = ProgramName.ofCommandLine commandLine') :
    parse commandLine = parse commandLine' := by
  rw [parse, parse, CommandLine.read, CommandLine.read, h, hname]

end Arguments

namespace Invocation

variable (i : Invocation) {path path' : Bytes}

/-- The invocation, started by another path. -/
def startedBy (path : Bytes) : Invocation := { i with program := path }

theorem run_startedBy (h : ProgramName.ofPath path = ProgramName.ofPath path') :
    (i.startedBy path).run = (i.startedBy path').run := by
  have htail : (path :: i.arguments).tail = (path' :: i.arguments).tail := rfl
  have hparse : Arguments.parse (path :: i.arguments) = Arguments.parse (path' :: i.arguments) :=
    Arguments.parse_congr htail h
  unfold run startedBy
  rw [hparse]
  rfl

/-- What a failure comes to, but for the text on standard error, is decided by its cause. -/
theorem result_explain_congr {f g : ParseFailure} (h : f.cause = g.cause) :
    (i.explain f).result = (i.explain g).result := by
  cases hfault : f.cause.isFault with
  | true =>
    rw [explain_fault hfault, explain_fault (h ▸ hfault), result_outcome, result_outcome]
  | false =>
    rcases f.cause.kind_of_not_isFault hfault with hkind | hkind
    · rw [explain_help hkind, explain_help (h ▸ hkind), conclude, conclude,
        apply_ite Outcome.result, apply_ite Outcome.result, result_outcome, result_outcome]
    · rw [explain_version hkind, explain_version (h ▸ hkind)]

theorem result_startedBy (path path' : Bytes) :
    (i.startedBy path).run.result = (i.startedBy path').run.result := by
  have htail : (path :: i.arguments).tail = (path' :: i.arguments).tail := rfl
  unfold run startedBy
  cases Log.Filter.ofVariable (i.environment.value? Environment.logFilter) with
  | error e => rfl
  | ok filter =>
    simp only
    rcases Arguments.parse_alike htail with ⟨a, hleft, hright⟩ | ⟨f, f', hleft, hright, hcause⟩
    · rw [hleft, hright]
      rfl
    · rw [hleft, hright]
      exact i.result_explain_congr hcause

open ProgramName (ofPath ofCommandLine slash here EndsIn Names)

/-- **The path only labels.**  Of two command lines with the same words both are accepted, with the
same positional words, or both fail for the same cause; and if their paths give the same name, they
come to the same text.  So it is with runs, whose exit code and output do not depend on the path.
The name is the one that the path gives, or the program's own.  It does not change with directories
in front of a component, with a slash that is doubled, or with what ends in no component behind a
slash, such as nothing and `.`. -/
theorem path_onlyLabels (dir path path' : Bytes) :
    (∀ commandLine commandLine' : List Bytes, commandLine.tail = commandLine'.tail →
        ((∃ a, Arguments.parse commandLine = .ok a ∧ Arguments.parse commandLine' = .ok a)
            ∨ ∃ f f', Arguments.parse commandLine = .error f
              ∧ Arguments.parse commandLine' = .error f' ∧ f.cause = f'.cause)
          ∧ (ofCommandLine commandLine = ofCommandLine commandLine' →
              Arguments.parse commandLine = Arguments.parse commandLine'))
      ∧ (i.startedBy path).run.result = (i.startedBy path').run.result
      ∧ (ofPath path = ofPath path' → (i.startedBy path).run = (i.startedBy path').run)
      ∧ ofCommandLine [] = ProgramName.default
      ∧ (∀ words, ofCommandLine (path :: words) = ofPath path)
      ∧ (∀ t, ofPath path = t
          ↔ Names path t ∨ (t = ProgramName.default ∧ ∀ u, ¬ Names path u))
      ∧ (∀ c, EndsIn path c → ofPath (dir ++ slash :: path) = ofPath path)
      ∧ ((∀ c, ¬ EndsIn path c) → ofPath (dir ++ slash :: path) = ofPath dir)
      ∧ ofPath (dir ++ slash :: slash :: path) = ofPath (dir ++ slash :: path)
      ∧ ofPath (dir ++ [slash]) = ofPath dir
      ∧ ofPath (dir ++ slash :: here) = ofPath dir := by
  refine ⟨fun _ _ htail => ⟨Arguments.parse_alike htail, Arguments.parse_congr htail⟩,
    i.result_startedBy path path', i.run_startedBy, rfl, fun _ => rfl,
    fun _ => ProgramName.ofPath_eq_iff,
    fun _ => ProgramName.ofPath_append_of_endsIn dir,
    ProgramName.ofPath_append_of_not_endsIn dir, ProgramName.ofPath_append_slash dir path, ?_, ?_⟩
  · have hnone : ∀ c, ¬ EndsIn [] c := ProgramName.not_endsIn_of_isIdle (Or.inl rfl)
    exact ProgramName.ofPath_append_of_not_endsIn dir hnone
  · have hnone : ∀ c, ¬ EndsIn here c := ProgramName.not_endsIn_of_isIdle (Or.inr rfl)
    exact ProgramName.ofPath_append_of_not_endsIn dir hnone

/-- Behind `..` there is no name, and a component after it gives one again. -/
example : (ofPath [0x61, slash, 0x2E, 0x2E, slash], ofPath [0x2E, 0x2E, slash, 0x61, slash, 0x2E])
    = (ProgramName.default, ['a']) := by decide +kernel

end Invocation

end Salutation
