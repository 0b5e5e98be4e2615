import Salutation.Proofs.CommandLine.Grammar
import Salutation.Proofs.Session

/-!
# Reading a command line into arguments that are there

A session can read a command line in place of its arguments, or into them.  The two agree
(`Session.updates_agree`): the second is refused exactly if the first is, with the same failure, and
else takes over the words that the first would take over, if there are any.

An update goes by whether the argument is present in what was matched, and a parse by its values.
These come to the same since an argument that is present has a value (`Matches.IsProper`): a word
that is taken makes it so, and every step of a reading keeps it (`scan_isProper`).

What a command line brings is said by `Arguments.brought?`, and in terms of the grammar by
`Arguments.brought?_eq`: nothing and the separator alone bring nothing, while a single empty word
does bring something.  One update leaves the words that were brought, or the ones that were there
(`Session.step_update_fst`); so after any number of updates stand the words that were brought last
(`Session.after_updates`, by induction on the command lines, for all sessions at once).
-/

namespace Salutation

namespace CommandLine

/-! ### Presence -/

/-- **The invariant of a reading**: the argument is not present without a value. -/
def Matches.IsProper (m : Matches) : Prop := m.positionals? ≠ some []

theorem Matches.isProper_take (m : Matches) (w : Bytes) : (m.take w).IsProper := by
  rw [IsProper, take, ne_eq, Option.some_inj]
  exact List.append_ne_nil_of_right_ne_nil _ (List.cons_ne_nil w [])

theorem scan_isProper {mode : Mode} {m m' : Matches} {ws : List Bytes} (hm : m.IsProper)
    (h : scan mode m ws = .ok m') : m'.IsProper := by
  induction ws generalizing mode m with
  | nil =>
    rw [scan] at h
    exact Except.ok.inj h ▸ hm
  | cons w ws ih =>
    cases mode with
    | wordsOnly => exact ih (m.isProper_take w) h
    | options =>
      rw [scan] at h
      cases htoken : Token.ofBytes w with
      | separator =>
        rw [htoken] at h
        exact ih hm h
      | word =>
        rw [htoken] at h
        exact ih (m.isProper_take w) h
      | long name value =>
        rw [htoken] at h
        cases h
      | cluster letters =>
        rw [htoken] at h
        cases h

theorem read_isProper {commandLine : List Bytes} {m : Matches} (h : read commandLine = .ok m) :
    m.IsProper := by
  unfold read at h
  cases hscan : scan .options {} commandLine.tail with
  | error e =>
    rw [hscan] at h
    cases h
  | ok m' =>
    rw [hscan] at h
    have hempty : Matches.IsProper {} := nofun
    exact Except.ok.inj h ▸ scan_isProper hempty hscan

end CommandLine

namespace Arguments

open CommandLine (Matches read_isProper)

/-- **The argument is present exactly if it has values.** -/
theorem isSome_positionals?_iff {m : Matches} (h : m.IsProper) :
    m.positionals?.isSome ↔ (ofMatches m).positionals ≠ [] := by
  unfold Matches.IsProper at h
  rw [ofMatches]
  cases hm : m.positionals? with
  | none => simp
  | some ws =>
    rw [hm] at h
    simpa using h

theorem parse_of_read {commandLine : List Bytes} {m : Matches}
    (h : CommandLine.read commandLine = .ok m) :
    ∃ b, parse commandLine = .ok b ∧ (m.positionals?.isSome ↔ b.positionals ≠ []) := by
  refine ⟨ofMatches m, ?_, isSome_positionals?_iff (read_isProper h)⟩
  rw [parse, h]
  rfl

theorem updateFrom_eq (a : Arguments) {m : Matches} (h : m.IsProper) :
    a.updateFrom m = if (ofMatches m).positionals = [] then a else ofMatches m := by
  have hpresent := isSome_positionals?_iff h
  unfold updateFrom
  cases hm : m.positionals? with
  | none =>
    rw [hm] at hpresent
    rw [if_pos (by simpa using hpresent)]
  | some ws =>
    rw [hm] at hpresent
    rw [if_neg (hpresent.mp rfl), ofMatches, hm, Option.getD_some]

/-- **An update by presence is one by values**: the arguments become those of the command line, if
they have any words. -/
theorem update_eq (a : Arguments) (commandLine : List Bytes) :
    a.update commandLine
      = (parse commandLine).map fun b => if b.positionals = [] then a else b := by
  unfold update parse
  cases hread : CommandLine.read commandLine with
  | error f => rfl
  | ok m => exact congrArg Except.ok (a.updateFrom_eq (read_isProper hread))

/-! ### What is brought -/

/-- The words that a command line brings, if it is accepted and has any. -/
def brought? (commandLine : List Bytes) : Option (List Bytes) :=
  match parse commandLine with
  | .ok a => if a.positionals = [] then none else some a.positionals
  | .error _ => none

variable {commandLine : List Bytes}

theorem brought?_of_error {f : ParseFailure} (h : parse commandLine = .error f) :
    brought? commandLine = none := by
  simp only [brought?, h]

theorem brought?_of_ok {b : Arguments} (h : parse commandLine = .ok b) :
    brought? commandLine = if b.positionals = [] then none else some b.positionals := by
  simp only [brought?, h]

/-- **What is brought by which command lines**: those that are refused bring nothing, and neither
does a command line without words, be it with the separator or not; any other brings its words. -/
theorem brought?_eq (ws : List Bytes) :
    brought? commandLine = some ws
      ↔ Accepts commandLine.tail ∧ commandLine.tail ≠ [] ∧ commandLine.tail ≠ [separator]
        ∧ ws = withoutSeparator commandLine.tail := by
  by_cases h : Accepts commandLine.tail
  · have hempty : withoutSeparator commandLine.tail = []
        ↔ commandLine.tail = [] ∨ commandLine.tail = [separator] := by
      cases commandLine.tail with
      | nil => simp [withoutSeparator]
      | cons w rest =>
        by_cases hw : w = separator
        · simp [withoutSeparator, hw]
        · simp [withoutSeparator, hw]
    rw [brought?_of_ok (parse_of_accepts h)]
    by_cases hwords : withoutSeparator commandLine.tail = []
    · have htail := hempty.mp hwords
      simp only [hwords, if_true]
      constructor
      · intro hnone
        cases hnone
      · rintro ⟨-, hnil, hseparator, -⟩
        exact absurd htail (by simp [hnil, hseparator])
    · have htail := mt hempty.mpr hwords
      simp only [not_or] at htail
      simp only [hwords, if_false, Option.some.injEq]
      exact ⟨fun hws => ⟨h, htail.1, htail.2, hws.symm⟩, fun hws => hws.2.2.2.symm⟩
  · obtain ⟨w, rest, e, -, hparse, -⟩ := parse_of_not_accepts h
    rw [brought?_of_error hparse]
    constructor
    · intro hnone
      cases hnone
    · exact fun hws => absurd hws.1 h

end Arguments

namespace Session

open Arguments (brought?)

variable (s : Session) {commandLine : List Bytes}

/-! ### One update -/

theorem step_update_of_error {f : ParseFailure} (h : Arguments.parse commandLine = .error f) :
    s.step (.update commandLine) = (s, .refused f) := by
  show s.adopt (s.arguments.update commandLine) = _
  rw [Arguments.update_eq, h]
  rfl

theorem step_update_of_ok {b : Arguments} (h : Arguments.parse commandLine = .ok b) :
    s.step (.update commandLine)
      = ({ s with arguments := if b.positionals = [] then s.arguments else b }, .done) := by
  show s.adopt (s.arguments.update commandLine) = _
  rw [Arguments.update_eq, h]
  rfl

theorem refused_update_iff {f : ParseFailure} :
    (s.step (.update commandLine)).2 = .refused f ↔ Arguments.parse commandLine = .error f := by
  cases h : Arguments.parse commandLine with
  | error g =>
    rw [s.step_update_of_error h]
    simp
  | ok b =>
    rw [s.step_update_of_ok h]
    simp

/-- **An update leaves the words that are brought**, or the ones that were there. -/
theorem step_update_fst (commandLine : List Bytes) : (s.step (.update commandLine)).1
    = { s with arguments := ⟨(brought? commandLine).getD s.arguments.positionals⟩ } := by
  cases h : Arguments.parse commandLine with
  | error f =>
    rw [s.step_update_of_error h, Arguments.brought?_of_error h]
    rfl
  | ok b =>
    rw [s.step_update_of_ok h, Arguments.brought?_of_ok h]
    by_cases hb : b.positionals = []
    · simp [hb]
    · simp [hb]

/-- What is done by an update is not done again by the same one. -/
theorem step_update_step_update (commandLine : List Bytes) :
    (s.step (.update commandLine)).1.step (.update commandLine)
      = s.step (.update commandLine) := by
  cases h : Arguments.parse commandLine with
  | error f => rw [s.step_update_of_error h, s.step_update_of_error h]
  | ok b =>
    rw [s.step_update_of_ok h, step_update_of_ok _ h]
    by_cases hb : b.positionals = []
    · simp [hb]
    · simp [hb]

/-! ### Updates one after the other -/

/-- **After updates stand the words that were brought last**, and all else is as it was. -/
theorem after_updates (commandLines : List (List Bytes)) :
    s.after (commandLines.map .update)
      = { s with arguments :=
          ⟨(commandLines.filterMap brought?).getLast?.getD s.arguments.positionals⟩ } := by
  induction commandLines generalizing s with
  | nil => rfl
  | cons c cs ih =>
    rw [List.map_cons, after_cons, ih, step_update_fst, List.filterMap_cons]
    cases hbrought : brought? c with
    | none => simp
    | some ws => simp [List.getLast?_cons]

/-- **An update agrees with a parse.**  In what is matched the argument is present exactly if a parse
gives words.  So an update is refused exactly if the command line is, with the same failure, and
then nothing changes; else the arguments become those of the command line, if it has words.  A second
update with the same command line does nothing new, and after any updates stand the words of the
last command line that brought any, or the words from before. -/
theorem updates_agree :
    (∀ commandLine m, CommandLine.read commandLine = .ok m →
        ∃ b, Arguments.parse commandLine = .ok b
          ∧ (m.positionals?.isSome ↔ b.positionals ≠ []))
      ∧ (∀ commandLine f, (s.step (.update commandLine)).2 = .refused f
          ↔ Arguments.parse commandLine = .error f)
      ∧ (∀ commandLine f, Arguments.parse commandLine = .error f →
          s.step (.update commandLine) = (s, .refused f))
      ∧ (∀ commandLine b, Arguments.parse commandLine = .ok b →
          s.step (.update commandLine)
            = ({ s with arguments := if b.positionals = [] then s.arguments else b }, .done))
      ∧ (∀ commandLine, (s.step (.update commandLine)).1.step (.update commandLine)
          = s.step (.update commandLine))
      ∧ (∀ commandLines : List (List Bytes),
          (s.after (commandLines.map .update)).arguments.positionals
            = (commandLines.filterMap brought?).getLast?.getD s.arguments.positionals)
      ∧ ∀ commandLine ws, brought? commandLine = some ws
          ↔ Accepts commandLine.tail ∧ commandLine.tail ≠ [] ∧ commandLine.tail ≠ [separator]
            ∧ ws = withoutSeparator commandLine.tail := by
  refine ⟨fun _ _ => Arguments.parse_of_read, fun _ _ => s.refused_update_iff,
    fun _ _ => s.step_update_of_error, fun _ _ => s.step_update_of_ok, s.step_update_step_update,
    fun commandLines => ?_, fun _ => Arguments.brought?_eq⟩
  rw [s.after_updates]

/-- A separator alone and a failure leave an empty word where it was brought. -/
example :
    (({} : Session).after ([[[], []], [[], separator], [[], [0x2D, 0x78]]].map .update)).arguments
      = ⟨[[]]⟩ := by decide +kernel

end Session

end Salutation
