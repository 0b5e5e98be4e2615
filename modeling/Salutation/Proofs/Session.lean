import Salutation.Proofs.Output.Delivery
import Salutation.Session

/-!
# What a session keeps of its commands

A session is known by the commands that led to it (`Chronicle`, `chronicle_after`).  Its buffer
holds one line for each delivery, and the lines tell the names as they stood when the greetings were
delivered; its saved person is the one that the arguments named when a person was last saved.

What stood when is said by `encounters`: each command with the session that it was carried out on.
The two laws of histories (`buffer_after`, `saved_after`) are stated for any session to start with
and go by induction on the commands; `step_buffer` and `step_saved` say what one command does to the
two parts, and `step_arguments` which commands leave the arguments as they are.
-/

namespace Salutation.Session

/-! ### One command -/

section Step

variable (s : Session)

theorem step_deliver : s.step .deliver
    = ({ s with buffer := s.buffer ++ Utf8.encode s.arguments.greetingLine }, .done) := by
  show s.deliverGreeting = _
  unfold deliverGreeting
  rw [s.arguments.deliver_default]

/-- What comes of reading a command line bears on the arguments only. -/
theorem adopt_frame (r : Except ParseFailure Arguments) :
    (s.adopt r).1.saved = s.saved ∧ (s.adopt r).1.buffer = s.buffer := by
  cases r <;> exact ⟨rfl, rfl⟩

/-- **The buffer grows by a line when a greeting is delivered**, and else stays as it is. -/
theorem step_buffer (c : Command) : (s.step c).1.buffer
    = s.buffer ++ if c = .deliver then Utf8.encode s.arguments.greetingLine else [] := by
  cases c with
  | deliver => rw [step_deliver, if_pos rfl]
  | parse commandLine => exact (s.adopt_frame _).2.trans (List.append_nil _).symm
  | update commandLine => exact (s.adopt_frame _).2.trans (List.append_nil _).symm
  | _ => exact (List.append_nil _).symm

/-- **The saved person changes when one is saved**, and else stays as it is. -/
theorem step_saved (c : Command) : (s.step c).1.saved
    = if c = .savePerson then .ofArguments s.arguments else s.saved := by
  cases c with
  | deliver =>
    rw [step_deliver]
    rfl
  | parse commandLine => exact (s.adopt_frame _).1
  | update commandLine => exact (s.adopt_frame _).1
  | _ => rfl

/-- Whether a command may change the arguments, given how it was answered: a command line may if it
was accepted. -/
def Command.Rewrites : Command → Answer → Prop
  | .parse _, .done | .update _, .done => True
  | .push _, _ | .shift, _ | .reset, _ => True
  | _, _ => False

theorem adopt_arguments {r : Except ParseFailure Arguments} (h : (s.adopt r).2 ≠ .done) :
    (s.adopt r).1.arguments = s.arguments := by
  cases r with
  | ok a => exact absurd rfl h
  | error f => rfl

/-- **Other commands leave the arguments as they are.** -/
theorem step_arguments {c : Command} (h : ¬ c.Rewrites (s.step c).2) :
    (s.step c).1.arguments = s.arguments := by
  cases c with
  | deliver => rw [step_deliver]
  | parse commandLine =>
    apply s.adopt_arguments
    intro hdone
    have hanswer : (s.step (.parse commandLine)).2 = .done := hdone
    rw [hanswer] at h
    exact h trivial
  | update commandLine =>
    apply s.adopt_arguments
    intro hdone
    have hanswer : (s.step (.update commandLine)).2 = .done := hdone
    rw [hanswer] at h
    exact h trivial
  | push w => exact absurd trivial h
  | shift => exact absurd trivial h
  | reset => exact absurd trivial h
  | _ => rfl

/-- The arguments name the saved person exactly if the greeting shows it. -/
theorem person_eq_saved_iff :
    s.person = s.saved ↔ s.arguments.greeting = greetingOpening ++ s.saved.render := by
  have hgreeting : s.arguments.greeting = greetingOpening ++ s.person.render := rfl
  rw [hgreeting, List.append_cancel_left_eq, Person.render_injective.eq_iff]

end Step

/-! ### Histories -/

/-- **What each command of a list is carried out on**: the session behind the commands before it,
together with the command. -/
def encounters (s : Session) (cs : List Command) : List (Session × Command) :=
  cs.mapIdx fun k c => (s.after (cs.take k), c)

/-- The arguments as they stand each time that a command is carried out. -/
def argumentsAt (c : Command) (s : Session) (cs : List Command) : List Arguments :=
  ((s.encounters cs).filter (·.2 = c)).map (·.1.arguments)

section History

variable (s : Session) (c d : Command) (cs : List Command)

theorem after_cons : s.after (c :: cs) = (s.step c).1.after cs := rfl

theorem encounters_cons :
    s.encounters (c :: cs) = (s, c) :: (s.step c).1.encounters cs := by
  unfold encounters
  rw [List.mapIdx_cons]
  rfl

/-- The answers of a session are those of its encounters. -/
theorem run_eq_map_encounters : s.run cs = (s.encounters cs).map fun e => e.1.step e.2 := by
  induction cs generalizing s with
  | nil => rfl
  | cons c cs ih => rw [run, ih, encounters_cons, List.map_cons]

theorem argumentsAt_cons_self :
    argumentsAt c s (c :: cs) = s.arguments :: argumentsAt c (s.step c).1 cs := by
  simp [argumentsAt, encounters_cons]

variable {c d} in
theorem argumentsAt_cons_of_ne (h : d ≠ c) :
    argumentsAt c s (d :: cs) = argumentsAt c (s.step d).1 cs := by
  simp [argumentsAt, encounters_cons, h]

/-- **The buffer grows by one line for each delivery.** -/
theorem buffer_after : (s.after cs).buffer
    = s.buffer
      ++ (argumentsAt .deliver s cs).flatMap fun a => Utf8.encode a.greetingLine := by
  -- the first command changes the session, so the induction is for any session to begin with
  induction cs generalizing s with
  | nil => exact (List.append_nil _).symm
  | cons c cs ih =>
    rw [after_cons, ih, step_buffer]
    by_cases hc : c = .deliver
    · subst hc
      rw [if_pos rfl, argumentsAt_cons_self, List.flatMap_cons, List.append_assoc]
    · rw [if_neg hc, List.append_nil, argumentsAt_cons_of_ne s cs hc]

/-- **The saved person is the last one that was saved.** -/
theorem saved_after : (s.after cs).saved
    = ((argumentsAt .savePerson s cs).getLast?.map Person.ofArguments).getD s.saved := by
  induction cs generalizing s with
  | nil => rfl
  | cons c cs ih =>
    rw [after_cons, ih, step_saved]
    by_cases hc : c = .savePerson
    · -- what is saved now is what stays saved, unless a later command saves again
      subst hc
      rw [if_pos rfl, argumentsAt_cons_self, List.getLast?_cons]
      cases (argumentsAt .savePerson (s.step .savePerson).1 cs).getLast? <;> rfl
    · rw [if_neg hc, argumentsAt_cons_of_ne s cs hc]

end History

/-! ### Sessions from the start -/

/-- The name that a line of the buffer tells. -/
def nameOfLine? (line : Bytes) : Option Text := (Utf8.decode? line).bind nameIn?

theorem nameOfLine?_greeting (a : Arguments) :
    nameOfLine? (Utf8.encode a.greeting) = some a.name := by
  have hdecode : Utf8.decode? (Utf8.encode a.greeting) = some a.greeting :=
    Utf8.decode?_eq_some_iff.mpr rfl
  rw [nameOfLine?, hdecode, Option.bind_some, Arguments.nameIn?_greeting]

/-- The lines of greetings are found again in what was delivered. -/
theorem splitOn_greetingLines (as : List Arguments) :
    (as.flatMap fun a => Utf8.encode a.greetingLine).splitOn lineFeed
      = as.map (fun a => Utf8.encode a.greeting) ++ [[]] := by
  have hlines : as.flatMap (fun a => Utf8.encode a.greetingLine)
      = Utf8.encode ((as.map Arguments.greeting).flatMap (· ++ ['\n'])) := by
    rw [Utf8.encode, List.flatMap_assoc, List.flatMap_map]
    rfl
  rw [hlines, Utf8.splitOn_encode_lines, List.map_map]
  · rfl
  · intro l hl
    obtain ⟨a, -, rfl⟩ := List.mem_map.mp hl
    exact a.lineFeed_not_mem_greeting

/-- **What is known of a session behind a list of commands**, carried out from the start. -/
structure Chronicle (cs : List Command) (s : Session) : Prop where
  /-- Every answer is that of a command to the session behind the commands before it. -/
  answers : run {} cs = (encounters {} cs).map fun e => e.1.step e.2
  /-- The buffer holds the greeting line of each delivery, in order. -/
  buffer_eq : s.buffer
    = (argumentsAt .deliver {} cs).flatMap fun a => Utf8.encode a.greetingLine
  /-- Cut at its line feeds, the buffer has one line for each delivery, and nothing behind the last
  line feed. -/
  lines_eq : s.buffer.splitOn lineFeed
    = (argumentsAt .deliver {} cs).map (fun a => Utf8.encode a.greeting) ++ [[]]
  /-- The lines tell the names as they stood at the deliveries. -/
  names_eq : (s.buffer.splitOn lineFeed).dropLast.map nameOfLine?
    = (argumentsAt .deliver {} cs).map fun a => some a.name
  /-- The saved person is the one named when a person was last saved, if one was. -/
  saved_eq : s.saved
    = ((argumentsAt .savePerson {} cs).getLast?.map Person.ofArguments).getD {}
  /-- A command line that is refused changes nothing. -/
  parse_refused : ∀ commandLine f, Arguments.parse commandLine = .error f →
    s.step (.parse commandLine) = (s, .refused f)
  /-- A command line that is refused changes nothing, also where it should add to the arguments. -/
  update_refused : ∀ commandLine f, s.arguments.update commandLine = .error f →
    s.step (.update commandLine) = (s, .refused f)
  /-- Only a command line that is accepted, words taken or dropped, and a reset change the
  arguments. -/
  arguments_eq : ∀ c : Command, ¬ c.Rewrites (s.step c).2 →
    (s.step c).1.arguments = s.arguments
  /-- The person is the same exactly if the greeting is that of the person as it is shown. -/
  same_iff : ∀ t, (s.step .showSaved).2 = .text t →
    ((s.step .samePerson).2 = .verdict true
      ↔ (s.step .greeting).2 = .greeting (greetingOpening ++ t))

/-- **A session keeps a faithful record of its commands**, whatever they were. -/
theorem chronicle_after (cs : List Command) : Chronicle cs (({} : Session).after cs) := by
  have hbuffer : (({} : Session).after cs).buffer
      = (argumentsAt .deliver {} cs).flatMap fun a => Utf8.encode a.greetingLine :=
    buffer_after {} cs
  have hlines : (({} : Session).after cs).buffer.splitOn lineFeed
      = (argumentsAt .deliver {} cs).map (fun a => Utf8.encode a.greeting) ++ [[]] := by
    rw [hbuffer, splitOn_greetingLines]
  refine ⟨run_eq_map_encounters {} cs, hbuffer, hlines, ?_, saved_after {} cs, ?_, ?_,
    fun c => step_arguments _, ?_⟩
  · rw [hlines, List.dropLast_concat, List.map_map]
    exact List.map_congr_left fun a _ => nameOfLine?_greeting a
  · intro commandLine f hf
    show adopt _ (Arguments.parse commandLine) = _
    rw [hf]
    rfl
  · intro commandLine f hf
    show adopt _ (Arguments.update _ commandLine) = _
    rw [hf]
    rfl
  · intro t ht
    obtain rfl := Answer.text.inj ht
    have hsame : ∀ s : Session, (s.step .samePerson).2 = .verdict true ↔ s.person = s.saved := by
      intro s
      show Answer.verdict (decide (s.person = s.saved)) = _ ↔ _
      rw [Answer.verdict.injEq, decide_eq_true_eq]
    rw [hsame, person_eq_saved_iff]
    exact (Answer.greeting.injEq _ _ ▸ Iff.rfl)

end Salutation.Session
