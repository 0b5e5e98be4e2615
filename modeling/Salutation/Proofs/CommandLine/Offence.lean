import Salutation.Proofs.CommandLine.Grammar
import Salutation.Proofs.Text.Segments

/-!
# What is shown of a word that is refused

A command line that holds an unknown option fails at its first word, and the message shows a part of
it (`shown`): a long option up to its first equals sign, a cluster by its first character, or all of
a cluster that does not begin with a character.

The part that is shown says everything: the cause of the failure is a function of it
(`ParseError.unknown`), proposals included, so that nothing else of the command line gets into the
message.  `Arguments.failsUnknown_iff` states which command lines fail like this and with which
failure, and `Arguments.FailsUnknown.congr` and its neighbours follow for two command lines at a
time.  A value that a flag does not take is shown whole instead (`Arguments.parse_value`,
`Arguments.exists_of_tooManyValues`).
-/

namespace Salutation

/-! ### A hyphen in front -/

namespace Utf8

theorem encodeChar_hyphen : String.utf8EncodeChar '-' = [Token.hyphen] := rfl

theorem decodeLossy_hyphen (bs : Bytes) :
    decodeLossy (Token.hyphen :: bs) = '-' :: decodeLossy bs := by
  have hsegments := segments_encodeChar_append '-' bs
  rw [encodeChar_hyphen, List.singleton_append] at hsegments
  rw [decodeLossy, hsegments]
  rfl

end Utf8

open Utf8 (leadingChar? leadingChar?_eq_some_iff decodeLossy)
open Token (hyphen equalsSign)

/-! ### The part that is shown -/

/-- **What a message shows of a word that is refused.**  Of a long option it is what stands before
its first equals sign; of a cluster, its first character, or all of it if it does not begin with
one. -/
def shown (w : Bytes) : Text :=
  if separator <+: w then decodeLossy (w.takeWhile (· ≠ equalsSign))
  else
    match leadingChar? w.tail with
    | some c => ['-', c]
    | none => '-' :: decodeLossy w.tail

theorem shown_long (bs : Bytes) : shown (hyphen :: hyphen :: bs)
    = '-' :: '-' :: decodeLossy (bs.takeWhile (· ≠ equalsSign)) := by
  have hlong : separator <+: hyphen :: hyphen :: bs := ⟨bs, rfl⟩
  have htake : (hyphen :: hyphen :: bs).takeWhile (· ≠ equalsSign)
      = hyphen :: hyphen :: bs.takeWhile (· ≠ equalsSign) := rfl
  rw [shown, if_pos hlong, htake, Utf8.decodeLossy_hyphen, Utf8.decodeLossy_hyphen]

section Long

variable {name : Bytes}

theorem shown_name (h : equalsSign ∉ name) :
    shown (hyphen :: hyphen :: name) = '-' :: '-' :: decodeLossy name := by
  rw [shown_long, Token.takeWhile_of_not_mem h]

/-- The value of a long option is not shown. -/
theorem shown_name_value (h : equalsSign ∉ name) (value : Bytes) :
    shown (hyphen :: hyphen :: (name ++ equalsSign :: value))
      = '-' :: '-' :: decodeLossy name := by
  rw [shown_long, Token.takeWhile_append h]

end Long

section Cluster

variable {b : UInt8} {rest : Bytes} {c : Char}

theorem separator_not_in_front (hb : b ≠ hyphen) : ¬ separator <+: hyphen :: b :: rest := by
  intro h
  rw [separator, List.cons_prefix_cons, List.cons_prefix_cons] at h
  exact hb h.2.1.symm

theorem shown_of_leadingChar? (hb : b ≠ hyphen) (h : leadingChar? (b :: rest) = some c) :
    shown (hyphen :: b :: rest) = ['-', c] := by
  rw [shown, if_neg (separator_not_in_front hb), List.tail_cons, h]

theorem shown_of_none (hb : b ≠ hyphen) (h : leadingChar? (b :: rest) = none) :
    shown (hyphen :: b :: rest) = '-' :: decodeLossy (b :: rest) := by
  rw [shown, if_neg (separator_not_in_front hb), List.tail_cons, h]

/-- The letters of a cluster begin with a byte that is not a hyphen. -/
theorem exists_encodeChar_eq_cons (hc : c ≠ '-') :
    ∃ b bs, b ≠ hyphen ∧ String.utf8EncodeChar c = b :: bs := by
  obtain ⟨b, bs, hbs⟩ := List.exists_cons_of_ne_nil (Utf8.encodeChar_ne_nil c)
  refine ⟨b, bs, ?_, hbs⟩
  rintro rfl
  have hfront : String.utf8EncodeChar '-' <+: String.utf8EncodeChar c :=
    ⟨bs, by rw [hbs, Utf8.encodeChar_hyphen, List.singleton_append]⟩
  exact hc (Utf8.encodeChar_prefix_inj hfront).symm

end Cluster

/-! ### The cause is a function of it -/

namespace ParseError

/-- **The cause that shows a text as unknown.**  A flag is proposed instead of a long option only. -/
def unknown (t : Text) : ParseError :=
  .unknownArgument t (if ['-', '-'] <+: t then Similarity.suggest? (t.drop 2) else none)

theorem kind_unknown (t : Text) : (unknown t).kind = .unknownArgument := rfl

theorem unknown_long (name : Text) : unknown ('-' :: '-' :: name)
    = .unknownArgument ('-' :: '-' :: name) (Similarity.suggest? name) := by
  have hlong : ['-', '-'] <+: '-' :: '-' :: name := ⟨name, rfl⟩
  rw [unknown, if_pos hlong]
  rfl

theorem unknown_short {t : Text} (h : ∀ c ∈ t.head?, c ≠ '-') :
    unknown ('-' :: t) = .unknownArgument ('-' :: t) none := by
  have hshort : ¬ ['-', '-'] <+: '-' :: t := by
    intro hfront
    rw [List.cons_prefix_cons] at hfront
    obtain ⟨u, rfl⟩ := hfront.2
    exact h '-' rfl rfl
  rw [unknown, if_neg hshort]

end ParseError

/-- Whether a word is refused as an unknown option. -/
def Offends (w : Bytes) : Prop :=
  ¬ IsPlain w ∧ w ≠ separator ∧ refusalKind w = .unknownArgument

section Offends

variable {b : UInt8} {name : Bytes}

/-- A cluster is judged by its first byte, -/
theorem offends_cluster_iff (hb : b ≠ hyphen) (rest : Bytes) :
    Offends (hyphen :: b :: rest) ↔ ∀ f : Flag, b ≠ f.letterByte := by
  have hseparator : hyphen :: b :: rest ≠ separator := by
    intro h
    injection h with _ h
    injection h with h _
    exact hb h
  unfold Offends
  simp only [refusalKind_eq_unknownArgument_iff, asksFor_cluster hb, not_givesValueTo_cluster hb,
    not_isPlain, hseparator, ne_eq, not_false_eq_true, and_true, true_and]

/-- and a long option by its name. -/
theorem offends_name_iff (h : equalsSign ∉ name) (hne : name ≠ []) :
    Offends (hyphen :: hyphen :: name) ↔ ∀ f : Flag, name ≠ Utf8.encode f.longName := by
  have hseparator : hyphen :: hyphen :: name ≠ separator := by
    intro heq
    injection heq with _ heq
    injection heq with _ heq
    exact hne heq
  unfold Offends
  simp only [refusalKind_eq_unknownArgument_iff, asksFor_long, not_givesValueTo_of_not_mem h,
    not_isPlain, hseparator, ne_eq, not_false_eq_true, and_true, true_and]

theorem offends_name_value_iff (h : equalsSign ∉ name) (value : Bytes) :
    Offends (hyphen :: hyphen :: (name ++ equalsSign :: value))
      ↔ ∀ f : Flag, name ≠ Utf8.encode f.longName := by
  have hseparator : hyphen :: hyphen :: (name ++ equalsSign :: value) ≠ separator := by
    simp [separator]
  have hasks : ∀ f : Flag, name ++ equalsSign :: value ≠ Utf8.encode f.longName :=
    fun f heq => f.equalsSign_not_mem_longName (heq ▸ by simp)
  unfold Offends
  simp only [refusalKind_eq_unknownArgument_iff, asksFor_long, hasks, givesValueTo_append_iff h,
    not_isPlain, hseparator, ne_eq, not_false_eq_true, true_and]

end Offends

namespace CommandLine

/-- No proposal is made for a cluster, which never looks like a long option. -/
theorem cluster_eq_unknown {b : UInt8} (hb : b ≠ hyphen) (rest : Bytes)
    (h : ∀ f : Flag, b ≠ f.letterByte) :
    cluster (b :: rest) = .unknown (shown (hyphen :: b :: rest)) := by
  cases hlead : leadingChar? (b :: rest) with
  | some c =>
    have hc : ∀ d ∈ ([c] : Text).head?, d ≠ '-' := by
      rintro d hd rfl
      rw [Option.some.inj hd] at hlead
      exact hb (Utf8.eq_of_leadingChar? hlead Utf8.encodeChar_hyphen)
    rw [cluster_of_some h hlead, shown_of_leadingChar? hb hlead, ParseError.unknown_short hc]
  | none =>
    have hc : ∀ d ∈ (decodeLossy (b :: rest)).head?, d ≠ '-' := by
      intro d hd
      rw [Utf8.head?_decodeLossy hlead d hd]
      decide
    rw [cluster_of_none hlead, shown_of_none hb hlead, ParseError.unknown_short hc]

theorem longOption_eq_unknown {name : Bytes} (h : ∀ f : Flag, name ≠ Utf8.encode f.longName)
    (value : Option Bytes) :
    longOption name value = .unknown ('-' :: '-' :: decodeLossy name) := by
  have hflag : longFlag? name = none := by
    rw [Option.eq_none_iff_forall_ne_some]
    intro f hf
    exact h f (longFlag?_eq_some_iff.mp hf)
  rw [ParseError.unknown_long]
  simp only [longOption, hflag]
  rfl

/-- **An unknown option ends the reading**, for a cause that is a function of what is shown of it. -/
theorem scan_of_offends {w : Bytes} (h : Offends w) (ws : List Bytes) :
    scan .options {} (w :: ws) = .error (.unknown (shown w)) := by
  rcases word_cases w with hplain | hseparator | ⟨b, rest, hb, rfl⟩ | ⟨name, hname, heq, rfl⟩
      | ⟨name, value, heq, rfl⟩
  · exact absurd hplain h.1
  · exact absurd hseparator h.2.1
  · have hletter := (offends_cluster_iff hb rest).mp h
    rw [scan, Token.ofBytes_cluster hb]
    exact congrArg Except.error (cluster_eq_unknown hb rest hletter)
  · have hflag := (offends_name_iff heq hname).mp h
    rw [scan, Token.ofBytes_long hname, Token.ofLong_of_not_mem heq, shown_name heq]
    exact congrArg Except.error (longOption_eq_unknown hflag none)
  · have hflag := (offends_name_value_iff heq value).mp h
    rw [scan, Token.ofBytes_long (by simp), Token.ofLong_append heq, shown_name_value heq]
    exact congrArg Except.error (longOption_eq_unknown hflag (some value))

/-- A value that is given to a flag ends the reading, and is shown whole. -/
theorem scan_value (f : Flag) (v : Bytes) (ws : List Bytes) :
    scan .options {} ((Utf8.encode f.long ++ equalsSign :: v) :: ws)
      = .error (.unexpectedValue f (decodeLossy v)) := by
  have hflag : longFlag? (Utf8.encode f.longName) = some f := longFlag?_eq_some_iff.mpr rfl
  rw [Flag.encode_long, List.cons_append, List.cons_append, scan, Token.ofBytes_long (by simp),
    Token.ofLong_append f.equalsSign_not_mem_longName]
  simp only [longOption, hflag]

end CommandLine

/-! ### Command lines that fail -/

namespace Arguments

open ProgramName (ofPath)

variable {commandLine : List Bytes} {f : ParseFailure}

/-- Whether a command line fails because of an unknown option. -/
def FailsUnknown (commandLine : List Bytes) (f : ParseFailure) : Prop :=
  parse commandLine = .error f ∧ f.cause.kind = .unknownArgument

/-- A command line that fails has a first word, which is to blame. -/
theorem exists_of_parse_error (h : parse commandLine = .error f) :
    ∃ path w ws, commandLine = path :: w :: ws ∧ ¬ IsPlain w ∧ w ≠ separator
      ∧ f.cause.kind = refusalKind w := by
  have hrefused : ¬ Accepts commandLine.tail := by
    intro haccepts
    rw [parse_of_accepts haccepts] at h
    cases h
  obtain ⟨w, ws, e, htail, hparse, hkind⟩ := parse_of_not_accepts hrefused
  rw [h] at hparse
  rw [htail, Accepts, not_or] at hrefused
  have hne : commandLine ≠ [] := by
    rintro rfl
    cases htail
  refine ⟨commandLine.head hne, w, ws, ?_, hrefused.2, hrefused.1, ?_⟩
  · rw [← htail, List.cons_head_tail]
  · rw [Except.error.inj hparse, hkind]

theorem parse_of_offends {w : Bytes} (h : Offends w) (path : Bytes) (ws : List Bytes) :
    parse (path :: w :: ws) = .error ⟨ofPath path, .unknown (shown w)⟩ := by
  rw [parse, CommandLine.read, List.tail_cons, CommandLine.scan_of_offends h]
  rfl

/-- **The command lines that fail because of an unknown option**, and what they fail with. -/
theorem failsUnknown_iff : FailsUnknown commandLine f
    ↔ ∃ path w ws, commandLine = path :: w :: ws ∧ Offends w
      ∧ f = ⟨ofPath path, .unknown (shown w)⟩ := by
  constructor
  · rintro ⟨hparse, hkind⟩
    obtain ⟨path, w, ws, rfl, hplain, hseparator, hfirst⟩ := exists_of_parse_error hparse
    have hoffends : Offends w := ⟨hplain, hseparator, hfirst ▸ hkind⟩
    rw [parse_of_offends hoffends] at hparse
    exact ⟨path, w, ws, rfl, hoffends, (Except.error.inj hparse).symm⟩
  · rintro ⟨path, w, ws, rfl, hoffends, rfl⟩
    exact ⟨parse_of_offends hoffends path ws, ParseError.kind_unknown _⟩

section Two

variable {path path' w w' : Bytes} {ws ws' : List Bytes} {f' : ParseFailure}

theorem failsUnknown_cons_iff : FailsUnknown (path :: w :: ws) f
    ↔ Offends w ∧ f = ⟨ofPath path, .unknown (shown w)⟩ := by
  rw [failsUnknown_iff]
  constructor
  · rintro ⟨_, _, _, heq, h⟩
    cases heq
    exact h
  · intro h
    exact ⟨path, w, ws, rfl, h⟩

/-- **Nothing but the name of the program and the part that is shown gets into a failure.** -/
theorem FailsUnknown.congr (h : FailsUnknown (path :: w :: ws) f)
    (h' : FailsUnknown (path' :: w' :: ws') f') (hname : ofPath path = ofPath path')
    (hshown : shown w = shown w') : f = f' := by
  rw [(failsUnknown_cons_iff.mp h).2, (failsUnknown_cons_iff.mp h').2, hname, hshown]

/-- A first word that offends as well and is shown alike leads to the same failure, whatever comes
behind it. -/
theorem FailsUnknown.of_offends (h : FailsUnknown (path :: w :: ws) f)
    (hoffends : Offends w → Offends w') (hshown : shown w = shown w') (ws' : List Bytes) :
    FailsUnknown (path :: w' :: ws') f := by
  obtain ⟨hw, rfl⟩ := failsUnknown_cons_iff.mp h
  exact failsUnknown_cons_iff.mpr ⟨hoffends hw, by rw [hshown]⟩

theorem FailsUnknown.later (h : FailsUnknown (path :: w :: ws) f) (ws' : List Bytes) :
    FailsUnknown (path :: w :: ws') f :=
  h.of_offends id rfl ws'

theorem FailsUnknown.value {name v : Bytes} (hname : equalsSign ∉ name)
    (h : FailsUnknown (path :: (hyphen :: hyphen :: (name ++ equalsSign :: v)) :: ws) f)
    (v' : Bytes) (ws' : List Bytes) :
    FailsUnknown (path :: (hyphen :: hyphen :: (name ++ equalsSign :: v')) :: ws') f := by
  refine h.of_offends ?_ ?_ ws'
  · rw [offends_name_value_iff hname, offends_name_value_iff hname]
    exact id
  · rw [shown_name_value hname, shown_name_value hname]

theorem FailsUnknown.letters {c : Char} {rest : Bytes} (hc : c ≠ '-')
    (h : FailsUnknown (path :: (hyphen :: (String.utf8EncodeChar c ++ rest)) :: ws) f)
    (rest' : Bytes) (ws' : List Bytes) :
    FailsUnknown (path :: (hyphen :: (String.utf8EncodeChar c ++ rest')) :: ws') f := by
  obtain ⟨b, bs, hb, hbs⟩ := exists_encodeChar_eq_cons hc
  have hlead : ∀ rest, leadingChar? (b :: (bs ++ rest)) = some c := fun rest =>
    leadingChar?_eq_some_iff.mpr ⟨rest, by rw [hbs, List.cons_append]⟩
  rw [hbs, List.cons_append] at h ⊢
  refine h.of_offends ?_ ?_ ws'
  · rw [offends_cluster_iff hb, offends_cluster_iff hb]
    exact id
  · rw [shown_of_leadingChar? hb (hlead rest), shown_of_leadingChar? hb (hlead rest')]

end Two

/-- **A value that is given to a flag is shown whole**, with the flag. -/
theorem parse_value (path : Bytes) (flag : Flag) (v : Bytes) (ws : List Bytes) :
    parse (path :: (Utf8.encode flag.long ++ equalsSign :: v) :: ws)
      = .error ⟨ofPath path, .unexpectedValue flag (decodeLossy v)⟩ := by
  rw [parse, CommandLine.read, List.tail_cons, CommandLine.scan_value]
  rfl

/-- A command line that fails because of a value gives it to a flag in its first word. -/
theorem exists_of_tooManyValues (h : parse commandLine = .error f)
    (hkind : f.cause.kind = .tooManyValues) :
    ∃ path flag v ws, commandLine = path :: (Utf8.encode flag.long ++ equalsSign :: v) :: ws
      ∧ f = ⟨ofPath path, .unexpectedValue flag (decodeLossy v)⟩ := by
  obtain ⟨path, w, ws, rfl, -, -, hfirst⟩ := exists_of_parse_error h
  obtain ⟨flag, v, hv⟩ := exists_of_refusalKind_eq_tooManyValues (hfirst ▸ hkind)
  rw [List.append_assoc, List.singleton_append] at hv
  subst hv
  rw [parse_value] at h
  exact ⟨path, flag, v, ws, rfl, (Except.error.inj h).symm⟩

end Arguments

end Salutation
