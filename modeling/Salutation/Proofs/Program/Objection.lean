import Salutation.Proofs.CommandLine.Offence
import Salutation.Proofs.Program.PlainText
import Salutation.Proofs.Text.Concealed

/-!
# What a message objects to

The message about a command line at fault opens with a line that quotes the part at fault.  What is
objected to is stripped by itself (`ParseFailure.exists_plain_message`), so that the quotes around it
stand, and a text without control characters is quoted as it is.

`Arguments.parse_quotes_offence` puts this together with what is shown of a word that is refused
(`shown`, `Arguments.failsUnknown_iff`).
-/

namespace Salutation

open Terminal

/-! ### Texts without control characters -/

/-- Whether a text has no control characters. -/
def HasNoControls (t : Text) : Prop := ∀ c ∈ t, ¬ IsControl c

namespace HasNoControls

variable {t : Text}

theorem isClean (h : HasNoControls t) : IsClean t := by
  have hcontrols : ∀ r ∈ hiddenControls, r.2 < 0x20 ∨ (0x7F ≤ r.1 ∧ r.2 ≤ 0x9F) := by decide
  intro c hc r hr hrange
  have hr' := hcontrols r hr
  apply h c hc
  show c.toNat < 0x20 ∨ (0x7F ≤ c.toNat ∧ c.toNat ≤ 0x9F)
  omega

theorem strip_eq (h : HasNoControls t) : strip t = t := strip_eq_self_iff.mpr h.isClean

theorem lineFeed_not_mem (h : HasNoControls t) : '\n' ∉ t := by
  intro hmem
  have hcontrol : IsControl '\n' := Or.inl (by decide)
  exact h '\n' hmem hcontrol

end HasNoControls

/-! ### The first line of a message -/

namespace ParseFailure

/-- The opening of a message about an unknown option. -/
def unknownLine (t : Text) : Text := "error: unexpected argument '".toList ++ t ++ "' found".toList

/-- The opening of a message about a value that a flag does not take. -/
def valueLine (flag : Flag) (t : Text) : Text :=
  "error: unexpected value '".toList ++ t
    ++ ("' for '".toList ++ flag.long ++ "' found; no more were expected".toList)

section Quoted

variable (program t : Text)

/-- **A message opens with its objection**, whose spans are stripped one by one. -/
theorem exists_plain_message (objection : Styled) (tips : List Styled) (flags : List Flag) :
    ∃ rest, ((ParseError.message program objection tips flags).flatMap fun s => strip s.text)
      = "error: ".toList ++ (objection.flatMap fun s => strip s.text) ++ '\n' :: rest := by
  have hfront : ([⟨.fault, "error:".toList⟩, Help.normal " "] : Styled).flatMap
      (fun s => strip s.text) = "error: ".toList := rfl
  have hbreak : ([Help.normal "\n\n"] : Styled).flatMap (fun s => strip s.text)
      = '\n' :: ['\n'] := rfl
  -- what comes behind the objection is one text
  unfold ParseError.message
  rw [List.append_assoc, List.append_assoc, List.append_assoc, List.flatMap_append,
    List.flatMap_append, List.flatMap_append, hfront, hbreak, List.append_assoc,
    List.cons_append]
  exact ⟨_, rfl⟩

/-- What an objection quotes stands between what comes before it and what comes after it. -/
theorem quoted_eq {start before opening after : Text} {spans : Styled}
    (hopening : start ++ strip before = opening)
    (hafter : (spans.flatMap fun s => strip s.text) = after) :
    start ++ ((⟨.normal, before⟩ :: ⟨.invalid, t⟩ :: spans : Styled).flatMap
      fun s => strip s.text) = opening ++ strip t ++ after := by
  rw [List.flatMap_cons, List.flatMap_cons, hafter, ← List.append_assoc, hopening,
    ← List.append_assoc]

theorem exists_plain_unknown :
    ∃ rest, (ParseFailure.mk program (.unknown t)).styled.plain
      = unknownLine (strip t) ++ '\n' :: rest := by
  have hopening : "error: ".toList ++ strip "unexpected argument '".toList
      = "error: unexpected argument '".toList := by decide +kernel
  have hafter : ([Help.normal "' found"] : Styled).flatMap (fun s => strip s.text)
      = "' found".toList := by decide +kernel
  rw [plain_eq]
  obtain ⟨rest, hrest⟩ := exists_plain_message program
    [Help.normal "unexpected argument '", ⟨.invalid, t⟩, Help.normal "' found"] _ _
  refine ⟨rest, hrest.trans ?_⟩
  exact congrArg (· ++ '\n' :: rest) (quoted_eq t hopening hafter)

theorem exists_plain_value (flag : Flag) :
    ∃ rest, (ParseFailure.mk program (.unexpectedValue flag t)).styled.plain
      = valueLine flag (strip t) ++ '\n' :: rest := by
  have hopening : "error: ".toList ++ strip "unexpected value '".toList
      = "error: unexpected value '".toList := by decide +kernel
  have hafter : ([Help.normal "' for '", ⟨.literal, flag.long⟩,
      Help.normal "' found; no more were expected"] : Styled).flatMap (fun s => strip s.text)
      = "' for '".toList ++ flag.long ++ "' found; no more were expected".toList := by
    cases flag <;> decide +kernel
  rw [plain_eq]
  obtain ⟨rest, hrest⟩ := exists_plain_message program
    [Help.normal "unexpected value '", ⟨.invalid, t⟩, Help.normal "' for '",
      ⟨.literal, flag.long⟩, Help.normal "' found; no more were expected"] [] [flag]
  refine ⟨rest, hrest.trans ?_⟩
  exact congrArg (· ++ '\n' :: rest) (quoted_eq t hopening hafter)

/-- A quoted value without a line feed leaves the opening on one line. -/
theorem lineFeed_not_mem_valueLine (flag : Flag) (h : '\n' ∉ t) : '\n' ∉ valueLine flag t := by
  have hopening : '\n' ∉ "error: unexpected value '".toList := by decide +kernel
  have hafter : '\n' ∉ "' for '".toList ++ flag.long
      ++ "' found; no more were expected".toList := by cases flag <;> decide +kernel
  intro hmem
  rcases List.mem_append.mp hmem with hfront | hmem
  · exact (List.mem_append.mp hfront).elim hopening h
  · exact hafter hmem

end Quoted

end ParseFailure

namespace Arguments

open ParseFailure (unknownLine valueLine exists_plain_unknown exists_plain_value
  lineFeed_not_mem_valueLine)
open ProgramName (ofPath)
open Token (hyphen equalsSign)
open Utf8 (decodeLossy)

/-- **What is shown is quoted**, and without control characters it is quoted as it is. -/
theorem FailsUnknown.quotes {path w : Bytes} {ws : List Bytes} {f : ParseFailure}
    (h : FailsUnknown (path :: w :: ws) f) :
    unknownLine (strip (shown w)) <+: f.styled.plain
      ∧ (HasNoControls (shown w) → unknownLine (shown w) <+: f.styled.plain) := by
  obtain ⟨-, rfl⟩ := failsUnknown_cons_iff.mp h
  obtain ⟨rest, hplain⟩ := exists_plain_unknown (ofPath path) (shown w)
  have hquoted : unknownLine (strip (shown w)) <+: unknownLine (strip (shown w)) ++ '\n' :: rest :=
    List.prefix_append _ _
  rw [hplain]
  refine ⟨hquoted, fun hcontrols => ?_⟩
  rwa [hcontrols.strip_eq] at hquoted ⊢

/-- **The first line quotes a value that a flag does not take**, and the flag. -/
theorem head?_splitOn_of_value {t : Text} (program : Text) (flag : Flag) (h : HasNoControls t) :
    ((ParseFailure.mk program (.unexpectedValue flag t)).styled.plain.splitOn '\n').head?
      = some (valueLine flag t) := by
  obtain ⟨rest, hplain⟩ := exists_plain_value program t flag
  have hline : '\n' ∉ valueLine flag t := lineFeed_not_mem_valueLine t flag h.lineFeed_not_mem
  rw [hplain, h.strip_eq, List.splitOn_append_cons_self_of_not_mem hline, List.head?_cons]

/-- **A failure quotes the part at fault.**  A command line that fails because of an unknown option
fails at its first word, and its failure, which is the whole message, is told by the name of the
program and what is shown of that word.  So it is the same with other words behind it, with another
text after the equals sign, and with other letters behind the first character of a cluster.  What is
shown is quoted at the beginning of the message, without its control sequences, and as it is if it
has no control characters.  A command line that fails because of a value gives it to a flag in its
first word, and then the first line quotes just the value and the flag. -/
theorem parse_quotes_offence :
    (∀ commandLine f, FailsUnknown commandLine f →
        ∃ path w ws, commandLine = path :: w :: ws
          ∧ f = ⟨ofPath path, .unknown (shown w)⟩
          ∧ unknownLine (strip (shown w)) <+: f.styled.plain
          ∧ (HasNoControls (shown w) → unknownLine (shown w) <+: f.styled.plain))
      ∧ (∀ path path' w w' ws ws' f f', FailsUnknown (path :: w :: ws) f →
          FailsUnknown (path' :: w' :: ws') f' → ofPath path = ofPath path' →
            shown w = shown w' → f = f')
      ∧ (∀ path w ws ws' f, FailsUnknown (path :: w :: ws) f →
          FailsUnknown (path :: w :: ws') f)
      ∧ (∀ path name v v' ws ws' f, equalsSign ∉ name →
          FailsUnknown (path :: (hyphen :: hyphen :: (name ++ equalsSign :: v)) :: ws) f →
            FailsUnknown (path :: (hyphen :: hyphen :: (name ++ equalsSign :: v')) :: ws') f)
      ∧ (∀ path c letters letters' ws ws' f, c ≠ '-' →
          FailsUnknown (path :: (hyphen :: (String.utf8EncodeChar c ++ letters)) :: ws) f →
            FailsUnknown (path :: (hyphen :: (String.utf8EncodeChar c ++ letters')) :: ws') f)
      ∧ (∀ commandLine f, parse commandLine = .error f → f.cause.kind = .tooManyValues →
          ∃ path flag v ws,
            commandLine = path :: (Utf8.encode flag.long ++ equalsSign :: v) :: ws
            ∧ f = ⟨ofPath path, .unexpectedValue flag (decodeLossy v)⟩)
      ∧ ∀ path flag v ws, ∃ f,
          parse (path :: (Utf8.encode flag.long ++ equalsSign :: v) :: ws) = .error f
            ∧ f.cause.kind = .tooManyValues
            ∧ (HasNoControls (decodeLossy v) →
                (f.styled.plain.splitOn '\n').head? = some (valueLine flag (decodeLossy v))) := by
  refine ⟨?_, fun _ _ _ _ _ _ _ _ h h' => h.congr h', fun _ _ _ ws' _ h => h.later ws',
    fun _ _ _ v' _ ws' _ hname h => h.value hname v' ws',
    fun _ _ _ letters' _ ws' _ hc h => h.letters hc letters' ws',
    fun _ _ => exists_of_tooManyValues, ?_⟩
  · intro commandLine f h
    obtain ⟨path, w, ws, rfl, -, hf⟩ := failsUnknown_iff.mp h
    exact ⟨path, w, ws, rfl, hf, h.quotes⟩
  · intro path flag v ws
    have hparse := parse_value path flag v ws
    exact ⟨_, hparse, rfl, head?_splitOn_of_value (ofPath path) flag⟩

/-- The part before the first equals sign, the first character, and all of what has none in front. -/
example : [[hyphen, hyphen, 0x61, equalsSign, 0x62], [hyphen, 0xC3, 0xA9, 0x62],
    [hyphen, 0xA9, 0x62]].map shown = [['-', '-', 'a'], ['-', 'é'], ['-', '\uFFFD', 'b']] := by
  decide +kernel

end Arguments

end Salutation
