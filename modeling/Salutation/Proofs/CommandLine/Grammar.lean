import Mathlib.Data.List.TakeWhile
import Salutation.CommandLine.Parse
import Salutation.Proofs.Text.Utf8

/-!
# The grammar of command lines

A command line is accepted exactly if there are no words behind the program, or the first of them is
the separator or a **plain** word: a lone hyphen, or a word that does not begin with a hyphen.  Its
words are kept as they are, byte for byte, and only a separator in front is taken away.  Any other
command line is refused, and the first word alone says for what kind of reason (`refusalKind`).

`parse_grammar` states this of `Arguments.parse`.  Behind the first word the loop is in the mode
where it takes every word (`scan_wordsOnly`, the invariant of the loop), so the first word decides;
what it is, is decided by its bytes (`Token.ofBytes_of_plain` and the lemmas that follow it).
-/

namespace Salutation

/-! ### Plain words and the tokens of the others -/

/-- The word that ends the options. -/
def separator : Bytes := [Token.hyphen, Token.hyphen]

/-- Whether a word is taken as it is, also where options are recognized. -/
def IsPlain (w : Bytes) : Prop := w = [Token.hyphen] ∨ w.head? ≠ some Token.hyphen

/-- A hyphen with something behind it is the beginning of an option. -/
theorem not_isPlain (b : UInt8) (rest : Bytes) : ¬ IsPlain (Token.hyphen :: b :: rest) := by
  rintro (h | h)
  · cases h
  · exact h rfl

namespace Token

theorem ofBytes_of_plain {w : Bytes} (h : IsPlain w) : ofBytes w = .word := by
  rcases h with rfl | h
  · rfl
  · cases w with
    | nil => rfl
    | cons a rest =>
      cases rest with
      | nil => rfl
      | cons b rest =>
        have ha : a ≠ hyphen := fun ha => h (congrArg some ha)
        rw [ofBytes, if_pos ha]

theorem ofBytes_cluster {b : UInt8} (hb : b ≠ hyphen) (rest : Bytes) :
    ofBytes (hyphen :: b :: rest) = .cluster (b :: rest) := by
  rw [ofBytes, if_neg (by simp), if_pos hb]

theorem ofBytes_long {rest : Bytes} (h : rest ≠ []) :
    ofBytes (hyphen :: hyphen :: rest) = ofLong rest := by
  rw [ofBytes, if_neg (by simp), if_neg (by simp), if_neg h]

section Name

variable {name : Bytes}

/-- No byte of a name ends it. -/
private theorem forall_ne (h : equalsSign ∉ name) :
    ∀ b ∈ name, decide (b ≠ equalsSign) = true :=
  fun _ hb => decide_eq_true (ne_of_mem_of_not_mem hb h)

theorem takeWhile_of_not_mem (h : equalsSign ∉ name) :
    name.takeWhile (· ≠ equalsSign) = name :=
  List.takeWhile_eq_self_iff.mpr (forall_ne h)

/-- What stands before the first equals sign is taken, -/
theorem takeWhile_append (h : equalsSign ∉ name) (value : Bytes) :
    (name ++ equalsSign :: value).takeWhile (· ≠ equalsSign) = name := by
  rw [List.takeWhile_append_of_pos (forall_ne h)]
  simp

/-- and the sign itself stands in front of the rest. -/
theorem dropWhile_append (h : equalsSign ∉ name) (value : Bytes) :
    (name ++ equalsSign :: value).dropWhile (· ≠ equalsSign) = equalsSign :: value := by
  rw [List.dropWhile_append_of_pos (forall_ne h)]
  simp

theorem ofLong_of_not_mem (h : equalsSign ∉ name) : ofLong name = .long name none := by
  rw [ofLong, List.dropWhile_eq_nil_iff.mpr (forall_ne h)]

/-- A long option is split at its first equals sign. -/
theorem ofLong_append (h : equalsSign ∉ name) (value : Bytes) :
    ofLong (name ++ equalsSign :: value) = .long name (some value) := by
  rw [ofLong, dropWhile_append h, takeWhile_append h]

end Name

end Token

/-- A word is plain, the separator, a cluster of letters, or a long option without or with value. -/
theorem word_cases (w : Bytes) :
    IsPlain w ∨ w = separator
      ∨ (∃ b rest, b ≠ Token.hyphen ∧ w = Token.hyphen :: b :: rest)
      ∨ (∃ name, name ≠ [] ∧ Token.equalsSign ∉ name
          ∧ w = Token.hyphen :: Token.hyphen :: name)
      ∨ (∃ name value, Token.equalsSign ∉ name
          ∧ w = Token.hyphen :: Token.hyphen :: (name ++ Token.equalsSign :: value)) := by
  match w with
  | [] => exact Or.inl (Or.inr (by simp))
  | [a] =>
    by_cases ha : a = Token.hyphen
    · exact Or.inl (Or.inl (by rw [ha]))
    · exact Or.inl (Or.inr (by simpa using ha))
  | a :: b :: rest =>
    by_cases ha : a = Token.hyphen
    · subst ha
      by_cases hb : b = Token.hyphen
      · subst hb
        by_cases hrest : rest = []
        · exact Or.inr (Or.inl (by rw [hrest, separator]))
        · by_cases heq : Token.equalsSign ∈ rest
          · obtain ⟨name, value, rfl, hname⟩ := List.eq_append_cons_of_mem heq
            exact Or.inr (Or.inr (Or.inr (Or.inr ⟨name, value, hname, rfl⟩)))
          · exact Or.inr (Or.inr (Or.inr (Or.inl ⟨rest, hrest, heq, rfl⟩)))
      · exact Or.inr (Or.inr (Or.inl ⟨b, rest, hb, rfl⟩))
    · exact Or.inl (Or.inr (by simpa using ha))

/-! ### Flags as bytes -/

namespace Flag

theorem encode_long (f : Flag) :
    Utf8.encode f.long = Token.hyphen :: Token.hyphen :: Utf8.encode f.longName := by
  cases f <;> rfl

/-- The byte of the letter of a flag. -/
def letterByte : Flag → UInt8
  | .help => 0x68
  | .version => 0x56

theorem encodeChar_letter (f : Flag) : String.utf8EncodeChar f.letter = [f.letterByte] := by
  cases f <;> rfl

theorem encode_short (f : Flag) : Utf8.encode f.short = [Token.hyphen, f.letterByte] := by
  cases f <;> rfl

/-- No long name has an equals sign, so the first one behind it ends the name. -/
theorem equalsSign_not_mem_longName (f : Flag) :
    Token.equalsSign ∉ Utf8.encode f.longName := by
  cases f <;> decide

/-- A flag is found by anything that tells the two flags apart. -/
private lemma find?_all_eq_some_iff {α : Type} [DecidableEq α] {mark : Flag → α}
    (hapart : mark .help ≠ mark .version) {x : α} {f : Flag} :
    all.find? (fun g => decide (mark g = x)) = some f ↔ x = mark f := by
  constructor
  · intro h
    have hmark := List.find?_some h
    exact (of_decide_eq_true hmark).symm
  · rintro rfl
    cases f with
    | help => simp [all]
    | version => simp [all, hapart]

theorem ofLongName?_eq_some_iff {name : Text} {f : Flag} :
    ofLongName? name = some f ↔ name = f.longName :=
  find?_all_eq_some_iff (by decide)

theorem ofLetter?_eq_some_iff {c : Char} {f : Flag} : ofLetter? c = some f ↔ c = f.letter :=
  find?_all_eq_some_iff (by decide)

end Flag

/-! ### Kinds of refusals -/

namespace ParseError

/-- The kinds of causes for which a command line gives no arguments. -/
inductive Kind where
  | displayHelp
  | displayVersion
  | tooManyValues
  | unknownArgument
  deriving Repr, DecidableEq

/-- The kind of a cause. -/
def kind : ParseError → Kind
  | .helpRequested _ => .displayHelp
  | .versionRequested => .displayVersion
  | .unknownArgument _ _ => .unknownArgument
  | .unexpectedValue _ _ => .tooManyValues

/-- The kind of what a flag by itself asks for. -/
def Kind.ofFlag : Flag → Kind
  | .help => .displayHelp
  | .version => .displayVersion

end ParseError

open ParseError (Kind)

/-- Whether a word asks for what a flag gives: it is the long name of the flag, or it begins with
the letter of the flag. -/
def AsksFor (f : Flag) (w : Bytes) : Prop :=
  w = Utf8.encode f.long ∨ Utf8.encode f.short <+: w

/-- Whether a word gives a value to a flag. -/
def GivesValueTo (f : Flag) (w : Bytes) : Prop :=
  Utf8.encode f.long ++ [Token.equalsSign] <+: w

instance (f : Flag) (w : Bytes) : Decidable (AsksFor f w) := instDecidableOr

instance (f : Flag) (w : Bytes) : Decidable (GivesValueTo f w) :=
  inferInstanceAs (Decidable (_ <+: _))

/-- **The kind of a refusal**, given the first word that is refused. -/
def refusalKind (w : Bytes) : Kind :=
  if AsksFor .help w then .displayHelp
  else if AsksFor .version w then .displayVersion
  else if GivesValueTo .help w ∨ GivesValueTo .version w then .tooManyValues
  else .unknownArgument

section Shapes

variable {f : Flag} {b : UInt8} {name : Bytes}

theorem asksFor_cluster (hb : b ≠ Token.hyphen) (rest : Bytes) :
    AsksFor f (Token.hyphen :: b :: rest) ↔ b = f.letterByte := by
  rw [AsksFor, Flag.encode_long, Flag.encode_short, List.cons_prefix_cons, List.cons_prefix_cons]
  constructor
  · rintro (h | h)
    · injection h with _ h
      injection h with h _
      exact absurd h hb
    · exact h.2.1.symm
  · intro h
    exact Or.inr ⟨rfl, h.symm, List.nil_prefix⟩

theorem asksFor_long : AsksFor f (Token.hyphen :: Token.hyphen :: name)
    ↔ name = Utf8.encode f.longName := by
  rw [AsksFor, Flag.encode_long, Flag.encode_short, List.cons_prefix_cons, List.cons_prefix_cons]
  constructor
  · rintro (h | h)
    · injection h with _ h
      injection h
    · have hletter : f.letterByte ≠ Token.hyphen := by cases f <;> decide
      exact absurd h.2.1 hletter
  · rintro rfl
    exact Or.inl rfl

theorem not_givesValueTo_cluster (hb : b ≠ Token.hyphen) (rest : Bytes) :
    ¬ GivesValueTo f (Token.hyphen :: b :: rest) := by
  rw [GivesValueTo, Flag.encode_long, List.cons_append, List.cons_append, List.cons_prefix_cons,
    List.cons_prefix_cons]
  exact fun h => hb h.2.1.symm

theorem givesValueTo_long : GivesValueTo f (Token.hyphen :: Token.hyphen :: name)
    ↔ Utf8.encode f.longName ++ [Token.equalsSign] <+: name := by
  rw [GivesValueTo, Flag.encode_long, List.cons_append, List.cons_append, List.cons_prefix_cons,
    List.cons_prefix_cons]
  exact ⟨fun h => h.2.2, fun h => ⟨rfl, rfl, h⟩⟩

/-- Where a word has no equals sign, none follows the name of a flag. -/
theorem not_givesValueTo_of_not_mem (h : Token.equalsSign ∉ name) :
    ¬ GivesValueTo f (Token.hyphen :: Token.hyphen :: name) := by
  rw [givesValueTo_long]
  intro hfront
  exact h (hfront.subset (by simp))

/-- What stands before the first equals sign is the name of the flag. -/
theorem givesValueTo_append_iff (h : Token.equalsSign ∉ name) (value : Bytes) :
    GivesValueTo f (Token.hyphen :: Token.hyphen :: (name ++ Token.equalsSign :: value))
      ↔ name = Utf8.encode f.longName := by
  rw [givesValueTo_long]
  constructor
  · rintro ⟨rest, hrest⟩
    rw [List.append_assoc, List.singleton_append] at hrest
    have hsplit := congrArg Token.ofLong hrest
    rw [Token.ofLong_append f.equalsSign_not_mem_longName, Token.ofLong_append h] at hsplit
    injection hsplit with hname _
    exact hname.symm
  · rintro rfl
    exact ⟨value, by rw [List.append_assoc, List.singleton_append]⟩

end Shapes

/-! ### The first word decides the kind -/

theorem not_asksFor_both {w : Bytes} (hhelp : AsksFor .help w) : ¬ AsksFor .version w := by
  rcases hhelp with rfl | ⟨rest, rfl⟩
  · decide
  · have hb : (0x68 : UInt8) ≠ Token.hyphen := by decide
    rw [Flag.encode_short, Flag.letterByte, List.cons_append, List.singleton_append,
      asksFor_cluster hb]
    decide

theorem refusalKind_of_asksFor {f : Flag} {w : Bytes} (h : AsksFor f w) :
    refusalKind w = Kind.ofFlag f := by
  cases f with
  | help => rw [refusalKind, if_pos h, Kind.ofFlag]
  | version => rw [refusalKind, if_neg fun hhelp => not_asksFor_both hhelp h, if_pos h, Kind.ofFlag]

theorem refusalKind_of_givesValueTo {f : Flag} {w : Bytes} (hasks : ∀ g, ¬ AsksFor g w)
    (h : GivesValueTo f w) : refusalKind w = .tooManyValues := by
  have hvalue : GivesValueTo .help w ∨ GivesValueTo .version w := by
    cases f with
    | help => exact Or.inl h
    | version => exact Or.inr h
  rw [refusalKind, if_neg (hasks _), if_neg (hasks _), if_pos hvalue]

theorem refusalKind_of_none {w : Bytes} (hasks : ∀ g, ¬ AsksFor g w)
    (hvalue : ∀ g, ¬ GivesValueTo g w) : refusalKind w = .unknownArgument := by
  rw [refusalKind, if_neg (hasks _), if_neg (hasks _),
    if_neg fun h => h.elim (hvalue _) (hvalue _)]

/-- **All that a first word can ask for**, and the kind that goes with it. -/
theorem refusalKind_cases (w : Bytes) :
    (∃ f, AsksFor f w ∧ refusalKind w = Kind.ofFlag f)
      ∨ (∃ f, GivesValueTo f w ∧ refusalKind w = .tooManyValues)
      ∨ (∀ f, ¬ AsksFor f w ∧ ¬ GivesValueTo f w) ∧ refusalKind w = .unknownArgument := by
  by_cases hasks : ∃ f, AsksFor f w
  · obtain ⟨f, hf⟩ := hasks
    exact Or.inl ⟨f, hf, refusalKind_of_asksFor hf⟩
  · have hnone : ∀ f, ¬ AsksFor f w := not_exists.mp hasks
    by_cases hvalue : ∃ f, GivesValueTo f w
    · obtain ⟨f, hf⟩ := hvalue
      exact Or.inr (Or.inl ⟨f, hf, refusalKind_of_givesValueTo hnone hf⟩)
    · have hnone' : ∀ f, ¬ GivesValueTo f w := not_exists.mp hvalue
      exact Or.inr (Or.inr ⟨fun f => ⟨hnone f, hnone' f⟩, refusalKind_of_none hnone hnone'⟩)

theorem refusalKind_eq_unknownArgument_iff {w : Bytes} : refusalKind w = .unknownArgument
    ↔ ∀ f, ¬ AsksFor f w ∧ ¬ GivesValueTo f w := by
  constructor
  · intro h
    rcases refusalKind_cases w with ⟨f, -, hkind⟩ | ⟨f, -, hkind⟩ | ⟨hnone, -⟩
    · rw [hkind] at h
      cases f <;> cases h
    · rw [hkind] at h
      cases h
    · exact hnone
  · intro h
    exact refusalKind_of_none (fun f => (h f).1) fun f => (h f).2

theorem exists_of_refusalKind_eq_tooManyValues {w : Bytes} (h : refusalKind w = .tooManyValues) :
    ∃ f, GivesValueTo f w := by
  rcases refusalKind_cases w with ⟨f, -, hkind⟩ | ⟨f, hf, -⟩ | ⟨-, hkind⟩
  · rw [hkind] at h
    cases f <;> cases h
  · exact ⟨f, hf⟩
  · rw [hkind] at h
    cases h

namespace CommandLine

theorem kind_request (form : Help.Form) (f : Flag) : (request form f).kind = Kind.ofFlag f := by
  cases f <;> rfl

theorem longFlag?_eq_some_iff {name : Bytes} {f : Flag} :
    longFlag? name = some f ↔ name = Utf8.encode f.longName := by
  rw [longFlag?, Option.bind_eq_some_iff]
  constructor
  · rintro ⟨t, ht, hf⟩
    rw [Flag.ofLongName?_eq_some_iff] at hf
    rw [Utf8.decode?_eq_some_iff.mp ht, hf]
  · intro h
    exact ⟨f.longName, Utf8.decode?_eq_some_iff.mpr h, Flag.ofLongName?_eq_some_iff.mpr rfl⟩

/-- The character that a cluster begins with decides what becomes of it. -/
theorem cluster_eq (letters : Bytes) : cluster letters =
    match Utf8.leadingChar? letters with
    | some c =>
      match Flag.ofLetter? c with
      | some f => request .short f
      | none => .unknownArgument ['-', c] none
    | none => .unknownArgument ('-' :: Utf8.decodeLossy letters) none := by
  unfold cluster Utf8.leadingChar?
  cases Utf8.segments letters with
  | nil => rfl
  | cons s ss => cases s <;> rfl

section Cluster

variable {b : UInt8} {rest : Bytes}

theorem cluster_of_letter {f : Flag} (h : b = f.letterByte) :
    cluster (b :: rest) = request .short f := by
  have hlead : Utf8.leadingChar? (b :: rest) = some f.letter := by
    apply Utf8.leadingChar?_eq_some_iff.mpr
    rw [f.encodeChar_letter, h]
    exact ⟨rest, rfl⟩
  have hletter : Flag.ofLetter? f.letter = some f := Flag.ofLetter?_eq_some_iff.mpr rfl
  rw [cluster_eq, hlead]
  simp only [hletter]

/-- A cluster that does not begin with the byte of a letter of a flag does not begin with the
letter. -/
theorem ofLetter?_eq_none (h : ∀ f : Flag, b ≠ f.letterByte) {c : Char}
    (hc : Utf8.leadingChar? (b :: rest) = some c) : Flag.ofLetter? c = none := by
  rw [Option.eq_none_iff_forall_ne_some]
  intro f hf
  rw [Flag.ofLetter?_eq_some_iff.mp hf] at hc
  exact h f (Utf8.eq_of_leadingChar? hc f.encodeChar_letter)

theorem cluster_of_some (h : ∀ f : Flag, b ≠ f.letterByte) {c : Char}
    (hc : Utf8.leadingChar? (b :: rest) = some c) :
    cluster (b :: rest) = .unknownArgument ['-', c] none := by
  have hletter := ofLetter?_eq_none h hc
  rw [cluster_eq, hc]
  simp only [hletter]

theorem cluster_of_none (h : Utf8.leadingChar? (b :: rest) = none) :
    cluster (b :: rest) = .unknownArgument ('-' :: Utf8.decodeLossy (b :: rest)) none := by
  rw [cluster_eq, h]

end Cluster

/-- **A cluster is judged by its first character**, which is a letter of a flag exactly if its first
byte is. -/
theorem kind_cluster {b : UInt8} (hb : b ≠ Token.hyphen) (rest : Bytes) :
    (cluster (b :: rest)).kind = refusalKind (Token.hyphen :: b :: rest) := by
  by_cases hf : ∃ f : Flag, b = f.letterByte
  · obtain ⟨f, hletter⟩ := hf
    have hasks : AsksFor f (Token.hyphen :: b :: rest) := (asksFor_cluster hb rest).mpr hletter
    rw [refusalKind_of_asksFor hasks, cluster_of_letter hletter]
    exact kind_request _ _
  · have hletter : ∀ f : Flag, b ≠ f.letterByte := fun f h => hf ⟨f, h⟩
    rw [refusalKind_of_none
      (fun g hg => hletter g ((asksFor_cluster hb rest).mp hg))
      (fun g => not_givesValueTo_cluster hb rest)]
    cases hlead : Utf8.leadingChar? (b :: rest) with
    | some c =>
      rw [cluster_of_some hletter hlead]
      rfl
    | none =>
      rw [cluster_of_none hlead]
      rfl

/-- A name that no flag has is not known, with and without a value. -/
theorem kind_longOption_of_none {name : Bytes} (hflag : longFlag? name = none)
    (value : Option Bytes) : (longOption name value).kind = .unknownArgument := by
  simp only [longOption, hflag]
  rfl

/-- A long option without a value is judged by its name. -/
theorem kind_longOption_none {name : Bytes} (h : Token.equalsSign ∉ name) :
    (longOption name none).kind = refusalKind (Token.hyphen :: Token.hyphen :: name) := by
  cases hflag : longFlag? name with
  | some f =>
    rw [refusalKind_of_asksFor (asksFor_long.mpr (longFlag?_eq_some_iff.mp hflag))]
    simp only [longOption, hflag]
    exact kind_request _ _
  | none =>
    rw [kind_longOption_of_none hflag, refusalKind_of_none _ fun g => not_givesValueTo_of_not_mem h]
    intro g hg
    rw [asksFor_long, ← longFlag?_eq_some_iff, hflag] at hg
    cases hg

/-- A long option with a value is judged by what stands before its first equals sign. -/
theorem kind_longOption_some {name : Bytes} (h : Token.equalsSign ∉ name) (value : Bytes) :
    (longOption name (some value)).kind
      = refusalKind (Token.hyphen :: Token.hyphen :: (name ++ Token.equalsSign :: value)) := by
  have hasks : ∀ g, ¬ AsksFor g
      (Token.hyphen :: Token.hyphen :: (name ++ Token.equalsSign :: value)) := by
    intro g hg
    rw [asksFor_long] at hg
    exact g.equalsSign_not_mem_longName (hg ▸ by simp)
  cases hflag : longFlag? name with
  | some f =>
    rw [refusalKind_of_givesValueTo hasks
      ((givesValueTo_append_iff h value).mpr (longFlag?_eq_some_iff.mp hflag))]
    simp only [longOption, hflag]
    rfl
  | none =>
    rw [kind_longOption_of_none hflag, refusalKind_of_none hasks]
    intro g hg
    rw [givesValueTo_append_iff h, ← longFlag?_eq_some_iff, hflag] at hg
    cases hg

/-! ### The loop over the words -/

/-- **The invariant of the loop**: behind the first word that is taken, every word is taken. -/
theorem scan_wordsOnly (m : Matches) (ws : List Bytes) :
    scan .wordsOnly m ws = .ok (ws.foldl Matches.take m) := by
  induction ws generalizing m with
  | nil => rfl
  | cons w ws ih => rw [scan, ih, List.foldl_cons]

theorem scan_plain {w : Bytes} (h : IsPlain w) (m : Matches) (ws : List Bytes) :
    scan .options m (w :: ws) = .ok ((w :: ws).foldl Matches.take m) := by
  rw [scan, Token.ofBytes_of_plain h, List.foldl_cons]
  exact scan_wordsOnly (m.take w) ws

theorem scan_separator (m : Matches) (ws : List Bytes) :
    scan .options m (separator :: ws) = .ok (ws.foldl Matches.take m) :=
  scan_wordsOnly m ws

/-- **The first word is refused** if it is neither plain nor the separator, for a reason of the kind
that it decides. -/
theorem scan_refused {w : Bytes} (hplain : ¬ IsPlain w) (hseparator : w ≠ separator) (m : Matches)
    (ws : List Bytes) :
    ∃ e : ParseError, scan .options m (w :: ws) = .error e ∧ e.kind = refusalKind w := by
  rcases word_cases w with h | h | ⟨b, rest, hb, rfl⟩ | ⟨name, hname, heq, rfl⟩
      | ⟨name, value, heq, rfl⟩
  · exact absurd h hplain
  · exact absurd h hseparator
  · exact ⟨cluster (b :: rest), by rw [scan, Token.ofBytes_cluster hb], kind_cluster hb rest⟩
  · refine ⟨longOption name none, ?_, kind_longOption_none heq⟩
    rw [scan, Token.ofBytes_long hname, Token.ofLong_of_not_mem heq]
  · refine ⟨longOption name (some value), ?_, kind_longOption_some heq value⟩
    rw [scan, Token.ofBytes_long (by simp), Token.ofLong_append heq]

/-- Values that are taken one after the other stand behind those from before. -/
theorem positionals?_foldl_take (m : Matches) (ws : List Bytes) :
    (ws.foldl Matches.take m).positionals?.getD [] = m.positionals?.getD [] ++ ws := by
  induction ws generalizing m with
  | nil => rw [List.foldl_nil, List.append_nil]
  | cons w ws ih =>
    rw [List.foldl_cons, ih, Matches.take, Option.getD_some, List.append_assoc,
      List.singleton_append]

/-- Words that are all taken are the positional words: none is lost, moved or changed. -/
theorem ofMatches_foldl_take (ws : List Bytes) :
    Arguments.ofMatches (ws.foldl Matches.take {}) = ⟨ws⟩ :=
  congrArg Arguments.mk (positionals?_foldl_take {} ws)

end CommandLine

/-! ### The grammar -/

/-- Whether the words behind the program are accepted. -/
def Accepts : List Bytes → Prop
  | [] => True
  | w :: _ => w = separator ∨ IsPlain w

/-- The words behind the program, without a separator in front. -/
def withoutSeparator : List Bytes → List Bytes
  | [] => []
  | w :: ws => if w = separator then ws else w :: ws

theorem separator_not_isPlain : ¬ IsPlain separator := not_isPlain Token.hyphen []

namespace CommandLine

theorem scan_of_accepts {ws : List Bytes} (h : Accepts ws) :
    scan .options {} ws = .ok ((withoutSeparator ws).foldl Matches.take {}) := by
  cases ws with
  | nil => rfl
  | cons w ws =>
    rcases h with rfl | hplain
    · rw [scan_separator, withoutSeparator, if_pos rfl]
    · have hne : w ≠ separator := fun heq => separator_not_isPlain (heq ▸ hplain)
      rw [scan_plain hplain, withoutSeparator, if_neg hne]

theorem scan_of_not_accepts {ws : List Bytes} (h : ¬ Accepts ws) :
    ∃ (w : Bytes) (ws' : List Bytes) (e : ParseError),
      ws = w :: ws' ∧ scan .options {} ws = .error e ∧ e.kind = refusalKind w := by
  cases ws with
  | nil => exact absurd trivial h
  | cons w ws =>
    obtain ⟨e, he, hkind⟩ := scan_refused (fun hplain => h (Or.inr hplain))
      (fun hseparator => h (Or.inl hseparator)) {} ws
    exact ⟨w, ws, e, rfl, he, hkind⟩

end CommandLine

namespace ParseError

variable (e : ParseError)

theorem exitCode_eq :
    e.exitCode = if e.kind = .displayHelp ∨ e.kind = .displayVersion then 0 else 2 := by
  cases e <;> rfl

theorem isFault_iff :
    e.isFault = true ↔ e.kind ≠ .displayHelp ∧ e.kind ≠ .displayVersion := by
  cases e <;> simp [isFault, kind]

theorem kind_of_not_isFault (h : e.isFault = false) :
    e.kind = .displayHelp ∨ e.kind = .displayVersion := by
  cases e with
  | helpRequested form => exact Or.inl rfl
  | versionRequested => exact Or.inr rfl
  | unknownArgument shown suggestion => cases h
  | unexpectedValue flag value => cases h

end ParseError

namespace Arguments

variable {commandLine : List Bytes}

theorem parse_of_accepts (h : Accepts commandLine.tail) :
    parse commandLine = .ok ⟨withoutSeparator commandLine.tail⟩ := by
  rw [parse, CommandLine.read, CommandLine.scan_of_accepts h]
  exact congrArg Except.ok (CommandLine.ofMatches_foldl_take _)

theorem parse_of_not_accepts (h : ¬ Accepts commandLine.tail) :
    ∃ (w : Bytes) (ws : List Bytes) (e : ParseError), commandLine.tail = w :: ws
      ∧ parse commandLine = .error ⟨ProgramName.ofCommandLine commandLine, e⟩
      ∧ e.kind = refusalKind w := by
  obtain ⟨w, ws, e, htail, he, hkind⟩ := CommandLine.scan_of_not_accepts h
  refine ⟨w, ws, e, htail, ?_, hkind⟩
  rw [parse, CommandLine.read, he]
  rfl

/-- **The command lines that are accepted, what they give, and why the others are refused.** -/
theorem parse_grammar (commandLine : List Bytes) :
    ((∃ a, parse commandLine = .ok a) ↔ Accepts commandLine.tail)
      ∧ (∀ a, parse commandLine = .ok a → a.positionals = withoutSeparator commandLine.tail)
      ∧ ∀ f, parse commandLine = .error f →
          ∃ w ws, commandLine.tail = w :: ws ∧ f.cause.kind = refusalKind w
            ∧ f.cause.exitCode
              = if f.cause.kind = .displayHelp ∨ f.cause.kind = .displayVersion then 0 else 2 := by
  by_cases h : Accepts commandLine.tail
  · rw [parse_of_accepts h]
    refine ⟨⟨fun _ => h, fun _ => ⟨_, rfl⟩⟩, ?_, ?_⟩
    · intro a ha
      rw [← Except.ok.inj ha]
    · intro f hf
      cases hf
  · obtain ⟨w, ws, e, htail, hparse, hkind⟩ := parse_of_not_accepts h
    rw [hparse]
    refine ⟨⟨?_, fun haccepts => absurd haccepts h⟩, ?_, ?_⟩
    · rintro ⟨a, ha⟩
      cases ha
    · intro a ha
      cases ha
    · intro f hf
      rw [← Except.error.inj hf]
      exact ⟨w, ws, htail, hkind, e.exitCode_eq⟩

/-- A cluster that does not begin with a character is an unknown argument. -/
example : refusalKind [0x2D, 0xFF] = .unknownArgument := by decide

end Arguments

end Salutation
