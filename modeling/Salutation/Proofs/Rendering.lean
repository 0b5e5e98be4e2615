import Salutation.Greeting
import Salutation.Proofs.Text.Delimited
import Salutation.Proofs.Text.Quoted
import Salutation.Proofs.Text.Utf8

/-!
# Rendered values are told apart

Texts, lists of characters and of texts, persons, lists of persons, a person that may be missing,
and arguments: of each of these, two values that are rendered the same are the same
(`renderings_injective`).  So the ends of the items, their number, the empty ones among them and
every byte of them are found again in the text, though brackets, commas, quotes and backslashes may
occur in the items.

Quoted texts and characters are self-delimiting because their closing quote is found
(`Quoted.Enclosable.append_quote_inj`) and what stands inside is read back.  A quoted byte string is
a row of characters and single bytes (`Quoted.Mark`), which are written in ways that cannot be
mistaken for each other: a byte as a backslash and `x`, which no character is.
-/

namespace Salutation

namespace Quoted

variable {q : Char}

/-! ### Quoted texts and characters -/

/-- What can stand between two quotes is told together with its end. -/
theorem Enclosable.selfDelimiting {α : Type} {f : α → Text} (h : ∀ a, Enclosable q (f a))
    (hf : Function.Injective f) : SelfDelimiting fun a => q :: f a ++ [q] := by
  intro a b s t heq
  simp only [List.cons_append, List.append_assoc, List.nil_append, List.cons.injEq,
    true_and] at heq
  obtain ⟨hab, hst⟩ := (h a).append_quote_inj (h b) heq
  exact ⟨hf hab, hst⟩

theorem text_selfDelimiting : SelfDelimiting text :=
  Enclosable.selfDelimiting (enclosable_escapeAll (Or.inl rfl)) (escapeAll_injective (Or.inl rfl))

theorem escape_injective (hq : IsQuote q) : Function.Injective (escape q) := by
  intro c d h
  have hall : escapeAll q [c] = escapeAll q [d] := by
    rw [escapeAll, escapeAll, List.flatMap_singleton, List.flatMap_singleton, h]
  exact (List.cons.inj (escapeAll_injective hq hall)).1

theorem char_selfDelimiting : SelfDelimiting char :=
  Enclosable.selfDelimiting (enclosable_escape (Or.inr rfl)) (escape_injective (Or.inr rfl))

/-! ### Quoted byte strings -/

/-- What is written by itself in a quoted byte string: a character, or a byte that belongs to
none. -/
inductive Mark where
  | char (c : Char)
  | byte (b : UInt8)

namespace Mark

/-- The bytes of a mark. -/
def bytes : Mark → Bytes
  | .char c => String.utf8EncodeChar c
  | .byte b => [b]

/-- How a mark is written between double quotes. -/
def written : Mark → Text
  | .char c => escape '"' c
  | .byte b => byteEscape b

/-- The marks of a segment. -/
def ofSegment : Utf8.Segment → List Mark
  | .scalar c => [.char c]
  | .illFormed bs => bs.map .byte

theorem flatMap_bytes_ofSegment (s : Utf8.Segment) : (ofSegment s).flatMap bytes = s.bytes := by
  cases s with
  | scalar c => exact List.append_nil _
  | illFormed bs => rw [ofSegment, List.flatMap_map]; exact List.flatMap_singleton' bs

theorem flatMap_written_ofSegment (s : Utf8.Segment) :
    (ofSegment s).flatMap written = segment s := by
  cases s with
  | scalar c => exact List.append_nil _
  | illFormed bs => rw [ofSegment, List.flatMap_map]; rfl

end Mark

/-- The marks of a byte string. -/
def marks (bs : Bytes) : List Mark := (Utf8.segments bs).flatMap Mark.ofSegment

/-- **The marks of a byte string are its bytes**, and so they tell it. -/
theorem marks_injective : Function.Injective marks := by
  have hbytes : ∀ bs, (marks bs).flatMap Mark.bytes = bs := by
    intro bs
    rw [marks, List.flatMap_assoc]
    simp only [Mark.flatMap_bytes_ofSegment]
    exact Utf8.flatMap_bytes_segments bs
  exact Function.LeftInverse.injective hbytes

/-! ### What is written for a mark -/

/-- A character that is escaped and one that stands behind it are told apart. -/
theorem escape_selfDelimiting (hq : IsQuote q) : SelfDelimiting (escape q) := by
  -- the longer of two beginnings is read back as one character, and so nothing is left of it
  have hlonger : ∀ {c d : Char} {w : Text}, escape q d = escape q c ++ w → c = d := by
    intro c d w h
    have hread := unescapeFrom_escape hq d []
    rw [List.append_nil, h, unescapeFrom_escape hq c w] at hread
    obtain ⟨rest, -, hrest⟩ := Option.map_eq_some_iff.mp hread
    exact (List.cons.inj hrest).1
  intro c d s t heq
  have hcd : c = d := by
    rcases List.append_eq_append_iff.mp heq with ⟨w, hw, -⟩ | ⟨w, hw, -⟩
    · exact hlonger hw
    · exact (hlonger hw).symm
  rw [hcd] at heq
  exact ⟨hcd, List.append_cancel_left heq⟩

theorem upperHexDigit_inj : ∀ m n : Fin 16, upperHexDigit m = upperHexDigit n → m = n := by
  decide

theorem byteEscape_selfDelimiting : SelfDelimiting byteEscape := by
  intro a b s t heq
  simp only [byteEscape, List.cons_append, List.nil_append, List.cons.injEq, true_and] at heq
  obtain ⟨hhigh, hlow, hst⟩ := heq
  have ha := a.toNat_lt
  have hb := b.toNat_lt
  have hhigh := upperHexDigit_inj ⟨a.toNat / 16, by omega⟩ ⟨b.toNat / 16, by omega⟩ hhigh
  have hlow := upperHexDigit_inj ⟨a.toNat % 16, by omega⟩ ⟨b.toNat % 16, by omega⟩ hlow
  rw [Fin.mk.injEq] at hhigh hlow
  have hab : a.toNat = b.toNat := by omega
  exact ⟨UInt8.toNat_inj.mp hab, hst⟩

/-- **No character is written like a byte.** -/
theorem escape_append_ne_byteEscape_append (hq : IsQuote q) (c : Char) (b : UInt8) (s t : Text) :
    escape q c ++ s ≠ byteEscape b ++ t := by
  intro heq
  unfold byteEscape at heq
  rcases escape_cases q c with ⟨l, hl, h⟩ | ⟨-, h⟩ | ⟨-, h⟩ | ⟨hself, h⟩ <;> rw [h] at heq
  · -- behind the backslash stands the letter of the character, and `x` is none
    have hx : l = 'x' := (List.cons.inj (List.cons.inj heq).2).1
    subst hx
    rcases eq_of_letter?_eq_some hl with ⟨-, h⟩ | ⟨-, h⟩ | ⟨-, h⟩ | ⟨-, h⟩ | ⟨-, h⟩ <;>
      exact absurd h (by decide)
  · have hx : q = 'x' := (List.cons.inj (List.cons.inj heq).2).1
    rcases hq with rfl | rfl <;> exact absurd hx (by decide)
  · have hx : 'u' = 'x' := (List.cons.inj (List.cons.inj heq).2).1
    exact absurd hx (by decide)
  · -- a character that stands for itself is no backslash
    exact hself.2.1 (List.cons.inj heq).1

theorem Mark.written_selfDelimiting : SelfDelimiting Mark.written := by
  have hq : IsQuote '"' := Or.inl rfl
  intro m n s t heq
  cases m with
  | char c =>
    cases n with
    | char d =>
      obtain ⟨rfl, hst⟩ := escape_selfDelimiting hq c d s t heq
      exact ⟨rfl, hst⟩
    | byte b => exact absurd heq (escape_append_ne_byteEscape_append hq c b s t)
  | byte a =>
    cases n with
    | char d => exact absurd heq.symm (escape_append_ne_byteEscape_append hq d a t s)
    | byte b =>
      obtain ⟨rfl, hst⟩ := byteEscape_selfDelimiting a b s t heq
      exact ⟨rfl, hst⟩

theorem Mark.written_ne_nil (m : Mark) : m.written ≠ [] := by
  cases m with
  | char c =>
    show escape '"' c ≠ []
    rcases escape_cases '"' c with ⟨_, -, h⟩ | ⟨-, h⟩ | ⟨-, h⟩ | ⟨-, h⟩ <;> rw [h] <;> simp
  | byte b => simp [written, byteEscape]

theorem not_special_upperHexDigit :
    ∀ n : Fin 16, upperHexDigit n ≠ '"' ∧ upperHexDigit n ≠ '\\' := by
  decide

theorem enclosable_byteEscape (b : UInt8) : Enclosable '"' (byteEscape b) := by
  have hb := b.toNat_lt
  obtain ⟨hhigh, -⟩ := not_special_upperHexDigit ⟨b.toNat / 16, by omega⟩
  obtain ⟨hlow, hend⟩ := not_special_upperHexDigit ⟨b.toNat % 16, by omega⟩
  refine .of_not_mem ?_ ?_
  · simp [byteEscape, hhigh.symm, hlow.symm]
  · exact not_endsInEscape_concat hend ['\\', 'x', upperHexDigit (b.toNat / 16)]

theorem Mark.enclosable_written (m : Mark) : Enclosable '"' m.written := by
  cases m with
  | char c => exact enclosable_escape (Or.inl rfl) c
  | byte b => exact enclosable_byteEscape b

/-- **A quoted byte string is told by what is written**, whether its bytes are characters or not. -/
theorem bytes_selfDelimiting : SelfDelimiting bytes := by
  have hwritten : ∀ bs, (Utf8.segments bs).flatMap segment = (marks bs).flatMap Mark.written := by
    intro bs
    rw [marks, List.flatMap_assoc]
    simp only [Mark.flatMap_written_ofSegment]
  have hmarks := Mark.written_selfDelimiting.flatMap_injective Mark.written_ne_nil
  have hdelimited : SelfDelimiting fun bs => '"' :: (marks bs).flatMap Mark.written ++ ['"'] :=
    Enclosable.selfDelimiting (fun bs => .flatMap fun m _ => m.enclosable_written)
      (hmarks.comp marks_injective)
  simpa only [SelfDelimiting, bytes, hwritten] using hdelimited

end Quoted

/-! ### Structured values -/

namespace SelfDelimiting

variable {α : Type} {f : α → Text}

/-- A record with one field is told by the field. -/
theorem record (h : SelfDelimiting f) (name label : Text) :
    SelfDelimiting fun a => Structured.record name [(label, f a)] := by
  have hfield := (h.enclose (label ++ [':', ' ']) []).enclose (name ++ [' ', '{', ' ']) [' ', '}']
  simpa only [Structured.record, Structured.enclosed, Structured.field, List.map_cons,
    List.map_nil, List.intercalate_singleton, List.append_nil] using hfield

/-- A value that may be missing is told by what it is if it is there. -/
theorem option (h : SelfDelimiting f) :
    SelfDelimiting fun a : Option α => Structured.option (a.map f) := by
  have hsome : SelfDelimiting fun a => Structured.option (some (f a)) := by
    have hargument := h.enclose ("Some".toList ++ ['(']) [')']
    simpa only [Structured.option, Structured.variant, Structured.enclosed,
      List.intercalate_singleton] using hargument
  -- the first letters already tell whether a value is missing
  have hfirst : ∀ a s t, Structured.option none ++ s ≠ Structured.option (some (f a)) ++ t :=
    fun a s t heq => absurd (List.cons.inj heq).1 (by decide)
  intro a b s t heq
  cases a with
  | none =>
    cases b with
    | none => exact ⟨rfl, List.append_cancel_left heq⟩
    | some b => exact absurd heq (hfirst b s t)
  | some a =>
    cases b with
    | none => exact absurd heq.symm (hfirst a t s)
    | some b =>
      obtain ⟨rfl, hst⟩ := hsome a b s t heq
      exact ⟨rfl, hst⟩

end SelfDelimiting

theorem Structured.chars_selfDelimiting : SelfDelimiting Structured.chars :=
  Quoted.char_selfDelimiting.list fun _ => ⟨'\'', _, rfl, by decide⟩

theorem Structured.texts_selfDelimiting : SelfDelimiting Structured.texts :=
  Quoted.text_selfDelimiting.list fun _ => ⟨'"', _, rfl, by decide⟩

theorem Person.render_selfDelimiting : SelfDelimiting Person.render := by
  have hname : Function.Injective Person.name := fun p q h => by rw [Person.mk.injEq, h]
  exact (Quoted.text_selfDelimiting.comp hname).record _ _

theorem Arguments.render_selfDelimiting : SelfDelimiting Arguments.render := by
  have hwords : Function.Injective Arguments.positionals := fun a b h => by
    rw [Arguments.mk.injEq, h]
  have hlist := Quoted.bytes_selfDelimiting.list fun _ => ⟨'"', _, rfl, by decide⟩
  exact (hlist.comp hwords).record _ _

/-- **Values of each shape are told apart by how they are rendered.** -/
theorem renderings_injective :
    Function.Injective Quoted.text
      ∧ Function.Injective Structured.chars
      ∧ Function.Injective Structured.texts
      ∧ Function.Injective Person.render
      ∧ (Function.Injective fun ps : List Person => Structured.list (ps.map Person.render))
      ∧ (Function.Injective fun p : Option Person => Structured.option (p.map Person.render))
      ∧ Function.Injective Arguments.render := by
  have hpersons : SelfDelimiting fun ps : List Person => Structured.list (ps.map Person.render) :=
    Person.render_selfDelimiting.list fun _ => ⟨'P', _, rfl, by decide⟩
  exact ⟨Quoted.text_injective, Structured.chars_selfDelimiting.injective,
    Structured.texts_selfDelimiting.injective, Person.render_selfDelimiting.injective, hpersons.injective,
    Person.render_selfDelimiting.option.injective, Arguments.render_selfDelimiting.injective⟩

end Salutation
