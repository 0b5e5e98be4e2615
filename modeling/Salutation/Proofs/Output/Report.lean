import Mathlib.Data.List.DropRight
import Mathlib.Data.List.TFAE
import Mathlib.Tactic.TFAE
import Salutation.Output.Report

/-!
# A report loses nothing of its cause

* `indented_eq`: the writer that indents lines puts the indentation in front of every line of the
  whole text (`indent`), however the text is cut into fragments.  Its invariant is that it has
  written what the whole text so far gives (`write_indent`).
* `causeIn?_block`: the cause is read back from a block, line by line.
* `reports_lossless`: so two causes are told apart by either form of the report, exactly if their
  texts are.
-/

namespace Salutation.Report

/-! ### Indented lines -/

/-- A text with every line of it indented, empty lines too. -/
def indent (t : Text) : Text :=
  ['\n'].intercalate ((t.splitOn '\n').map (indentation ++ ·))

/-- What is written for a character, once the first line has begun. -/
def indentChar (c : Char) : Text := if c = '\n' then '\n' :: indentation else [c]

/-- Pieces that are written one by one make up what is written for the characters. -/
theorem flatMap_indentChar {t first : Text} {later : List Text}
    (h : t.splitOn '\n' = first :: later) :
    t.flatMap indentChar = first ++ later.flatMap ('\n' :: indentation ++ ·) := by
  induction t generalizing first later with
  | nil =>
    obtain ⟨rfl, rfl⟩ := List.cons.inj h
    rfl
  | cons c t ih =>
    obtain ⟨p, ps, hps⟩ := List.exists_cons_of_ne_nil (List.splitOn_ne_nil '\n' t)
    rw [List.splitOn_cons_eq_if_modifyHead, hps] at h
    rw [List.flatMap_cons, ih hps, indentChar]
    by_cases hc : c = '\n'
    · rw [if_pos (beq_iff_eq.mpr hc)] at h
      rw [if_pos hc]
      obtain ⟨rfl, rfl⟩ := List.cons.inj h
      rw [List.flatMap_cons, List.nil_append, List.append_assoc]
    · rw [if_neg (mt beq_iff_eq.mp hc), List.modifyHead_cons] at h
      obtain ⟨rfl, rfl⟩ := List.cons.inj h
      rw [if_neg hc, List.singleton_append, List.cons_append]

theorem indent_eq (t : Text) : indent t = indentation ++ t.flatMap indentChar := by
  obtain ⟨p, ps, hps⟩ := List.exists_cons_of_ne_nil (List.splitOn_ne_nil '\n' t)
  rw [indent, hps, List.map_cons, intercalate_cons, List.flatMap_map, flatMap_indentChar hps,
    List.append_assoc]
  rfl

/-- **A text goes on where it ends**: only a line break calls for an indentation. -/
theorem indent_append (s t : Text) : indent (s ++ t) = indent s ++ t.flatMap indentChar := by
  rw [indent_eq, indent_eq, List.flatMap_append, List.append_assoc]

/-! ### The writer -/

namespace Indenter

/-- Behind a line break every piece is a line. -/
theorem foldl_writePiece (ps : List Text) (i : Nat) (s : Text) :
    (ps.zipIdx (i + 1)).foldl (fun w p => writePiece w p.1 p.2) ⟨true, s⟩
      = ⟨true, s ++ ps.flatMap ('\n' :: indentation ++ ·)⟩ := by
  induction ps generalizing i s with
  | nil => rw [List.flatMap_nil, List.append_nil]; rfl
  | cons p ps ih =>
    have hpiece : writePiece ⟨true, s⟩ p (i + 1) = ⟨true, s ++ '\n' :: indentation ++ p⟩ := rfl
    rw [List.zipIdx_cons, List.foldl_cons, hpiece, ih, List.flatMap_cons]
    simp only [List.append_assoc, List.cons_append]

/-- A fragment that goes on with a text. -/
theorem write_of_started (s t : Text) : write ⟨true, s⟩ t = ⟨true, s ++ t.flatMap indentChar⟩ := by
  obtain ⟨p, ps, hps⟩ := List.exists_cons_of_ne_nil (List.splitOn_ne_nil '\n' t)
  have hpiece : writePiece ⟨true, s⟩ p 0 = ⟨true, s ++ p⟩ := rfl
  rw [write, hps, List.zipIdx_cons, List.foldl_cons, hpiece, foldl_writePiece,
    flatMap_indentChar hps, List.append_assoc]

/-- The first fragment of a text, which may be empty. -/
theorem write_first (t : Text) : write {} t = ⟨true, indent t⟩ := by
  obtain ⟨p, ps, hps⟩ := List.exists_cons_of_ne_nil (List.splitOn_ne_nil '\n' t)
  have hpiece : writePiece {} p 0 = ⟨true, indentation ++ p⟩ := rfl
  rw [write, hps, List.zipIdx_cons, List.foldl_cons, hpiece, foldl_writePiece, indent_eq,
    flatMap_indentChar hps, List.append_assoc]

/-- **The writer has written what the whole text so far gives.** -/
theorem write_indent (s t : Text) : write ⟨true, indent s⟩ t = ⟨true, indent (s ++ t)⟩ := by
  rw [write_of_started, indent_append]

theorem foldl_write (fragments : List Text) (s : Text) :
    fragments.foldl write ⟨true, indent s⟩ = ⟨true, indent (s ++ fragments.flatten)⟩ := by
  induction fragments generalizing s with
  | nil => rw [List.flatten_nil, List.append_nil]; rfl
  | cons t fragments ih =>
    rw [List.foldl_cons, write_indent, ih, List.flatten_cons, List.append_assoc]

end Indenter

/-- **Every line is indented, however the text is cut into fragments.** -/
theorem indented_eq {fragments : List Text} (h : fragments ≠ []) :
    indented fragments = indent fragments.flatten := by
  obtain ⟨t, fragments, rfl⟩ := List.exists_cons_of_ne_nil h
  rw [indented, List.foldl_cons, Indenter.write_first, Indenter.foldl_write, List.flatten_cons]

/-- A line that ends with its fragment is followed by the indentation of an empty one. -/
example : indented ["a\n".toList, [], "b\n".toList] = "    a\n    b\n    ".toList := by decide

/-! ### The block -/

theorem fragments_ne_nil (cause : OutputError) : cause.fragments ≠ [] := by
  cases cause <;> exact List.cons_ne_nil _ _

/-- The lines of a block in front of the cause. -/
def header : List Text := [headline, [], "Caused by:".toList]

theorem block_eq (cause : OutputError) :
    block cause = headline ++ "\n\nCaused by:\n".toList ++ indent cause.text := by
  rw [block, indented_eq (fragments_ne_nil cause), OutputError.text]

/-- The lines that are indented hold no line break themselves. -/
theorem splitOn_indent (t : Text) :
    (indent t).splitOn '\n' = (t.splitOn '\n').map (indentation ++ ·) := by
  apply List.splitOn_intercalate
  · intro l hl
    obtain ⟨p, hp, rfl⟩ := List.mem_map.mp hl
    rw [List.mem_append, not_or]
    exact ⟨by decide, not_mem_of_mem_splitOn hp⟩
  · exact fun h => List.splitOn_ne_nil '\n' t (List.map_eq_nil_iff.mp h)

/-- **The lines of a block** are the header and the lines of the cause, indented. -/
theorem splitOn_block (cause : OutputError) :
    (block cause).splitOn '\n' = header ++ (cause.text.splitOn '\n').map (indentation ++ ·) := by
  have hheadline : '\n' ∉ headline := by decide
  have hheading : '\n' ∉ "Caused by:".toList := by decide
  have hblock : block cause
      = headline ++ '\n' :: ([] ++ '\n' :: ("Caused by:".toList ++ '\n' :: indent cause.text)) := by
    rw [block_eq, List.append_assoc]
    rfl
  rw [hblock, List.splitOn_append_cons_self_of_not_mem hheadline,
    List.splitOn_append_cons_self_of_not_mem List.not_mem_nil,
    List.splitOn_append_cons_self_of_not_mem hheading, splitOn_indent]
  rfl

/-- Reads the text of a cause back from a block: the header is removed, and the indentation from
every line behind it. -/
def causeIn? (t : Text) : Option Text :=
  ((t.splitOn '\n').dropPrefix? header).bind fun lines =>
    (lines.mapM fun l : Text => l.dropPrefix? indentation).map (['\n'].intercalate ·)

/-- **The cause is read back from a block.** -/
theorem causeIn?_block (cause : OutputError) : causeIn? (block cause) = some cause.text := by
  have hheader : ((block cause).splitOn '\n').dropPrefix? header
      = some ((cause.text.splitOn '\n').map (indentation ++ ·)) := by
    rw [splitOn_block]
    exact List.dropPrefix?_append_of_beq _ (by simp)
  have hline : (fun l : Text => l.dropPrefix? indentation) ∘ (indentation ++ ·)
      = fun l => pure l := by
    funext l
    exact List.dropPrefix?_append_of_beq l (by simp)
  rw [causeIn?, hheader, Option.bind_some, List.mapM_map, hline, List.mapM_pure]
  exact congrArg some ((congrArg _ (List.map_id _)).trans (List.intercalate_splitOn '\n'))

/-- **A report loses nothing of its cause.**  Its texts are the headline and the text of the cause;
on one line they are joined by a colon.  The lines of a block are those of the header and those of
the cause with four spaces in front, and it does not matter in which fragments the cause is written.
So the cause is read back, and two reports are the same in either form exactly if the texts of their
causes are. -/
theorem reports_lossless (cause : OutputError) :
    chain cause = [headline, cause.text]
      ∧ oneLine cause = headline ++ ": ".toList ++ cause.text
      ∧ (block cause).splitOn '\n'
          = [headline, [], "Caused by:".toList]
            ++ (cause.text.splitOn '\n').map (List.replicate 4 ' ' ++ ·)
      ∧ (∀ fragments, fragments ≠ [] → fragments.flatten = cause.text →
          block cause = headline ++ "\n\nCaused by:\n".toList ++ indented fragments)
      ∧ causeIn? (block cause) = some cause.text
      ∧ ∀ other : OutputError,
          [cause.text = other.text, block cause = block other, oneLine cause = oneLine other].TFAE
        := by
  have honeLine : ∀ e : OutputError, oneLine e = headline ++ ": ".toList ++ e.text := by
    intro e
    rw [oneLine, chain, List.intercalate_cons_cons, List.intercalate_singleton]
    rfl
  refine ⟨rfl, honeLine cause, splitOn_block cause, ?_, causeIn?_block cause, ?_⟩
  · intro fragments hne htext
    rw [block_eq, indented_eq hne, htext]
  · intro other
    tfae_have 1 → 2 := by
      intro h
      rw [block_eq, block_eq, h]
    tfae_have 2 → 1 := by
      intro h
      have hread := causeIn?_block cause
      rw [h, causeIn?_block other] at hread
      exact (Option.some.inj hread).symm
    tfae_have 1 ↔ 3 := by
      rw [honeLine, honeLine, List.append_cancel_left_eq]
    tfae_finish

end Salutation.Report
