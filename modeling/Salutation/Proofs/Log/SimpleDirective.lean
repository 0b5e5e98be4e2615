import Salutation.Proofs.Log.Precedence
import Salutation.Proofs.Text.Utf8

/-!
# Simple directives

A simple directive is a level alone, or a target and a level with an equals sign between them.  The
level is given by its name, in any letter case.  A list of such directives, with commas between
them, is read as what was written: each as one rule, in order (`ofVariable_list`).

The reader of a directive goes through its word first and does not know yet whether that is a level
or a target (`scan_word`).  The equals sign decides, so a target may well be spelt like a level.
-/

namespace Salutation.Log

open Utf8 (size)

/-! ### Letters of levels and targets -/

/-- Whether a character may stand in the target of a simple directive. -/
def isTargetChar (c : Char) : Bool := c.isAlphanum || c = '_' || c = ':'

theorem toNat_lt_of_isTargetChar {c : Char} (h : isTargetChar c = true) : c.toNat < 0x80 := by
  rw [isTargetChar, Bool.or_eq_true, Bool.or_eq_true, decide_eq_true_eq, decide_eq_true_eq] at h
  rcases h with (h | rfl) | rfl
  · unfold Char.isAlphanum Char.isAlpha Char.isUpper Char.isLower Char.isDigit at h
    simp only [Bool.or_eq_true, Bool.and_eq_true, decide_eq_true_eq, UInt32.le_iff_toNat_le,
      ge_iff_le] at h
    have hupper : 'Z'.val.toNat = 90 := rfl
    have hlower : 'z'.val.toNat = 122 := rfl
    have hdigit : '9'.val.toNat = 57 := rfl
    rw [← Char.toNat_val]
    omega
  · decide
  · decide

/-- **What the reader of a filter takes a letter of a target for**: neither for a blank nor for one
of the marks, but for the beginning of a word. -/
theorem reading_of_isTargetChar {c : Char} (h : isTargetChar c = true) :
    isBlank c = false ∧ Directive.beginsWord c = true ∧ c ∉ ['=', '[', ','] := by
  have hall : ∀ n < 0x80, isTargetChar (Char.ofNat n) = true →
      isBlank (Char.ofNat n) = false ∧ Directive.beginsWord (Char.ofNat n) = true
        ∧ Char.ofNat n ∉ ['=', '[', ','] := by
    decide +kernel
  have hc := hall c.toNat (toNat_lt_of_isTargetChar h)
  rw [Char.ofNat_toNat] at hc
  exact hc h

/-- What is a letter of the name of a level in lower case, is a letter. -/
theorem isAlpha_of_toLower_mem_name {c : Char} {l : Level} (h : c.toLower ∈ l.name) :
    c.isAlpha = true := by
  unfold Char.isAlpha
  by_cases hupper : c.isUpper = true
  · rw [hupper, Bool.true_or]
  · have hsame : c.toLower = c := by
      unfold Char.toLower
      unfold Char.isUpper at hupper
      rw [decide_eq_true_eq] at hupper
      exact dif_neg hupper
    have hname : l.name.all Char.isLower = true := by cases l <;> rfl
    rw [hsame] at h
    rw [List.all_eq_true.mp hname c h, Bool.or_true]

/-! ### The name of a level, in any letter case -/

namespace Level

variable {t : Text} {l : Level} (h : t.map Char.toLower = l.name)

include h

theorem isAlpha_of_mem {c : Char} (hc : c ∈ t) : c.isAlpha = true := by
  apply isAlpha_of_toLower_mem_name (l := l)
  rw [← h]
  exact List.mem_map_of_mem hc

theorem ne_nil_of_map_eq_name : t ≠ [] := by
  rintro rfl
  cases l <;> cases h

/-- A name is no number. -/
theorem numeral?_eq_none : numeral? t = none := by
  cases t with
  | nil => rfl
  | cons c t =>
    have hc : c.isAlpha = true := isAlpha_of_mem h List.mem_cons_self
    have hsign : c ≠ '+' := by
      rintro rfl
      cases hc
    have hdigit : c.isDigit = false := by
      rw [← Bool.not_eq_true, Char.isDigit, Bool.and_eq_true, decide_eq_true_eq, decide_eq_true_eq]
      unfold Char.isAlpha Char.isUpper Char.isLower at hc
      simp only [Bool.or_eq_true, Bool.and_eq_true, decide_eq_true_eq, UInt32.le_iff_toNat_le,
        ge_iff_le] at hc ⊢
      have hupper : 'A'.val.toNat = 65 := rfl
      have hlower : 'a'.val.toNat = 97 := rfl
      have hnine : '9'.val.toNat = 57 := rfl
      omega
    have hhead : (c :: t).head? ≠ some '+' := fun heq => hsign (Option.some.inj heq)
    simp only [numeral?, if_neg hhead, List.all_cons, hdigit, Bool.false_and, Bool.and_false,
      Bool.false_eq_true, if_false]

/-- **A level is read by its name**, in any letter case. -/
theorem ofText?_eq_some : ofText? t = some l := by
  have hfind : all.find? (·.name = l.name) = some l := by cases l <;> rfl
  rw [ofText?, numeral?_eq_none h, Option.bind_none, ofName?, if_neg (ne_nil_of_map_eq_name h), h]
  exact hfind

end Level

/-! ### Directives and how they are written -/

/-- **A simple directive**: a level for the messages whose target begins with a given one. -/
structure SimpleDirective where
  /-- The target, or nothing if the directive is a level alone. -/
  target : Text
  level : Level
  /-- The level as it is written. -/
  spelling : Text
  isTargetChar_of_mem : ∀ c ∈ target, isTargetChar c = true
  spelling_eq : spelling.map Char.toLower = level.name

namespace SimpleDirective

variable (d : SimpleDirective)

/-- The directive as it is written. -/
def written : Text := if d.target = [] then d.spelling else d.target ++ '=' :: d.spelling

/-- A list of directives as it is written, with commas between them. -/
def list (ds : List SimpleDirective) : Text := [','].intercalate (ds.map written)

/-- The target of the rule that the directive gives. -/
def target? : Option Text := if d.target = [] then none else some d.target

/-- The directive as it is read. -/
def directive : Directive := { target := d.target?, level := d.level }

/-- The rule that the directive gives. -/
def rule : Rule := ⟨d.target?, [], d.level⟩

theorem spelling_ne_nil : d.spelling ≠ [] := Level.ne_nil_of_map_eq_name d.spelling_eq

theorem isTargetChar_of_mem_spelling {c : Char} (hc : c ∈ d.spelling) : isTargetChar c = true := by
  rw [isTargetChar, Char.isAlphanum, Level.isAlpha_of_mem d.spelling_eq hc]
  rfl

/-- A directive is written with letters of targets, but for its equals sign. -/
theorem isTargetChar_of_mem_written {c : Char} (hc : c ∈ d.written) :
    isTargetChar c = true ∨ c = '=' := by
  unfold written at hc
  split at hc
  · exact Or.inl (d.isTargetChar_of_mem_spelling hc)
  · rcases List.mem_append.mp hc with hc | hc
    · exact Or.inl (d.isTargetChar_of_mem c hc)
    · rcases List.mem_cons.mp hc with hc | hc
      · exact Or.inr hc
      · exact Or.inl (d.isTargetChar_of_mem_spelling hc)

theorem isBlank_of_mem_written {c : Char} (hc : c ∈ d.written) : isBlank c = false := by
  rcases d.isTargetChar_of_mem_written hc with h | rfl
  · exact (reading_of_isTargetChar h).1
  · decide

theorem comma_not_mem_written : ',' ∉ d.written := by
  intro hc
  rcases d.isTargetChar_of_mem_written hc with h | h
  · exact absurd h (by decide)
  · exact absurd h (by decide)

theorem written_ne_nil : d.written ≠ [] := by
  unfold written
  split
  · exact d.spelling_ne_nil
  · simp

end SimpleDirective

/-! ### Reading a directive -/

namespace Directive

theorem trim_eq_self {t : Text} (h : ∀ c ∈ t, isBlank c = false) : trim t = t := by
  have hfront : ∀ c ∈ t.head?, isBlank c = false := fun c hc => h c (List.mem_of_mem_head? hc)
  have hback : ∀ c ∈ t.reverse.head?, isBlank c = false :=
    fun c hc => h c (List.mem_reverse.mp (List.mem_of_mem_head? hc))
  rw [trim, dropWhile_isBlank_of_head hfront, dropWhile_isBlank_of_head hback, List.reverse_reverse]

section Scan

variable {written : Text} {d : Directive} {s : Nat}

/-- **A word is read to the mark that ends it**, whether it is a target or a level. -/
theorem scan_word (u v : Text) (hu : ∀ c ∈ u, isTargetChar c = true) :
    ∀ i : Nat, scan written i (.word s, d) (u ++ v) = scan written (i + size u) (.word s, d) v := by
  induction u with
  | nil => exact fun _ => rfl
  | cons c u ih =>
    intro i
    obtain ⟨hc, hu⟩ := List.forall_mem_cons.mp hu
    have hmark := (reading_of_isTargetChar hc).2.2
    simp only [List.mem_cons, List.not_mem_nil, or_false, not_or] at hmark
    have hstep : advance written i c (.word s, d) = .ok (.word s, d) := by
      rw [advance, if_neg hmark.1, if_neg hmark.2.1]
    rw [List.cons_append, scan, hstep]
    show scan written (i + c.utf8Size) (.word s, d) (u ++ v) = _
    rw [ih hu, size, Nat.add_assoc]

theorem scan_start {u : Text} (hne : u ≠ []) (hu : ∀ c ∈ u, isTargetChar c = true) (v : Text) :
    scan written 0 (.start, d) (u ++ v) = scan written (size u) (.word 0, d) v := by
  cases u with
  | nil => exact absurd rfl hne
  | cons c u =>
    obtain ⟨hc, hu⟩ := List.forall_mem_cons.mp hu
    obtain ⟨-, hbegins, hmark⟩ := reading_of_isTargetChar hc
    simp only [List.mem_cons, List.not_mem_nil, or_false, not_or] at hmark
    have hstep : advance written 0 c (.start, d) = .ok (.word 0, d) := by
      rw [advance, if_neg hmark.2.1, if_pos hbegins]
    rw [List.cons_append, scan, hstep]
    show scan written (0 + c.utf8Size) (.word 0, d) (u ++ v) = _
    rw [scan_word u v hu, Nat.zero_add, size]

/-- A level is read to the end. -/
theorem scan_level (u : Text) : ∀ i : Nat, scan written i (.level s, d) u = .ok (.level s, d) := by
  induction u with
  | nil => exact fun _ => rfl
  | cons c u ih => exact fun i => ih (i + c.utf8Size)

end Scan

theorem part_append (t u : Text) : part (t ++ u) 0 (size t) = .ok t := by
  have hbetween : Text.between? (t ++ u) 0 (size t) = some t := by
    rw [Text.between?, Text.dropBytes?, Option.bind_some, Nat.sub_zero, Text.takeBytes?_append]
  rw [part, hbetween]

theorem remainder_append (t u : Text) : remainder (t ++ u) (size t) = .ok u := by
  rw [remainder, Text.dropBytes?_append]

end Directive

namespace SimpleDirective

variable (d : SimpleDirective)

theorem parse_written_of_level (htarget : d.target = []) :
    Directive.parse d.written = .ok d.directive := by
  have hwritten : d.written = d.spelling ++ [] := by
    rw [written, if_pos htarget, List.append_nil]
  have hscan : Directive.scan d.written 0 (.start, {}) d.written = .ok (.word 0, {}) := by
    conv_lhs => arg 4; rw [hwritten]
    rw [Directive.scan_start d.spelling_ne_nil fun c => d.isTargetChar_of_mem_spelling]
    rfl
  have hremainder : Directive.remainder d.written 0 = .ok d.written :=
    Directive.remainder_append [] d.written
  have hlevel : Level.ofText? d.written = some d.level := by
    rw [hwritten, List.append_nil]
    exact Level.ofText?_eq_some d.spelling_eq
  rw [Directive.parse, Directive.trim_eq_self fun c => d.isBlank_of_mem_written, hscan]
  show (Directive.remainder d.written 0).map _ = _
  rw [hremainder]
  simp only [Except.map, hlevel, directive, target?, if_pos htarget]

theorem parse_written_of_target (htarget : d.target ≠ []) :
    Directive.parse d.written = .ok d.directive := by
  have hwritten : d.written = d.target ++ '=' :: d.spelling := by
    rw [written, if_neg htarget]
  have hpart : Directive.part d.written 0 (size d.target) = .ok d.target := by
    rw [hwritten]
    exact Directive.part_append _ _
  have hscan : Directive.scan d.written 0 (.start, {}) d.written
      = .ok (.level (size d.target + 1), { target := some d.target }) := by
    conv_lhs => arg 4; rw [hwritten]
    rw [Directive.scan_start htarget d.isTargetChar_of_mem, Directive.scan]
    simp only [Directive.advance, hpart]
    exact Directive.scan_level _ _
  have hremainder : Directive.remainder d.written (size d.target + 1) = .ok d.spelling := by
    have hfront : d.written = (d.target ++ ['=']) ++ d.spelling := by
      rw [hwritten, List.append_assoc, List.singleton_append]
    have hsize : size (d.target ++ ['=']) = size d.target + 1 := Utf8.size_append _ _
    rw [hfront, ← hsize]
    exact Directive.remainder_append _ _
  rw [Directive.parse, Directive.trim_eq_self fun c => d.isBlank_of_mem_written, hscan]
  simp only [Directive.finish, hremainder, bind, Except.bind, if_neg d.spelling_ne_nil,
    Level.ofText?_eq_some d.spelling_eq, directive, target?, if_neg htarget]

/-- **A simple directive is read as what was written.** -/
theorem parse_written : Directive.parse d.written = .ok d.directive := by
  by_cases htarget : d.target = []
  · exact d.parse_written_of_level htarget
  · exact d.parse_written_of_target htarget

/-! ### Reading a list of directives -/

/-- The rules of a list of simple directives, in order of precedence. -/
def rules (ds : List SimpleDirective) : List Rule :=
  (ds.map rule).foldl (fun rs r => Rule.insert r rs) []

/-- The filter of a list of simple directives. -/
def filter (ds : List SimpleDirective) : Filter :=
  if ds = [] then .ofLevel .error else ⟨rules ds⟩

theorem mapM_parse_written (ds : List SimpleDirective) :
    (ds.map written).mapM Directive.parse = .ok (ds.map directive) := by
  induction ds with
  | nil => rfl
  | cons d ds ih =>
    rw [List.map_cons, List.mapM_cons, d.parse_written, List.map_cons]
    simp only [bind, Except.bind, ih, pure, Except.pure]

theorem ofDirectives_directive (ds : List SimpleDirective) :
    Filter.ofDirectives (ds.map directive) = filter ds := by
  have hplain : (ds.map directive).filter (!·.isDynamic) = ds.map directive := by
    rw [List.filter_eq_self]
    intro x hx
    obtain ⟨d, -, rfl⟩ := List.mem_map.mp hx
    rfl
  have hdynamic : (ds.map directive).filter (·.isDynamic) = [] := by
    rw [List.filter_eq_nil_iff]
    intro x hx
    obtain ⟨d, -, rfl⟩ := List.mem_map.mp hx
    exact Bool.false_ne_true
  have hrules : (ds.map directive).filterMap Rule.ofDirective? = ds.map rule := by
    have hone : Rule.ofDirective? ∘ directive = some ∘ rule := rfl
    rw [List.filterMap_map, hone, List.filterMap_eq_map]
  simp only [Filter.ofDirectives, filter, List.map_eq_nil_iff, hplain, hdynamic, List.append_nil,
    hrules]
  rfl

/-- A list of directives is split into the directives. -/
theorem splitOn_list (ds : List SimpleDirective) :
    ((list ds).splitOn ',').filter (· ≠ []) = ds.map written := by
  cases ds with
  | nil => rfl
  | cons d ds =>
    have hcomma : ∀ t ∈ (d :: ds).map written, ',' ∉ t := by
      intro t ht
      obtain ⟨d, -, rfl⟩ := List.mem_map.mp ht
      exact d.comma_not_mem_written
    rw [list, List.splitOn_intercalate ',' hcomma (by simp), List.filter_eq_self]
    intro t ht
    obtain ⟨d, -, rfl⟩ := List.mem_map.mp ht
    exact decide_eq_true d.written_ne_nil

/-- **A list of simple directives is read as what was written.** -/
theorem ofVariable_list (ds : List SimpleDirective) :
    Filter.ofVariable (some (Utf8.encode (list ds))) = .ok (filter ds) := by
  have hparse : Filter.parse (list ds) = .ok (filter ds) := by
    rw [Filter.parse, splitOn_list, mapM_parse_written, Except.map, ofDirectives_directive]
  have hdecode : Utf8.decode? (Utf8.encode (list ds)) = some (list ds) :=
    Utf8.decode?_eq_some_iff.mpr rfl
  simp only [Filter.ofVariable, hdecode, hparse]

end SimpleDirective

end Salutation.Log
