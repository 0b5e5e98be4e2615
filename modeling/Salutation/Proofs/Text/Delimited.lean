import Mathlib.Logic.Function.Basic
import Salutation.Text.Structured

/-!
# Renderings that tell where they end

A rendering is **self-delimiting** if it can be cut off the front of a text in one way only: whatever
comes after it, the text in front tells the value and where its rendering ends.  Such renderings can
be put one behind the other and read back, which is what structured rendering rests on:

* `SelfDelimiting.flatMap_injective`: a row of values is told by their renderings, without anything
  between them;
* `SelfDelimiting.list`: a list is self-delimiting if its items are, and none of them begins with
  the bracket that closes the list.

What stands between and around the items may occur inside them too; that they are self-delimiting is
what keeps the two apart.
-/

namespace Salutation

/-- **Whether a rendering can be cut off the front of a text in one way only.** -/
def SelfDelimiting {α : Type} (f : α → Text) : Prop :=
  ∀ (a b : α) (s t : Text), f a ++ s = f b ++ t → a = b ∧ s = t

namespace SelfDelimiting

variable {α β : Type} {f : α → Text}

theorem injective (h : SelfDelimiting f) : Function.Injective f := by
  intro a b hab
  have heq : f a ++ [] = f b ++ [] := by rw [hab]
  exact (h a b [] [] heq).1

theorem comp (h : SelfDelimiting f) {g : β → α} (hg : Function.Injective g) :
    SelfDelimiting fun b => f (g b) := by
  intro a b s t heq
  obtain ⟨hab, hst⟩ := h _ _ _ _ heq
  exact ⟨hg hab, hst⟩

/-- A fixed text in front and behind does no harm. -/
theorem enclose (h : SelfDelimiting f) (opening closing : Text) :
    SelfDelimiting fun a => opening ++ f a ++ closing := by
  intro a b s t heq
  simp only [List.append_assoc, List.append_cancel_left_eq] at heq
  obtain ⟨hab, hst⟩ := h _ _ _ _ heq
  exact ⟨hab, List.append_cancel_left hst⟩

/-- **A row of values is told by their renderings**, put one behind the other. -/
theorem flatMap_injective (h : SelfDelimiting f) (hne : ∀ a, f a ≠ []) :
    Function.Injective (List.flatMap f) := by
  intro as
  induction as with
  | nil =>
    intro bs heq
    cases bs with
    | nil => rfl
    | cons b bs =>
      rw [List.flatMap_nil, List.flatMap_cons, eq_comm, List.append_eq_nil_iff] at heq
      exact absurd heq.1 (hne b)
  | cons a as ih =>
    intro bs heq
    cases bs with
    | nil =>
      rw [List.flatMap_nil, List.flatMap_cons, List.append_eq_nil_iff] at heq
      exact absurd heq.1 (hne a)
    | cons b bs =>
      rw [List.flatMap_cons, List.flatMap_cons] at heq
      obtain ⟨rfl, hrest⟩ := h _ _ _ _ heq
      rw [ih hrest]

/-! ### Lists -/

/-- A list is its first item, and each later item behind a comma. -/
theorem list_cons (x : Text) (xs : List Text) :
    Structured.list (x :: xs) = '[' :: (x ++ (xs.flatMap ([',', ' '] ++ ·) ++ [']'])) := by
  rw [Structured.list, Structured.enclosed, intercalate_cons, List.append_assoc,
    List.append_assoc, List.singleton_append]

/-- The later items of a list are told, up to the bracket that closes it. -/
theorem later_items (h : SelfDelimiting f) (as : List α) :
    ∀ (bs : List α) (s t : Text),
      (as.map f).flatMap ([',', ' '] ++ ·) ++ ']' :: s
          = (bs.map f).flatMap ([',', ' '] ++ ·) ++ ']' :: t →
        as = bs ∧ s = t := by
  induction as with
  | nil =>
    intro bs s t heq
    cases bs with
    | nil => exact ⟨rfl, (List.cons.inj heq).2⟩
    | cons b bs => exact absurd (List.cons.inj heq).1 (by decide)
  | cons a as ih =>
    intro bs s t heq
    cases bs with
    | nil => exact absurd (List.cons.inj heq).1 (by decide)
    | cons b bs =>
      simp only [List.map_cons, List.flatMap_cons, List.append_assoc,
        List.append_cancel_left_eq] at heq
      obtain ⟨rfl, hrest⟩ := h _ _ _ _ heq
      obtain ⟨rfl, hst⟩ := ih bs s t hrest
      exact ⟨rfl, hst⟩

/-- **A list is self-delimiting** if its items are, and none of them is empty or begins with the
bracket that closes the list. -/
theorem list (h : SelfDelimiting f) (hfirst : ∀ a, ∃ c t, f a = c :: t ∧ c ≠ ']') :
    SelfDelimiting fun as : List α => Structured.list (as.map f) := by
  have hempty : ∀ a (as : List α) (s t : Text),
      Structured.list [] ++ s ≠ Structured.list ((a :: as).map f) ++ t := by
    intro a as s t heq
    obtain ⟨c, rest, hc, hne⟩ := hfirst a
    rw [List.map_cons, list_cons, hc] at heq
    exact hne (List.cons.inj (List.cons.inj heq).2).1.symm
  intro as bs s t heq
  cases as with
  | nil =>
    cases bs with
    | nil => exact ⟨rfl, List.append_cancel_left heq⟩
    | cons b bs => exact absurd heq (hempty b bs s t)
  | cons a as =>
    cases bs with
    | nil => exact absurd heq.symm (hempty a as t s)
    | cons b bs =>
      simp only [List.map_cons, list_cons, List.cons_append, List.append_assoc, List.cons.injEq,
        true_and, List.nil_append] at heq
      obtain ⟨rfl, hlater⟩ := h _ _ _ _ heq
      obtain ⟨rfl, hst⟩ := later_items h as bs s t hlater
      exact ⟨rfl, hst⟩

end SelfDelimiting

end Salutation
