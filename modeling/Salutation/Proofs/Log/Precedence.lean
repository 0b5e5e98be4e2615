import Salutation.Log.Filter
import Salutation.Proofs.Log.Alignment

/-!
# Which rule of a filter decides

The rules of a filter are kept in order of precedence, and the first that fits a message decides.
For rules that ask for no fields that comes to this: of the rules that fit, the one with the longest
target decides.  `Ranked` is the invariant, that no rule comes before one with a longer target; it is
kept by `Rule.insert`, and what an insertion does to the deciding rule is said by
`deciding?_insert_of_fits` and `deciding?_insert_of_not_fits`.

Two rules of the same rank that fit the same message have the same target, since both are beginnings
of the target of the message.  So one of them has taken the place of the other.
-/

namespace Salutation.Log

open Utf8 (size)

namespace Rule

/-- The rank of a rule among rules that ask for no fields: a rule with a target is above one
without, and a longer target above a shorter one. -/
def rank (r : Rule) : Nat :=
  match r.target with
  | none => 0
  | some t => size t + 1

private theorem compare_succ (m n : Nat) : compare (m + 1) (n + 1) = compare m n := by
  rcases h : compare m n with _ | _ | _
  · exact Nat.compare_eq_lt.mpr (Nat.succ_lt_succ (Nat.compare_eq_lt.mp h))
  · exact Nat.compare_eq_eq.mpr (congrArg Nat.succ (Nat.compare_eq_eq.mp h))
  · exact Nat.compare_eq_gt.mpr (Nat.succ_lt_succ (Nat.compare_eq_gt.mp h))

theorem compare_map_size (r q : Rule) :
    compare (r.target.map size) (q.target.map size) = compare r.rank q.rank := by
  unfold rank
  cases r.target with
  | none =>
    cases q.target with
    | none => rfl
    | some u => exact (Nat.compare_eq_lt.mpr (Nat.succ_pos _)).symm
  | some t =>
    cases q.target with
    | none => exact (Nat.compare_eq_gt.mpr (Nat.succ_pos _)).symm
    | some u => exact (compare_succ (size t) (size u)).symm

section Plain

variable {r q : Rule} (hr : r.fields = []) (hq : q.fields = [])

include hr hq

/-- **How two rules without fields compare**: by their ranks, and then by their targets. -/
theorem specificity_of_plain :
    r.specificity q = (compare r.rank q.rank).then (compare r.target q.target) := by
  have hlength : compare ([] : List Text).length ([] : List Text).length = .eq := rfl
  have hfields : compare ([] : List Text) [] = .eq := rfl
  rw [specificity, hr, hq, compare_map_size, hlength, hfields]
  cases compare r.target q.target <;> rfl

theorem rank_le_of_gt (h : r.specificity q = .gt) : q.rank ≤ r.rank := by
  rw [specificity_of_plain hr hq, Ordering.then_eq_gt, Nat.compare_eq_gt, Nat.compare_eq_eq] at h
  omega

theorem rank_le_of_lt (h : r.specificity q = .lt) : r.rank ≤ q.rank := by
  rw [specificity_of_plain hr hq, Ordering.then_eq_lt, Nat.compare_eq_lt, Nat.compare_eq_eq] at h
  omega

theorem specificity_eq_iff : r.specificity q = .eq ↔ r.target = q.target := by
  rw [specificity_of_plain hr hq, Ordering.then_eq_eq, Nat.compare_eq_eq, Std.compare_eq_iff_eq]
  constructor
  · exact fun h => h.2
  · intro h
    exact ⟨by rw [rank, rank, h], h⟩

end Plain

/-! ### Rules that fit the same message -/

/-- What the target of a message has to begin with, for the rule to fit. -/
def front (r : Rule) : Text := r.target.getD []

theorem fits_iff_of_plain {r : Rule} (hr : r.fields = []) (e : Event) :
    r.fits e = true ↔ r.front <+: e.target := by
  rw [fits, hr, List.all_nil, Bool.and_true, front]
  cases r.target with
  | none => exact iff_of_true rfl List.nil_prefix
  | some t => exact List.isPrefixOf_iff_prefix

private theorem eq_of_size_eq_of_append {t u w : Text} (h : t ++ w = u) (hsize : size t = size u) :
    t = u := by
  rw [← h, Utf8.size_append] at hsize
  have hw : w = [] := Utf8.eq_nil_of_size_eq_zero (by omega)
  rw [← h, hw, List.append_nil]

/-- Two beginnings of one text that are as long as each other are the same. -/
theorem eq_of_prefix_of_size {t u v : Text} (ht : t <+: v) (hu : u <+: v)
    (hsize : size t = size u) : t = u := by
  rcases List.prefix_or_prefix_of_prefix ht hu with ⟨w, hw⟩ | ⟨w, hw⟩
  · exact eq_of_size_eq_of_append hw hsize
  · exact (eq_of_size_eq_of_append hw hsize.symm).symm

/-- **Two rules of the same rank that fit the same message have the same target.** -/
theorem target_eq_of_fits {r q : Rule} (hr : r.fields = []) (hq : q.fields = []) {e : Event}
    (hfits : r.fits e = true) (hfits' : q.fits e = true) (hrank : r.rank = q.rank) :
    r.target = q.target := by
  rw [fits_iff_of_plain hr, front] at hfits
  rw [fits_iff_of_plain hq, front] at hfits'
  unfold rank at hrank
  cases hr : r.target with
  | none =>
    cases hq : q.target with
    | none => rfl
    | some u => simp [hr, hq] at hrank
  | some t =>
    cases hq : q.target with
    | none => simp [hr, hq] at hrank
    | some u =>
      rw [hr, Option.getD_some] at hfits
      rw [hq, Option.getD_some] at hfits'
      have hsize : size t = size u := by simpa [hr, hq] using hrank
      rw [eq_of_prefix_of_size hfits hfits' hsize]

theorem fits_congr {r q : Rule} (hr : r.fields = []) (hq : q.fields = [])
    (htarget : r.target = q.target) (e : Event) : r.fits e = q.fits e := by
  rw [fits, fits, hr, hq, htarget]

/-- **The rule that decides about a message**: the first that fits it. -/
def deciding? (rs : List Rule) (e : Event) : Option Rule := rs.find? (·.fits e)

section Deciding

variable {r : Rule} {e : Event} {rs : List Rule}

theorem deciding?_cons_of_fits (h : r.fits e = true) : deciding? (r :: rs) e = some r :=
  List.find?_cons_of_pos h

theorem deciding?_cons_of_not_fits (h : ¬ r.fits e = true) :
    deciding? (r :: rs) e = deciding? rs e := List.find?_cons_of_neg h

end Deciding

/-! ### Rules in order -/

/-- **The invariant of a filter without fields**: no rule comes before one of a higher rank. -/
structure Ranked (rs : List Rule) : Prop where
  plain : ∀ r ∈ rs, r.fields = []
  descending : rs.Pairwise fun r q => q.rank ≤ r.rank

theorem Ranked.nil : Ranked [] := ⟨by simp, List.Pairwise.nil⟩

theorem Ranked.tail {q : Rule} {qs : List Rule} (h : Ranked (q :: qs)) : Ranked qs :=
  ⟨fun r hr => h.plain r (List.mem_cons_of_mem q hr), h.descending.of_cons⟩

theorem Ranked.rank_le_of_mem {p q : Rule} {qs : List Rule} (h : Ranked (q :: qs))
    (hp : p ∈ q :: qs) : p.rank ≤ q.rank := by
  rcases List.mem_cons.mp hp with rfl | hp
  · exact Nat.le_refl _
  · exact (List.pairwise_cons.mp h.descending).1 p hp

theorem mem_of_mem_insert {r q : Rule} {rs : List Rule} (h : q ∈ insert r rs) :
    q = r ∨ q ∈ rs := by
  induction rs with
  | nil => exact Or.inl (List.mem_singleton.mp h)
  | cons p ps ih =>
    rw [insert] at h
    split at h
    · rcases List.mem_cons.mp h with h | h
      · exact Or.inl h
      · exact Or.inr h
    · rcases List.mem_cons.mp h with h | h
      · exact Or.inl h
      · exact Or.inr (List.mem_cons_of_mem p h)
    · rcases List.mem_cons.mp h with h | h
      · exact Or.inr (h ▸ List.mem_cons_self)
      · rcases ih h with h | h
        · exact Or.inl h
        · exact Or.inr (List.mem_cons_of_mem p h)

section Insert

variable {r : Rule} {rs : List Rule} (hr : r.fields = [])

include hr

/-- **An insertion keeps the order.** -/
theorem Ranked.insert (h : Ranked rs) : Ranked (insert r rs) := by
  refine ⟨fun q hq => ?_, ?_⟩
  · rcases mem_of_mem_insert hq with rfl | hq
    · exact hr
    · exact h.plain q hq
  · obtain ⟨hplain, hdescending⟩ := h
    induction rs with
    | nil => exact List.pairwise_singleton _ _
    | cons q qs ih =>
      obtain ⟨hq, hqs⟩ := List.forall_mem_cons.mp hplain
      obtain ⟨hfirst, hlater⟩ := List.pairwise_cons.mp hdescending
      rw [Rule.insert]
      split
      · next hgt =>
        have hle := rank_le_of_gt hr hq hgt
        refine List.pairwise_cons.mpr ⟨?_, hdescending⟩
        exact List.forall_mem_cons.mpr ⟨hle, fun p hp => Nat.le_trans (hfirst p hp) hle⟩
      · next heq =>
        have hrank : r.rank = q.rank := by
          rw [rank, rank, (specificity_eq_iff hr hq).mp heq]
        exact List.pairwise_cons.mpr ⟨hrank ▸ hfirst, hlater⟩
      · next hlt =>
        refine List.pairwise_cons.mpr ⟨fun p hp => ?_, ih hqs hlater⟩
        rcases mem_of_mem_insert hp with rfl | hp
        · exact rank_le_of_lt hr hq hlt
        · exact hfirst p hp

variable {e : Event} (h : Ranked rs)

include h

/-- A rule that does not fit a message does not touch what decides it. -/
theorem deciding?_insert_of_not_fits (hfits : ¬ r.fits e = true) :
    deciding? (Rule.insert r rs) e = deciding? rs e := by
  induction rs with
  | nil => exact deciding?_cons_of_not_fits hfits
  | cons q qs ih =>
    rw [Rule.insert]
    split
    · exact deciding?_cons_of_not_fits hfits
    · next heq =>
      have htarget := (specificity_eq_iff hr (h.plain q List.mem_cons_self)).mp heq
      have hfits' : ¬ q.fits e = true :=
        fits_congr hr (h.plain q List.mem_cons_self) htarget e ▸ hfits
      rw [deciding?_cons_of_not_fits hfits, deciding?_cons_of_not_fits hfits']
    · by_cases hq : q.fits e = true
      · rw [deciding?_cons_of_fits hq, deciding?_cons_of_fits hq]
      · rw [deciding?_cons_of_not_fits hq, deciding?_cons_of_not_fits hq, ih h.tail]

/-- **A rule that fits a message decides it, unless a rule of a higher rank does.** -/
theorem deciding?_insert_of_fits (hfits : r.fits e = true) :
    deciding? (Rule.insert r rs) e
      = match deciding? rs e with
        | none => some r
        | some q => if r.rank < q.rank then some q else some r := by
  induction rs with
  | nil => exact deciding?_cons_of_fits hfits
  | cons q qs ih =>
    have hq : q.fields = [] := h.plain q List.mem_cons_self
    rw [Rule.insert]
    split
    · next hgt =>
      -- no rule that was there is of a higher rank
      rw [deciding?_cons_of_fits hfits]
      cases hfind : deciding? (q :: qs) e with
      | none => rfl
      | some p =>
        have hle : p.rank ≤ q.rank := h.rank_le_of_mem (List.mem_of_find?_eq_some hfind)
        have hle' : q.rank ≤ r.rank := rank_le_of_gt hr hq hgt
        exact (if_neg (by omega)).symm
    · next heq =>
      -- the rule takes the place of one with the same target
      have htarget := (specificity_eq_iff hr hq).mp heq
      have hfits' : q.fits e = true := fits_congr hr hq htarget e ▸ hfits
      have hrank : r.rank = q.rank := by rw [rank, rank, htarget]
      rw [deciding?_cons_of_fits hfits, deciding?_cons_of_fits hfits']
      exact (if_neg (by omega)).symm
    · next hlt =>
      by_cases hfits' : q.fits e = true
      · have hle : r.rank ≤ q.rank := rank_le_of_lt hr hq hlt
        have hne : r.rank ≠ q.rank := by
          intro hrank
          have htarget := target_eq_of_fits hr hq hfits hfits' hrank
          rw [(specificity_eq_iff hr hq).mpr htarget] at hlt
          cases hlt
        rw [deciding?_cons_of_fits hfits', deciding?_cons_of_fits hfits']
        exact (if_pos (by omega)).symm
      · rw [deciding?_cons_of_not_fits hfits', deciding?_cons_of_not_fits hfits', ih h.tail]

end Insert

end Rule

end Salutation.Log
