import Mathlib.Tactic.SplitIfs
import Salutation.Output.Writer

/-!
# What becomes of a byte string that is written

A stream refuses a byte string by the first of its replies that is neither an interruption nor takes
anything (`Reply.refusal?`).  The three forms of an interruption are those that a writing does not
heed (`OutputError.isInterruption_iff`).  `Progress.Faithful` is the account that a writing
gives of itself: the stream took a beginning of the bytes; if it took all of them, no reply refused
so far; and if the writing failed, bytes are missing, and the error is that of the first refusal.

The account holds of `Writer.writeAll` for every script (`writeAll_faithful`, by induction on the
script: each step uses up one reply).  It is preserved by writing one part after another, so it
holds of `Writer.writeParts` for the parts put together (`writeParts_faithful`).
-/

namespace Salutation

/-! ### Interruptions and refusals -/

/-- Of the error numbers, four alone says that a call was interrupted. -/
theorem SystemError.kind_eq_interrupted_iff {code : Int} :
    SystemError.kind code = .interrupted ↔ code = 4 := by
  constructor
  · intro h
    unfold SystemError.kind at h
    split at h
    · next t k hentry =>
      obtain ⟨front, back, htable, -⟩ := List.lookup_eq_some_iff.mp hentry
      have hrows : ∀ row ∈ SystemError.table, row.2.2 = .interrupted → row.1 = 4 := by
        decide +kernel
      exact hrows (code, t, k) (htable ▸ List.mem_append_right _ List.mem_cons_self) h
    · cases h
  · rintro rfl
    rfl

/-- An interruption, in one of its three forms: the error number four, the bare kind, and an error
of that kind with a message. -/
def OutputError.Interrupted : OutputError → Prop
  | .system code => code = 4
  | .bare kind => kind = .interrupted
  | .custom kind _ => kind = .interrupted
  | .nothingTaken => False

instance (e : OutputError) : Decidable e.Interrupted :=
  match e with
  | .system code => inferInstanceAs (Decidable (code = 4))
  | .bare kind => inferInstanceAs (Decidable (kind = .interrupted))
  | .custom kind _ => inferInstanceAs (Decidable (kind = .interrupted))
  | .nothingTaken => inferInstanceAs (Decidable False)

/-- The three forms are what a writing does not heed. -/
theorem OutputError.isInterruption_iff {e : OutputError} :
    e.isInterruption = true ↔ e.Interrupted := by
  rw [isInterruption, decide_eq_true_eq]
  cases e with
  | system code => exact SystemError.kind_eq_interrupted_iff
  | bare kind => exact Iff.rfl
  | custom kind message => exact Iff.rfl
  | nothingTaken => simp [kind, Interrupted]

/-- The error that a reply ends a writing with, if it does: a reply that takes nothing, and an error
that is no interruption. -/
def Reply.refusal? : Reply → Option OutputError
  | .accept 0 => some .nothingTaken
  | .accept (_ + 1) => none
  | .fail e => if e.Interrupted then none else some e

/-- The error of the first reply that refuses. -/
def firstRefusal? (replies : List Reply) : Option OutputError := replies.findSome? Reply.refusal?

theorem firstRefusal?_cons_of_refusal {r : Reply} {e : OutputError} (h : r.refusal? = some e)
    (rs : List Reply) : firstRefusal? (r :: rs) = some e := by
  rw [firstRefusal?, List.findSome?_cons, h]

theorem firstRefusal?_cons_of_none {r : Reply} (h : r.refusal? = none) (rs : List Reply) :
    firstRefusal? (r :: rs) = firstRefusal? rs := by
  rw [firstRefusal?, List.findSome?_cons, h]
  rfl

/-! ### The account of a writing -/

/-- **The account of a writing** of the bytes `bs` to a stream with the replies `rs`. -/
structure Progress.Faithful (rs : List Reply) (bs : Bytes) (p : Progress) : Prop where
  /-- Nothing is lost, doubled or moved. -/
  taken_prefix : p.taken <+: bs
  /-- Without an error the stream took all, and no reply so far refused. -/
  taken_eq : p.failure = none → p.taken = bs ∧ firstRefusal? rs = firstRefusal? p.replies
  /-- With an error bytes are missing, and it is the error of the first refusal. -/
  refused : ∀ e, p.failure = some e → p.taken ≠ bs ∧ firstRefusal? rs = some e

namespace Progress.Faithful

variable {rs : List Reply} {bs : Bytes} {p : Progress}

/-- A call in front that refused nothing and took the bytes `front`. -/
theorem afterCall {r : Reply} (h : p.Faithful rs bs) (hr : r.refusal? = none) (front : Bytes) :
    (p.afterCall front).Faithful (r :: rs) (front ++ bs) where
  taken_prefix := (List.prefix_append_right_inj front).mpr h.taken_prefix
  taken_eq hfailure := by
    obtain ⟨htaken, hreplies⟩ := h.taken_eq hfailure
    refine ⟨?_, ?_⟩
    · rw [Progress.afterCall, htaken]
    · rw [firstRefusal?_cons_of_none hr, hreplies]
      rfl
  refused e hfailure := by
    obtain ⟨htaken, hrefusal⟩ := h.refused e hfailure
    refine ⟨fun heq => htaken (List.append_cancel_left heq), ?_⟩
    rw [firstRefusal?_cons_of_none hr, hrefusal]

end Progress.Faithful

namespace Writer

/-- A reply that refuses ends the writing of bytes that are there. -/
theorem faithful_of_refusal {r : Reply} {e : OutputError} (hr : r.refusal? = some e)
    (rs : List Reply) {bs : Bytes} (hbs : bs ≠ []) :
    Progress.Faithful (r :: rs) bs ⟨[], 1, rs, some e⟩ where
  taken_prefix := List.nil_prefix
  taken_eq hfailure := by cases hfailure
  refused e' hfailure := by
    obtain rfl := Option.some.inj hfailure
    exact ⟨hbs.symm, firstRefusal?_cons_of_refusal hr rs⟩

/-- **`writeAll` gives a faithful account**, whatever the replies. -/
theorem writeAll_faithful (rs : List Reply) :
    ∀ bs : Bytes, (writeAll rs bs).Faithful rs bs := by
  -- nothing to write: no call is made
  have hnil : ∀ rs : List Reply, (writeAll rs []).Faithful rs [] := by
    intro rs
    rw [writeAll]
    exact ⟨List.prefix_rfl, fun _ => ⟨rfl, rfl⟩, fun e he => by cases he⟩
  induction rs with
  | nil =>
    intro bs
    cases bs with
    | nil => exact hnil []
    | cons b bs =>
      rw [writeAll]
      · exact ⟨List.prefix_rfl, fun _ => ⟨rfl, rfl⟩, fun e he => by cases he⟩
      · simp
  | cons r rs ih =>
    intro bs
    cases bs with
    | nil => exact hnil (r :: rs)
    | cons b bs =>
      cases r with
      | accept n =>
        cases n with
        | zero =>
          rw [writeAll]
          · exact faithful_of_refusal rfl rs (by simp)
          · simp
        | succ n =>
          rw [writeAll]
          · have hr : (Reply.accept (n + 1)).refusal? = none := rfl
            have h := (ih ((b :: bs).drop (n + 1))).afterCall hr ((b :: bs).take (n + 1))
            rwa [List.take_append_drop] at h
          · simp
      | fail e =>
        rw [writeAll]
        · split_ifs with he
          · rw [OutputError.isInterruption_iff] at he
            have hr : (Reply.fail e).refusal? = none := by rw [Reply.refusal?, if_pos he]
            exact (ih (b :: bs)).afterCall hr []
          · rw [OutputError.isInterruption_iff] at he
            have hr : (Reply.fail e).refusal? = some e := by rw [Reply.refusal?, if_neg he]
            exact faithful_of_refusal hr rs (by simp)
        · simp

theorem writeParts_cons_of_some {rs : List Reply} {part : Bytes} {e : OutputError}
    (h : (writeAll rs part).failure = some e) (parts : List Bytes) :
    writeParts rs (part :: parts) = writeAll rs part := by
  rw [writeParts]
  simp only [h]

/-- Behind a part that is taken the others are written to the replies that are left. -/
theorem writeParts_cons_of_none {rs : List Reply} {part : Bytes}
    (h : (writeAll rs part).failure = none) (parts : List Bytes) :
    writeParts rs (part :: parts)
      = { writeParts (writeAll rs part).replies parts with
          taken := (writeAll rs part).taken ++ (writeParts (writeAll rs part).replies parts).taken
          calls := (writeAll rs part).calls
            + (writeParts (writeAll rs part).replies parts).calls } := by
  rw [writeParts]
  simp only [h]

/-- **`writeParts` gives a faithful account** of the parts put together. -/
theorem writeParts_faithful (parts : List Bytes) :
    ∀ rs : List Reply, (writeParts rs parts).Faithful rs parts.flatten := by
  induction parts with
  | nil => exact fun rs => ⟨List.prefix_rfl, fun _ => ⟨rfl, rfl⟩, fun e he => by cases he⟩
  | cons part parts ih =>
    intro rs
    have hpart := writeAll_faithful rs part
    rw [List.flatten_cons]
    cases hfailure : (writeAll rs part).failure with
    | some e =>
      -- what is missing of the part is missing of the whole
      rw [writeParts_cons_of_some hfailure]
      obtain ⟨hmissing, hrefusal⟩ := hpart.refused e hfailure
      refine ⟨hpart.taken_prefix.trans (List.prefix_append _ _), ?_, ?_⟩
      · intro hnone
        rw [hfailure] at hnone
        cases hnone
      · intro e' he'
        rw [hfailure] at he'
        obtain rfl := Option.some.inj he'
        refine ⟨fun hall => hmissing ?_, hrefusal⟩
        have hlength := congrArg List.length hall
        rw [List.length_append] at hlength
        exact hpart.taken_prefix.eq_of_length_le (by omega)
    | none =>
      rw [writeParts_cons_of_none hfailure]
      obtain ⟨htaken, hreplies⟩ := hpart.taken_eq hfailure
      rw [htaken]
      have hrest := ih (writeAll rs part).replies
      refine ⟨(List.prefix_append_right_inj part).mpr hrest.taken_prefix, ?_, ?_⟩
      · intro hnone
        obtain ⟨htaken', hreplies'⟩ := hrest.taken_eq hnone
        exact ⟨congrArg (part ++ ·) htaken', hreplies.trans hreplies'⟩
      · intro e he
        obtain ⟨hmissing, hrefusal⟩ := hrest.refused e he
        exact ⟨fun hall => hmissing (List.append_cancel_left hall), hreplies.trans hrefusal⟩

end Writer

end Salutation
