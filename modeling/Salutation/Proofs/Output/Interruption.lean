import Salutation.Proofs.Output.Delivery

/-!
# Interruptions leave no trace

A writing that is interrupted goes on as if nothing had been answered.  So a stream can be compared
with the same stream without its interruptions (`Script.uninterrupted`).  The two writings run side
by side: where one meets an interruption the other stands still, and otherwise they take the same
step.  `Progress.Retraces` is what holds of the two at any time: they have taken the same bytes and
failed alike, the replies that are left differ in interruptions only, and so do the calls, by as
many as there were interruptions among the replies that were used.

The account holds of `Writer.writeAll` by induction on the replies (`writeAll_retraces`), and of one
part after another (`writeParts_retraces`).  `Arguments.deliver_uninterrupted` says what this means
for a greeting.  The flush is another matter: it is not tried again.
-/

namespace Salutation

/-! ### Interruptions among replies -/

/-- Whether a reply is an interruption, in one of its three forms. -/
def Reply.IsInterruption : Reply → Prop
  | .accept _ => False
  | .fail e => e.Interrupted

instance (r : Reply) : Decidable r.IsInterruption :=
  match r with
  | .accept _ => inferInstanceAs (Decidable False)
  | .fail e => inferInstanceAs (Decidable e.Interrupted)

/-- Replies without the interruptions among them. -/
def uninterrupted (replies : List Reply) : List Reply := replies.filter (¬ ·.IsInterruption)

/-- How many interruptions there are among replies. -/
def interruptions (replies : List Reply) : Nat := replies.countP (·.IsInterruption)

/-- A stream without its interruptions. -/
def Script.uninterrupted (stream : Script) : Script :=
  { stream with replies := Salutation.uninterrupted stream.replies }

section Replies

variable {r : Reply} (rs : List Reply)

theorem uninterrupted_cons_of_interruption (h : r.IsInterruption) :
    uninterrupted (r :: rs) = uninterrupted rs := List.filter_cons_of_neg (by simpa using h)

theorem uninterrupted_cons (h : ¬ r.IsInterruption) :
    uninterrupted (r :: rs) = r :: uninterrupted rs := List.filter_cons_of_pos (by simpa using h)

theorem interruptions_cons_of_interruption (h : r.IsInterruption) :
    interruptions (r :: rs) = interruptions rs + 1 := List.countP_cons_of_pos (by simpa using h)

theorem interruptions_cons (h : ¬ r.IsInterruption) :
    interruptions (r :: rs) = interruptions rs := List.countP_cons_of_neg (by simpa using h)

theorem interruptions_append (rs' : List Reply) :
    interruptions (rs ++ rs') = interruptions rs + interruptions rs' := List.countP_append

end Replies

/-! ### Two writings side by side -/

/-- **What holds of a writing to the replies `rs`, and of the same without interruptions.** -/
structure Progress.Retraces (rs : List Reply) (p q : Progress) : Prop where
  taken_eq : p.taken = q.taken
  failure_eq : p.failure = q.failure
  /-- Each call uses up one reply, as long as there are replies. -/
  left_eq : p.replies = rs.drop p.calls
  uninterrupted_left : q.replies = uninterrupted p.replies
  /-- There is one more call for each interruption among the replies that were used. -/
  calls_eq : p.calls = q.calls + interruptions (rs.take p.calls)

namespace Progress.Retraces

variable {rs : List Reply} {p q : Progress} {r : Reply}

/-- No call is made. -/
theorem idle (rs : List Reply) :
    Retraces rs ⟨[], 0, rs, none⟩ ⟨[], 0, uninterrupted rs, none⟩ := ⟨rfl, rfl, rfl, rfl, rfl⟩

/-- At an interruption the other writing stands still. -/
theorem interrupted (h : Retraces rs p q) (hr : r.IsInterruption) :
    Retraces (r :: rs) (p.afterCall []) q where
  taken_eq := h.taken_eq
  failure_eq := h.failure_eq
  left_eq := h.left_eq
  uninterrupted_left := h.uninterrupted_left
  calls_eq := by
    have hcalls := h.calls_eq
    show p.calls + 1 = q.calls + interruptions (r :: rs.take p.calls)
    rw [interruptions_cons_of_interruption _ hr]
    omega

/-- At any other reply both writings take the same step. -/
theorem afterCall (h : Retraces rs p q) (hr : ¬ r.IsInterruption) (bs : Bytes) :
    Retraces (r :: rs) (p.afterCall bs) (q.afterCall bs) where
  taken_eq := congrArg (bs ++ ·) h.taken_eq
  failure_eq := h.failure_eq
  left_eq := h.left_eq
  uninterrupted_left := h.uninterrupted_left
  calls_eq := by
    have hcalls := h.calls_eq
    show p.calls + 1 = q.calls + 1 + interruptions (r :: rs.take p.calls)
    rw [interruptions_cons _ hr]
    omega

/-- One call ends both writings. -/
theorem ended (hr : ¬ r.IsInterruption) (rs : List Reply) (e : OutputError) :
    Retraces (r :: rs) ⟨[], 1, rs, some e⟩ ⟨[], 1, uninterrupted rs, some e⟩ where
  taken_eq := rfl
  failure_eq := rfl
  left_eq := rfl
  uninterrupted_left := rfl
  calls_eq := by
    show 1 = 1 + interruptions [r]
    rw [interruptions_cons [] hr]
    rfl

end Progress.Retraces

namespace Writer

theorem writeAll_nil (rs : List Reply) : writeAll rs [] = ⟨[], 0, rs, none⟩ := by
  rw [writeAll]

section Bytes

variable (rs : List Reply) {bs : Bytes} (hbs : bs ≠ [])

include hbs

theorem writeAll_of_unscripted : writeAll [] bs = ⟨bs, 1, [], none⟩ := by
  rw [writeAll]
  exact hbs

theorem writeAll_accept_zero :
    writeAll (.accept 0 :: rs) bs = ⟨[], 1, rs, some .nothingTaken⟩ := by
  rw [writeAll]
  exact hbs

theorem writeAll_accept_succ (n : Nat) :
    writeAll (.accept (n + 1) :: rs) bs
      = (writeAll rs (bs.drop (n + 1))).afterCall (bs.take (n + 1)) := by
  rw [writeAll]
  exact hbs

theorem writeAll_interrupted {e : OutputError} (he : e.Interrupted) :
    writeAll (.fail e :: rs) bs = (writeAll rs bs).afterCall [] := by
  rw [writeAll]
  · exact if_pos (OutputError.isInterruption_iff.mpr he)
  · exact hbs

theorem writeAll_failed {e : OutputError} (he : ¬ e.Interrupted) :
    writeAll (.fail e :: rs) bs = ⟨[], 1, rs, some e⟩ := by
  rw [writeAll]
  · exact if_neg fun h => he (OutputError.isInterruption_iff.mp h)
  · exact hbs

end Bytes

/-- **A writing goes on behind an interruption as if there were none.** -/
theorem writeAll_retraces (rs : List Reply) :
    ∀ bs : Bytes, (writeAll rs bs).Retraces rs (writeAll (uninterrupted rs) bs) := by
  induction rs with
  | nil =>
    intro bs
    cases bs with
    | nil => exact .idle []
    | cons b bs =>
      have hwrite := writeAll_of_unscripted (List.cons_ne_nil b bs)
      rw [show uninterrupted [] = [] from rfl, hwrite]
      exact ⟨rfl, rfl, rfl, rfl, rfl⟩
  | cons r rs ih =>
    intro bs
    by_cases hbs : bs = []
    · rw [hbs, writeAll_nil, writeAll_nil]
      exact .idle (r :: rs)
    cases r with
    | accept n =>
      have hr : ¬ (Reply.accept n).IsInterruption := id
      rw [uninterrupted_cons rs hr]
      cases n with
      | zero =>
        rw [writeAll_accept_zero _ hbs, writeAll_accept_zero _ hbs]
        exact .ended hr rs _
      | succ n =>
        rw [writeAll_accept_succ _ hbs, writeAll_accept_succ _ hbs]
        exact (ih _).afterCall hr _
    | fail e =>
      by_cases he : e.Interrupted
      · have hr : (Reply.fail e).IsInterruption := he
        rw [uninterrupted_cons_of_interruption rs hr, writeAll_interrupted _ hbs he]
        exact (ih bs).interrupted hr
      · have hr : ¬ (Reply.fail e).IsInterruption := he
        rw [uninterrupted_cons rs hr, writeAll_failed _ hbs he, writeAll_failed _ hbs he]
        exact .ended hr rs e

/-- The same holds of parts that are written one after the other. -/
theorem writeParts_retraces (parts : List Bytes) :
    ∀ rs : List Reply, (writeParts rs parts).Retraces rs (writeParts (uninterrupted rs) parts) := by
  induction parts with
  | nil => exact fun rs => .idle rs
  | cons part parts ih =>
    intro rs
    have hpart := writeAll_retraces rs part
    cases hfailure : (writeAll rs part).failure with
    | some e =>
      have hfailure' := hpart.failure_eq.symm.trans hfailure
      rw [writeParts_cons_of_some hfailure, writeParts_cons_of_some hfailure']
      exact hpart
    | none =>
      have hfailure' := hpart.failure_eq.symm.trans hfailure
      have hrest := ih (writeAll rs part).replies
      rw [writeParts_cons_of_none hfailure, writeParts_cons_of_none hfailure',
        hpart.uninterrupted_left]
      refine ⟨?_, hrest.failure_eq, ?_, hrest.uninterrupted_left, ?_⟩
      · exact congrArg₂ (· ++ ·) hpart.taken_eq hrest.taken_eq
      · -- the second part goes on with the replies that the first one left
        refine hrest.left_eq.trans ?_
        rw [hpart.left_eq, List.drop_drop]
      · show _ + _ = _ + _ + interruptions (rs.take (_ + _))
        rw [List.take_add, interruptions_append, ← hpart.left_eq]
        have hcalls := hpart.calls_eq
        have hcalls' := hrest.calls_eq
        omega

end Writer

/-! ### Deliveries -/

namespace Arguments

variable (a : Arguments) (stream : Script)

/-- A stream that takes at least a byte whenever it is not interrupted refuses nothing. -/
theorem firstRefusal?_eq_none {replies : List Reply}
    (h : ∀ r ∈ replies, r.IsInterruption ∨ ∃ n, r = .accept (n + 1)) :
    firstRefusal? replies = none := by
  refine List.findSome?_eq_none_iff.mpr fun r hr => ?_
  rcases h r hr with hinterruption | ⟨n, rfl⟩
  · cases r with
    | accept n => exact hinterruption.elim
    | fail e => exact if_pos hinterruption
  · rfl

/-- A stream that has taken the whole line is flushed, once and for all. -/
theorem deliver_of_written {stream : Script}
    (h : (a.deliver stream).written = Utf8.encode a.greetingLine) :
    (a.deliver stream).flushCalls = 1 ∧ (a.deliver stream).failure = stream.flush := by
  cases hfailure : (Writer.writeParts stream.replies a.greetingParts).failure with
  | none =>
    rw [a.deliver_of_none hfailure]
    exact ⟨rfl, rfl⟩
  | some e =>
    -- a writing that fails leaves bytes behind
    have hmissing := ((a.writeParts_greetingParts_faithful stream.replies).refused e hfailure).1
    rw [a.deliver_of_some hfailure] at h
    exact absurd h hmissing

/-- What holds of the two writings holds of the two deliveries. -/
theorem deliver_retraces :
    (a.deliver stream).failure = (a.deliver stream.uninterrupted).failure
      ∧ (a.deliver stream).written = (a.deliver stream.uninterrupted).written
      ∧ (a.deliver stream).flushCalls = (a.deliver stream.uninterrupted).flushCalls
      ∧ (a.deliver stream).writeCalls = (a.deliver stream.uninterrupted).writeCalls
          + interruptions (stream.replies.take (a.deliver stream).writeCalls) := by
  have hretraces := Writer.writeParts_retraces a.greetingParts stream.replies
  have hother : (Writer.writeParts stream.uninterrupted.replies a.greetingParts).failure
      = (Writer.writeParts stream.replies a.greetingParts).failure := hretraces.failure_eq.symm
  cases hfailure : (Writer.writeParts stream.replies a.greetingParts).failure with
  | none =>
    rw [a.deliver_of_none hfailure, a.deliver_of_none (hother.trans hfailure)]
    exact ⟨rfl, rfl, rfl, hretraces.calls_eq⟩
  | some e =>
    rw [a.deliver_of_some hfailure, a.deliver_of_some (hother.trans hfailure)]
    exact ⟨rfl, hretraces.taken_eq, rfl, hretraces.calls_eq⟩

/-- **Interruptions leave no trace** in a delivery but the calls that were made again.  A stream
that only cuts the line up and interrupts is as good as one that takes everything.  An interrupted
flush, on the other hand, is reported. -/
theorem deliver_uninterrupted :
    (a.deliver stream).failure = (a.deliver stream.uninterrupted).failure
      ∧ (a.deliver stream).written = (a.deliver stream.uninterrupted).written
      ∧ (a.deliver stream).flushCalls = (a.deliver stream.uninterrupted).flushCalls
      ∧ (a.deliver stream).writeCalls = (a.deliver stream.uninterrupted).writeCalls
          + interruptions (stream.replies.take (a.deliver stream).writeCalls)
      ∧ ((∀ r ∈ stream.replies, r.IsInterruption ∨ ∃ n, r = .accept (n + 1)) →
          (a.deliver stream).failure = (a.deliver { flush := stream.flush }).failure
            ∧ (a.deliver stream).written = (a.deliver { flush := stream.flush }).written)
      ∧ ∀ e : OutputError, e.Interrupted → stream.flush = some e →
          (a.deliver stream).written = Utf8.encode a.greetingLine →
            (a.deliver stream).flushCalls = 1 ∧ (a.deliver stream).failure = some e := by
  obtain ⟨hfailure, hwritten, hflushes, hcalls⟩ := a.deliver_retraces stream
  refine ⟨hfailure, hwritten, hflushes, hcalls, fun hreplies => ?_, ?_⟩
  · have hempty : firstRefusal? ({ flush := stream.flush } : Script).replies = none := rfl
    rw [a.deliver_of_no_refusal (firstRefusal?_eq_none hreplies), a.deliver_of_no_refusal hempty]
    exact ⟨rfl, rfl⟩
  · intro e _ hflush hline
    obtain ⟨honce, hreported⟩ := a.deliver_of_written hline
    exact ⟨honce, hreported.trans hflush⟩

end Arguments

end Salutation
