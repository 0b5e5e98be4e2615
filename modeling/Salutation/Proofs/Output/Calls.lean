import Salutation.Proofs.Output.Interruption

/-!
# How often a stream is called

A writing is a loop, and this module follows it turn by turn.  A `Writing` is where the loop stands:
what is left of the parts, the replies to come, and what was taken and how often the stream was
called so far.  A turn (`Writing.turn`) drops a part that is used up, or calls the stream once;
`Writing.turn_cases` says all that a turn can do.

* `Writing.within_eq`: the loop ends, and with what `Writer.writeParts` says.  A turn does not
  change what comes of a writing, and every turn but the last uses up a reply or a part.
* `Writing.Paid` is what holds of the calls at any time.  A call is paid for twice: with a reply,
  or, when there are none, with a part; and with an interruption or a byte.  A turn keeps this
  (`Paid.goesOn`), and where the loop ends it bounds the number of all calls (`Paid.ended`).  A
  refusal takes no byte, but then there is one left to pay for it.

`Arguments.deliver_calls` says what this means for a greeting, which has two parts.
-/

namespace Salutation

/-- How many of the bytes offered a reply takes, if there are as many. -/
def Reply.count : Reply → Nat
  | .accept n => n
  | .fail _ => 0

/-- A reply that does not refuse interrupts, or takes something. -/
theorem Reply.isInterruption_or_count_pos {r : Reply} (h : r.refusal? = none) :
    r.IsInterruption ∨ 0 < r.count := by
  cases r with
  | accept n =>
    cases n with
    | zero => cases h
    | succ n => exact Or.inr (Nat.succ_pos n)
  | fail e =>
    by_cases he : e.Interrupted
    · exact Or.inl he
    · rw [refusal?, if_neg he] at h
      cases h

theorem Reply.not_isInterruption_of_refusal {r : Reply} {e : OutputError}
    (h : r.refusal? = some e) : ¬ r.IsInterruption := by
  cases r with
  | accept n => exact id
  | fail e' =>
    intro he
    have hnone : (Reply.fail e').refusal? = none := if_pos he
    rw [h] at hnone
    cases hnone

/-! ### One call of a writing -/

namespace Writer

section Call

variable {r : Reply} (rs : List Reply) {bs : Bytes} (hbs : bs ≠ [])

include hbs

theorem writeAll_of_refusal {e : OutputError} (h : r.refusal? = some e) :
    writeAll (r :: rs) bs = ⟨[], 1, rs, some e⟩ := by
  cases r with
  | accept n =>
    cases n with
    | zero =>
      rw [writeAll_accept_zero rs hbs, ← h]
      rfl
    | succ n => cases h
  | fail e' =>
    by_cases he : e'.Interrupted
    · rw [Reply.refusal?, if_pos he] at h
      cases h
    · rw [writeAll_failed rs hbs he, ← h, Reply.refusal?, if_neg he]

/-- Behind a reply that does not refuse, the writing goes on with what the reply left. -/
theorem writeAll_of_no_refusal (h : r.refusal? = none) :
    writeAll (r :: rs) bs
      = (writeAll rs (bs.drop r.count)).afterCall (bs.take r.count) := by
  cases r with
  | accept n =>
    cases n with
    | zero => cases h
    | succ n => exact writeAll_accept_succ rs hbs n
  | fail e =>
    by_cases he : e.Interrupted
    · exact writeAll_interrupted rs hbs he
    · rw [Reply.refusal?, if_neg he] at h
      cases h

end Call

/-- A call in front of a part is a call in front of all parts. -/
theorem writeParts_cons_of_afterCall {rs rs' : List Reply} {bs bs' front : Bytes}
    (h : writeAll rs bs = (writeAll rs' bs').afterCall front) (parts : List Bytes) :
    writeParts rs (bs :: parts) = (writeParts rs' (bs' :: parts)).afterCall front := by
  have hfailure : (writeAll rs bs).failure = (writeAll rs' bs').failure := by
    rw [h]
    rfl
  cases hfailure' : (writeAll rs' bs').failure with
  | some e =>
    rw [writeParts_cons_of_some hfailure', writeParts_cons_of_some (hfailure.trans hfailure'), h]
  | none =>
    rw [writeParts_cons_of_none hfailure', writeParts_cons_of_none (hfailure.trans hfailure'), h]
    simp only [Progress.afterCall, List.append_assoc, Nat.add_right_comm]

theorem writeParts_nil_cons (rs : List Reply) (parts : List Bytes) :
    writeParts rs ([] :: parts) = writeParts rs parts := by
  have hnone : (writeAll rs []).failure = none := by rw [writeAll_nil]
  rw [writeParts_cons_of_none hnone, writeAll_nil]
  simp

end Writer

/-! ### The loop -/

/-- A writing under way: what is left of the parts, the replies to come, the bytes that were taken,
and how often the stream was called. -/
structure Writing where
  left : List Bytes
  replies : List Reply
  taken : Bytes
  calls : Nat
  deriving Repr, DecidableEq

namespace Writing

/-- A writing that has not begun. -/
def start (rs : List Reply) (parts : List Bytes) : Writing := ⟨parts, rs, [], 0⟩

/-- **One turn of the loop**: where the writing stands behind it, or what came of the writing if it
has ended. -/
def turn : Writing → Writing ⊕ Progress
  | ⟨[], rs, taken, calls⟩ => .inr ⟨taken, calls, rs, none⟩
  | ⟨[] :: parts, rs, taken, calls⟩ => .inl ⟨parts, rs, taken, calls⟩
  | ⟨bs :: parts, [], taken, calls⟩ => .inl ⟨parts, [], taken ++ bs, calls + 1⟩
  | ⟨bs :: parts, r :: rs, taken, calls⟩ =>
    match r.refusal? with
    | some e => .inr ⟨taken, calls + 1, rs, some e⟩
    | none => .inl ⟨bs.drop r.count :: parts, rs, taken ++ bs.take r.count, calls + 1⟩

/-- What came of a writing, if it ends within so many turns. -/
def within : Nat → Writing → Option Progress
  | 0, _ => none
  | n + 1, w =>
    match w.turn with
    | .inl w' => within n w'
    | .inr p => some p

/-- What a turn does after which the loop goes on. -/
inductive GoesOn : Writing → Writing → Prop where
  /-- A part that is used up is dropped. -/
  | partDone {parts rs taken calls} :
    GoesOn ⟨[] :: parts, rs, taken, calls⟩ ⟨parts, rs, taken, calls⟩
  /-- Without a reply to come, the stream takes what is left of the part. -/
  | unscripted {bs parts taken calls} (hbs : bs ≠ []) :
    GoesOn ⟨bs :: parts, [], taken, calls⟩ ⟨parts, [], taken ++ bs, calls + 1⟩
  /-- A reply that does not refuse takes the front of the part, or nothing of it. -/
  | replied {bs parts r rs taken calls} (hbs : bs ≠ []) (hr : r.refusal? = none) :
    GoesOn ⟨bs :: parts, r :: rs, taken, calls⟩
      ⟨bs.drop r.count :: parts, rs, taken ++ bs.take r.count, calls + 1⟩

/-- What a turn does that is the last. -/
inductive Ends : Writing → Progress → Prop where
  /-- No part is left. -/
  | written {rs taken calls} : Ends ⟨[], rs, taken, calls⟩ ⟨taken, calls, rs, none⟩
  /-- The stream refuses what is left of a part. -/
  | refused {bs parts r rs taken calls e} (hbs : bs ≠ []) (hr : r.refusal? = some e) :
    Ends ⟨bs :: parts, r :: rs, taken, calls⟩ ⟨taken, calls + 1, rs, some e⟩

/-- **What a turn can do.** -/
theorem turn_cases (w : Writing) :
    (∃ w', w.turn = .inl w' ∧ GoesOn w w') ∨ ∃ p, w.turn = .inr p ∧ Ends w p := by
  obtain ⟨left, rs, taken, calls⟩ := w
  cases left with
  | nil => exact Or.inr ⟨_, rfl, .written⟩
  | cons bs parts =>
    cases bs with
    | nil => exact Or.inl ⟨_, rfl, .partDone⟩
    | cons b bs =>
      have hbs : b :: bs ≠ [] := List.cons_ne_nil b bs
      cases rs with
      | nil => exact Or.inl ⟨_, rfl, .unscripted hbs⟩
      | cons r rs =>
        cases hr : r.refusal? with
        | none => exact Or.inl ⟨_, by simp only [turn, hr], .replied hbs hr⟩
        | some e => exact Or.inr ⟨_, by simp only [turn, hr], .refused hbs hr⟩

/-- What came of a writing, given what comes of the rest of it. -/
def followedBy (w : Writing) (p : Progress) : Progress :=
  { p with taken := w.taken ++ p.taken, calls := w.calls + p.calls }

/-- What comes of a writing. -/
def outcome (w : Writing) : Progress := w.followedBy (Writer.writeParts w.replies w.left)

variable {rs : List Reply} {parts : List Bytes} {w w' : Writing} {p : Progress}

/-- **A turn does not change what comes of a writing**, and uses up a reply or a part. -/
theorem GoesOn.outcome_eq (h : GoesOn w w') : w'.outcome = w.outcome
    ∧ w'.replies.length + w'.left.length + 1 = w.replies.length + w.left.length := by
  cases h with
  | partDone =>
    refine ⟨?_, rfl⟩
    unfold outcome
    rw [Writer.writeParts_nil_cons]
    rfl
  | @unscripted bs parts taken calls hbs =>
    have hcall : Writer.writeAll [] bs = (Writer.writeAll [] []).afterCall bs := by
      rw [Writer.writeAll_of_unscripted hbs, Writer.writeAll_nil]
      simp [Progress.afterCall]
    refine ⟨?_, rfl⟩
    unfold outcome
    rw [Writer.writeParts_cons_of_afterCall hcall, Writer.writeParts_nil_cons]
    simp [followedBy, Progress.afterCall]
    omega
  | @replied bs parts r rs taken calls hbs hr =>
    have hcall := Writer.writeAll_of_no_refusal rs hbs hr
    refine ⟨?_, by simp only [List.length_cons]; omega⟩
    unfold outcome
    rw [Writer.writeParts_cons_of_afterCall hcall]
    simp [followedBy, Progress.afterCall]
    omega

theorem Ends.outcome_eq (h : Ends w p) : p = w.outcome := by
  cases h with
  | written => simp [outcome, followedBy, Writer.writeParts]
  | @refused bs parts r rs taken calls e hbs hr =>
    have hcall := Writer.writeAll_of_refusal rs hbs hr
    have hfailure : (Writer.writeAll (r :: rs) bs).failure = some e := by rw [hcall]
    unfold outcome
    rw [Writer.writeParts_cons_of_some hfailure, hcall]
    simp [followedBy]

/-- **The loop ends**, within as many turns as there are replies and parts, and one more. -/
theorem within_eq (n : Nat) : ∀ w : Writing, w.replies.length + w.left.length < n →
    w.within n = some w.outcome := by
  induction n with
  | zero =>
    intro w hn
    omega
  | succ n ih =>
    intro w hn
    rw [within]
    rcases w.turn_cases with ⟨w', hturn, hgoesOn⟩ | ⟨p, hturn, hends⟩
    · obtain ⟨houtcome, hless⟩ := hgoesOn.outcome_eq
      simp only [hturn]
      rw [ih w' (by omega), houtcome]
    · simp only [hturn]
      rw [hends.outcome_eq]

theorem within_start {n : Nat} (hn : rs.length + parts.length < n) :
    (start rs parts).within n = some (Writer.writeParts rs parts) := by
  rw [within_eq n (start rs parts) hn]
  simp [outcome, followedBy, start]

/-! ### What the calls are paid with -/

/-- How many parts have bytes left. -/
def unfinished (parts : List Bytes) : Nat := parts.countP (· ≠ [])

theorem unfinished_cons {bs : Bytes} (hbs : bs ≠ []) (parts : List Bytes) :
    unfinished (bs :: parts) = unfinished parts + 1 := List.countP_cons_of_pos (by simpa using hbs)

theorem unfinished_le_cons (bs : Bytes) (parts : List Bytes) :
    unfinished parts ≤ unfinished (bs :: parts) := by
  unfold unfinished
  rw [List.countP_cons]
  omega

/-- **What holds of the calls of a writing** of the parts to the replies `rs`, at any time. -/
structure Paid (rs : List Reply) (parts : List Bytes) (w : Writing) : Prop where
  /-- Each call was paid with a reply, or with a part. -/
  with_replies : w.calls + w.replies.length + w.left.length ≤ rs.length + parts.length
  /-- Each call was paid with an interruption, or with a byte. -/
  with_bytes : w.calls + interruptions w.replies ≤ interruptions rs + w.taken.length
  /-- The bytes that are left can still pay. -/
  bytes_eq : w.taken.length + w.left.flatten.length = parts.flatten.length
  /-- No part was finished without a call. -/
  unfinished_le : unfinished parts ≤ w.calls + unfinished w.left

/-- **What holds of all the calls of a writing.** -/
structure Settled (rs : List Reply) (parts : List Bytes) (p : Progress) : Prop where
  calls_le_replies : p.calls ≤ rs.length + parts.length
  calls_le_bytes : p.calls + interruptions p.replies ≤ interruptions rs + parts.flatten.length
  unfinished_le_calls : p.failure = none → unfinished parts ≤ p.calls
  calls_pos : p.failure ≠ none → 1 ≤ p.calls

theorem paid_start (rs : List Reply) (parts : List Bytes) : Paid rs parts (start rs parts) where
  with_replies := by simp [start]
  with_bytes := by simp [start]
  bytes_eq := by simp [start]
  unfinished_le := by simp [start]

/-- **A turn pays for its call.** -/
theorem Paid.goesOn (h : Paid rs parts w) (hgoesOn : GoesOn w w') : Paid rs parts w' := by
  obtain ⟨hreplies, hbytes, htotal, hunfinished⟩ := h
  cases hgoesOn with
  | partDone =>
    simp only [List.length_cons] at hreplies
    exact ⟨by simp only; omega, hbytes, by simpa using htotal, hunfinished⟩
  | @unscripted bs ps taken calls hbs =>
    -- the part pays, and its bytes do
    have hpos : 0 < bs.length := List.length_pos_iff.mpr hbs
    simp only [List.length_cons, List.flatten_cons, List.length_append, unfinished_cons hbs]
      at hreplies hbytes htotal hunfinished
    refine ⟨?_, ?_, ?_, ?_⟩
    · simp only
      omega
    · simp only [List.length_append]
      omega
    · simp only [List.length_append]
      omega
    · simp only
      omega
  | @replied bs ps r rs' taken calls hbs hr =>
    have hsplit : (bs.take r.count).length + (bs.drop r.count).length = bs.length := by
      rw [← List.length_append, List.take_append_drop]
    have hmore := unfinished_le_cons (bs.drop r.count) ps
    simp only [List.length_cons, List.flatten_cons, List.length_append, unfinished_cons hbs]
      at hreplies hbytes htotal hunfinished
    refine ⟨?_, ?_, ?_, ?_⟩
    · simp only [List.length_cons]
      omega
    · simp only [List.length_append]
      rcases r.isInterruption_or_count_pos hr with hinterruption | hcount
      · rw [interruptions_cons_of_interruption rs' hinterruption] at hbytes
        omega
      · have htaken : 0 < (bs.take r.count).length := by
          have hpos : 0 < bs.length := List.length_pos_iff.mpr hbs
          rw [List.length_take]
          omega
        have hless : interruptions rs' ≤ interruptions (r :: rs') := by
          unfold interruptions
          rw [List.countP_cons]
          omega
        omega
    · simp only [List.flatten_cons, List.length_append]
      omega
    · simp only
      omega

/-- **Where the loop ends, all its calls are paid.** -/
theorem Paid.ended (h : Paid rs parts w) (hends : Ends w p) : Settled rs parts p := by
  obtain ⟨hreplies, hbytes, htotal, hunfinished⟩ := h
  cases hends with
  | written =>
    simp only [List.length_nil, List.flatten_nil, Nat.add_zero] at hreplies hbytes htotal
    refine ⟨by simp only; omega, by simp only; omega, fun _ => hunfinished, fun hfailure => ?_⟩
    exact absurd rfl hfailure
  | @refused bs ps r rs' taken calls e hbs hr =>
    -- a byte that was refused pays for the last call
    have hpos : 0 < bs.length := List.length_pos_iff.mpr hbs
    have hinterruptions := interruptions_cons rs' (r.not_isInterruption_of_refusal hr)
    simp only [List.length_cons, List.flatten_cons, List.length_append, hinterruptions]
      at hreplies hbytes htotal
    refine ⟨by simp only; omega, by simp only; omega, fun hnone => ?_, fun _ => ?_⟩
    · cases hnone
    · exact Nat.le_add_left 1 calls

theorem Paid.settled (n : Nat) : ∀ {w : Writing}, Paid rs parts w → w.within n = some p →
    Settled rs parts p := by
  induction n with
  | zero =>
    intro w _ hp
    cases hp
  | succ n ih =>
    intro w h hp
    rw [within] at hp
    rcases w.turn_cases with ⟨w', hturn, hgoesOn⟩ | ⟨q, hturn, hends⟩
    · rw [hturn] at hp
      exact ih (h.goesOn hgoesOn) hp
    · rw [hturn] at hp
      obtain rfl := Option.some.inj hp
      exact h.ended hends

/-- **All calls are paid.** -/
theorem settled_writeParts (rs : List Reply) (parts : List Bytes) :
    Settled rs parts (Writer.writeParts rs parts) :=
  (paid_start rs parts).settled _ (within_start (Nat.lt_succ_self _))

end Writing

/-! ### Deliveries -/

namespace Arguments

variable (a : Arguments) (stream : Script)

theorem unfinished_greetingParts : Writing.unfinished a.greetingParts = 2 := by
  have hgreeting : Utf8.encode a.greeting ≠ [] := a.encode_greeting_ne_nil
  have hfeed : Utf8.encode ['\n'] ≠ [] := by decide
  simp [Writing.unfinished, greetingParts, hgreeting, hfeed]

/-- What a delivery comes to, given what came of the writing. -/
theorem deliver_eq : a.deliver stream
    = ⟨(Writer.writeParts stream.replies a.greetingParts).failure <|> stream.flush,
      (Writer.writeParts stream.replies a.greetingParts).taken,
      (Writer.writeParts stream.replies a.greetingParts).calls,
      if (Writer.writeParts stream.replies a.greetingParts).failure = none then 1 else 0⟩ := by
  unfold deliver
  cases hfailure : (Writer.writeParts stream.replies a.greetingParts).failure with
  | none => simp [hfailure]
  | some e => simp [hfailure]

/-- **A delivery ends, and how often it calls the stream**: at least once, and twice if it succeeds;
at most twice more than the script has replies; and at most once for each interruption that it meets
and each byte of the line. -/
theorem deliver_calls :
    (∃ p : Progress,
        (∀ turns, stream.replies.length + 2 < turns →
          (Writing.start stream.replies a.greetingParts).within turns = some p)
        ∧ a.deliver stream = ⟨p.failure <|> stream.flush, p.taken, p.calls,
            if p.failure = none then 1 else 0⟩)
      ∧ 1 ≤ (a.deliver stream).writeCalls
      ∧ ((a.deliver stream).failure = none → 2 ≤ (a.deliver stream).writeCalls)
      ∧ (a.deliver stream).writeCalls ≤ stream.replies.length + 2
      ∧ (a.deliver stream).writeCalls
          ≤ interruptions (stream.replies.take (a.deliver stream).writeCalls)
            + (Utf8.encode a.greetingLine).length := by
  have hsettled := Writing.settled_writeParts stream.replies a.greetingParts
  have hretraces := Writer.writeParts_retraces a.greetingParts stream.replies
  refine ⟨⟨Writer.writeParts stream.replies a.greetingParts, fun turns hturns => ?_,
    a.deliver_eq stream⟩, ?_⟩
  · exact Writing.within_start hturns
  rw [a.deliver_eq stream]
  generalize Writer.writeParts stream.replies a.greetingParts = p at hsettled hretraces
  obtain ⟨hreplies, hbytes, hparts, hpos⟩ := hsettled
  rw [a.flatten_greetingParts] at hbytes
  rw [a.unfinished_greetingParts] at hparts
  refine ⟨?_, ?_, hreplies, ?_⟩
  · by_cases hfailure : p.failure = none
    · exact Nat.le_trans (by decide) (hparts hfailure)
    · exact hpos hfailure
  · intro hnone
    apply hparts
    cases hfailure : p.failure with
    | none => rfl
    | some e =>
      rw [hfailure] at hnone
      cases hnone
  · -- the interruptions that were met are those that are not left
    have hsplit : interruptions stream.replies
        = interruptions (stream.replies.take p.calls) + interruptions p.replies := by
      rw [hretraces.left_eq, ← interruptions_append, List.take_append_drop]
    simp only
    omega

/-- A stream that takes one byte at a time is called once for each byte. -/
example : (({} : Arguments).deliver { replies := List.replicate 40 (.accept 1) }).writeCalls
    = (Utf8.encode ({} : Arguments).greetingLine).length := by decide +kernel

end Arguments

end Salutation
