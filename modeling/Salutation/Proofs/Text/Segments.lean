import Salutation.Proofs.Text.Utf8

/-!
# Where the reader of bytes cuts

The cut of a byte string can be said without a reader.  A piece in front of some bytes is the
encoding of a character; only if none stands there, it is ill-formed, and then it is a **maximal
subpart**: the longest beginning of an encoding that stands there, or a single byte if none does
(`MaximalSubpart`).  This leaves no choice (`Segment.Leads.unique`), so there is at most one cut.

* `isCut_iff`: the reader finds that cut.  What it has seen of a pending character is a beginning of
  an encoding (`Pending.Started.begins`), and a byte that it does not expect continues none
  (`Pending.Started.contains_of_prefix_encodeChar`), so where the reader gives up there is no longer
  beginning.
* `segments_append`: two parts are cut one by one if the second does not begin with a continuation
  byte, since no pending character expects any other byte.
-/

namespace Salutation.Utf8

/-! ### Cuts -/

/-- Whether a byte string is a beginning of the encoding of a character, and not all of it. -/
def Begins (w : Bytes) : Prop :=
  w ≠ [] ∧ ∃ c, w <+: String.utf8EncodeChar c ∧ w ≠ String.utf8EncodeChar c

/-- **The maximal subpart** in front of some bytes: the longest beginning of an encoding that stands
there, or a single byte if none does. -/
def MaximalSubpart (w bs : Bytes) : Prop :=
  (Begins w ∧ w <+: bs ∧ ∀ v, Begins v → v <+: bs → v.length ≤ w.length)
    ∨ (∃ b, w = [b] ∧ w <+: bs) ∧ ∀ v, Begins v → ¬ v <+: bs

/-- Whether a segment is the piece that stands in front of some bytes. -/
def Segment.Leads : Segment → Bytes → Prop
  | .scalar c, bs => String.utf8EncodeChar c <+: bs
  | .illFormed w, bs => (∀ c, ¬ String.utf8EncodeChar c <+: bs) ∧ MaximalSubpart w bs

/-- **Whether a byte string is cut into these segments**, from left to right. -/
def IsCut : Bytes → List Segment → Prop
  | bs, [] => bs = []
  | bs, s :: ss => s.Leads bs ∧ ∃ rest, bs = s.bytes ++ rest ∧ IsCut rest ss

/-- No encoding is a beginning of another one. -/
theorem encodeChar_prefix_inj {c d : Char}
    (h : String.utf8EncodeChar c <+: String.utf8EncodeChar d) : c = d := by
  obtain ⟨rest, hrest⟩ := h
  have hd : segments (String.utf8EncodeChar d ++ []) = [.scalar d] :=
    segments_encodeChar_append d []
  rw [List.append_nil, ← hrest, segments_encodeChar_append] at hd
  exact Segment.scalar.inj (List.cons.inj hd).1

theorem MaximalSubpart.unique {w w' bs : Bytes} (h : MaximalSubpart w bs)
    (h' : MaximalSubpart w' bs) : w = w' := by
  rcases h with ⟨hw, hfront, hmax⟩ | ⟨⟨b, rfl, hfront⟩, hnone⟩
  · rcases h' with ⟨hw', hfront', hmax'⟩ | ⟨-, hnone'⟩
    · have hle : w.length ≤ w'.length := hmax' w hw hfront
      have hge : w'.length ≤ w.length := hmax w' hw' hfront'
      exact (List.prefix_of_prefix_length_le hfront hfront' hle).eq_of_length_le hge
    · exact absurd hfront (hnone' w hw)
  · rcases h' with ⟨hw', hfront', -⟩ | ⟨⟨b', rfl, hfront'⟩, -⟩
    · exact absurd hfront' (hnone w' hw')
    · exact (List.prefix_of_prefix_length_le hfront hfront' (Nat.le_refl _)).eq_of_length rfl

/-- **There is no choice of the first piece.** -/
theorem Segment.Leads.unique {s s' : Segment} {bs : Bytes} (h : s.Leads bs) (h' : s'.Leads bs) :
    s = s' := by
  cases s with
  | scalar c =>
    cases s' with
    | scalar d =>
      rcases List.prefix_or_prefix_of_prefix h h' with hcd | hdc
      · rw [encodeChar_prefix_inj hcd]
      · rw [encodeChar_prefix_inj hdc]
    | illFormed w => exact absurd h (h'.1 c)
  | illFormed w =>
    cases s' with
    | scalar d => exact absurd h' (h.1 d)
    | illFormed w' => rw [h.2.unique h'.2]

theorem encodeChar_ne_nil (c : Char) : String.utf8EncodeChar c ≠ [] := by
  intro hempty
  have hw := (wellFormed_encodeChar c).1
  rw [hempty] at hw
  exact hw

theorem Segment.Leads.bytes_ne_nil {s : Segment} {bs : Bytes} (h : s.Leads bs) : s.bytes ≠ [] := by
  cases s with
  | scalar c => exact encodeChar_ne_nil c
  | illFormed w =>
    rcases h.2 with ⟨⟨hne, -⟩, -⟩ | ⟨⟨b, rfl, -⟩, -⟩
    · exact hne
    · exact List.cons_ne_nil b []

/-- Nothing is cut into nothing. -/
theorem IsCut.eq_nil {ss : List Segment} (h : IsCut [] ss) : ss = [] := by
  cases ss with
  | nil => rfl
  | cons s ss =>
    obtain ⟨hleads, rest, hrest, -⟩ := h
    exact absurd (List.append_eq_nil_iff.mp hrest.symm).1 hleads.bytes_ne_nil

/-- **There is at most one cut.** -/
theorem IsCut.unique {ss : List Segment} : ∀ {bs : Bytes} {ss' : List Segment},
    IsCut bs ss → IsCut bs ss' → ss = ss' := by
  induction ss with
  | nil =>
    rintro bs ss' rfl h'
    exact h'.eq_nil.symm
  | cons s ss ih =>
    intro bs ss' h h'
    cases ss' with
    | nil =>
      obtain rfl : bs = [] := h'
      exact h.eq_nil
    | cons s' ss' =>
      obtain ⟨hleads, rest, hrest, hcut⟩ := h
      obtain ⟨hleads', rest', hrest', hcut'⟩ := h'
      -- the first pieces are the same, and so is what is left behind them
      obtain rfl := hleads.unique hleads'
      have hsame : rest = rest' := List.append_cancel_left (hrest.symm.trans hrest')
      rw [ih hcut (hsame ▸ hcut')]

/-! ### What a pending character expects -/

/-- Every range of the table holds a byte, and continuation bytes only. -/
theorem bounds_of_mem_followers {lead : UInt8} {rs : List ByteRange} (h : followers lead = some rs)
    {r : ByteRange} (hr : r ∈ rs) : 0x80 ≤ r.lo ∧ r.lo ≤ r.hi ∧ r.hi ≤ 0xBF := by
  unfold followers at h
  split_ifs at h <;> obtain rfl := Option.some.inj h <;> revert r <;> decide

theorem exists_follow {rs : List ByteRange} (h : ∀ r ∈ rs, r.lo ≤ r.hi) : ∃ bs, Follow rs bs := by
  refine ⟨rs.map (·.lo), List.forall₂_map_right_iff.mpr (List.forall₂_same.mpr fun r hr => ?_)⟩
  rw [ByteRange.contains_iff]
  exact ⟨Nat.le_refl _, UInt8.le_iff_toNat_le.mp (h r hr)⟩

namespace Pending.Started

variable {p : Pending} (h : p.Started)

include h

/-- **What is seen of a pending character is a beginning of an encoding.** -/
theorem begins : Begins p.seen := by
  obtain ⟨lead, rest, passed, hseen, hlead, hpassed⟩ := h
  -- any bytes in the ranges that are still to come complete it
  have hlater : ∀ r ∈ p.next :: p.later, r.lo ≤ r.hi :=
    fun r hr => (bounds_of_mem_followers hlead (List.mem_append_right _ hr)).2.1
  obtain ⟨bs, hbs⟩ := exists_follow hlater
  have hw : WellFormed (p.seen ++ bs) := by
    rw [hseen]
    exact ⟨_, hlead, List.rel_append hpassed hbs⟩
  refine ⟨by simp [hseen], Char.ofNat (scalarValue (p.seen ++ bs)), ?_, ?_⟩
  · rw [encodeChar_scalarValue hw]
    exact List.prefix_append _ _
  · rw [encodeChar_scalarValue hw]
    intro hall
    have hnil : bs = [] := List.self_eq_append_right.mp hall
    rw [hnil, Follow, List.forall₂_nil_right_iff] at hbs
    cases hbs

/-- **A byte that continues what is seen to a beginning of an encoding is expected.** -/
theorem contains_of_prefix_encodeChar {b : UInt8} {c : Char}
    (hfront : p.seen ++ [b] <+: String.utf8EncodeChar c) : p.next.contains b = true := by
  obtain ⟨lead, rest, passed, hseen, hlead, hpassed⟩ := h
  obtain ⟨t, ht⟩ := hfront
  have hw : WellFormed (lead :: (rest ++ b :: t)) := by
    have hc := (wellFormed_encodeChar c).1
    rw [← ht, hseen] at hc
    simpa using hc
  obtain ⟨rs, hrs, hfollow⟩ := hw
  obtain rfl : passed ++ p.next :: p.later = rs := Option.some.inj (hlead.symm.trans hrs)
  -- behind the ranges that are passed stands the next one
  have hdrop := List.forall₂_drop_append _ _ _ hfollow
  rw [← hpassed.length_eq, List.drop_left] at hdrop
  exact (List.forall₂_cons.mp hdrop).1

/-- No pending character expects anything but a continuation byte. -/
theorem continuation_of_contains {b : UInt8} (hb : p.next.contains b = true) :
    continuation.contains b = true := by
  obtain ⟨lead, rest, passed, -, hlead, -⟩ := h
  obtain ⟨hlo, -, hhi⟩ := bounds_of_mem_followers hlead (List.mem_append_right _ List.mem_cons_self)
  rw [UInt8.le_iff_toNat_le] at hlo hhi
  rw [ByteRange.contains_iff] at hb
  exact continuation_contains_iff.mpr ⟨Nat.le_trans hlo hb.1, Nat.le_trans hb.2 hhi⟩

end Pending.Started

/-- A byte in front of an encoding is in the table. -/
theorem exists_followers_of_prefix_encodeChar {b : UInt8} {v : Bytes} {c : Char}
    (h : b :: v <+: String.utf8EncodeChar c) : ∃ rs, followers b = some rs := by
  obtain ⟨t, ht⟩ := h
  have hw := (wellFormed_encodeChar c).1
  rw [← ht] at hw
  obtain ⟨rs, hrs, -⟩ := hw
  exact ⟨rs, hrs⟩

/-! ### Where the reader gives up -/

/-- A byte that is not expected shows that what is seen is ill-formed, and is read anew. -/
theorem segmentsFrom_cons_of_not_contains {p : Pending} {b : UInt8}
    (h : ¬ p.next.contains b = true) (bs : Bytes) :
    segmentsFrom (some p) (b :: bs) = .illFormed p.seen :: segments (b :: bs) := by
  rw [segmentsFrom, advance, if_neg h]
  rfl

section GivenUp

variable {p : Pending} (h : p.Started) {rest : Bytes}
  (hrest : ∀ b ∈ rest.head?, ¬ p.next.contains b = true)

include h hrest

/-- Where the reader gives up, what it has seen cannot be continued. -/
theorem length_le_of_prefix_encodeChar {v : Bytes} {c : Char} (hv : v <+: p.seen ++ rest)
    (hc : v <+: String.utf8EncodeChar c) : v.length ≤ p.seen.length := by
  by_contra hlonger
  have hseen : p.seen <+: v :=
    List.prefix_of_prefix_length_le (List.prefix_append _ _) hv (by omega)
  obtain ⟨u, rfl⟩ := hseen
  cases u with
  | nil => simp at hlonger
  | cons b u =>
    obtain ⟨t, rfl⟩ := (List.prefix_append_right_inj p.seen).mp hv
    have hfront : p.seen ++ [b] <+: String.utf8EncodeChar c := by
      refine List.IsPrefix.trans ⟨u, ?_⟩ hc
      rw [List.append_assoc, List.singleton_append]
    exact hrest b rfl (h.contains_of_prefix_encodeChar hfront)

/-- **Where the reader gives up, it has seen the maximal subpart.** -/
theorem illFormed_leads : (Segment.illFormed p.seen).Leads (p.seen ++ rest) := by
  refine ⟨fun c hc => ?_, Or.inl ⟨h.begins, List.prefix_append _ _, ?_⟩⟩
  · -- an encoding that stands there would be a beginning of another one
    have hseen : String.utf8EncodeChar c <+: p.seen :=
      List.prefix_of_prefix_length_le hc (List.prefix_append _ _)
        (length_le_of_prefix_encodeChar h hrest hc List.prefix_rfl)
    obtain ⟨-, d, hd, hne⟩ := h.begins
    obtain rfl := encodeChar_prefix_inj (hseen.trans hd)
    exact hne (hd.eq_of_length_le hseen.length_le)
  · rintro v ⟨-, c, hc, -⟩ hv
    exact length_le_of_prefix_encodeChar h hrest hv hc

end GivenUp

/-- **What becomes of a pending character**: it is completed, or given up where it cannot be
continued; and the reader starts anew behind it. -/
theorem exists_leads_of_pending (bs : Bytes) : ∀ {p : Pending}, p.Started →
    ∃ s rest, p.seen ++ bs = s.bytes ++ rest ∧ s.Leads (p.seen ++ bs)
      ∧ segmentsFrom (some p) bs = s :: segments rest := by
  induction bs with
  | nil =>
    intro p h
    refine ⟨.illFormed p.seen, [], rfl, illFormed_leads h ?_, rfl⟩
    simp
  | cons b bs ih =>
    intro p h
    by_cases hb : p.next.contains b = true
    · have hsound : Sound (some p) := h
      have hstep := advance_sound hsound b
      have hsplit : p.seen ++ b :: bs = (p.seen ++ [b]) ++ bs := by simp
      rw [advance, if_pos hb] at hstep
      cases hlater : p.later with
      | nil =>
        -- the last byte that was expected
        rw [hlater] at hstep
        have hbytes : String.utf8EncodeChar (Char.ofNat (scalarValue (p.seen ++ [b])))
            = p.seen ++ [b] := by simpa [Segment.bytes, seen] using hstep.1
        refine ⟨.scalar (Char.ofNat (scalarValue (p.seen ++ [b]))), bs, ?_, ?_, ?_⟩
        · rw [hsplit, Segment.bytes, hbytes]
        · rw [hsplit, Segment.Leads, hbytes]
          exact List.prefix_append _ _
        · rw [segmentsFrom, advance, if_pos hb, hlater]
          rfl
      | cons r rs =>
        rw [hlater] at hstep
        have hread : segmentsFrom (some p) (b :: bs)
            = segmentsFrom (some ⟨p.seen ++ [b], r, rs⟩) bs := by
          rw [segmentsFrom, advance, if_pos hb, hlater]
          rfl
        rw [hread, hsplit]
        exact ih (p := ⟨p.seen ++ [b], r, rs⟩) hstep.2
    · refine ⟨.illFormed p.seen, b :: bs, rfl, illFormed_leads h ?_, ?_⟩
      · rintro _ ⟨⟩
        exact hb
      · exact segmentsFrom_cons_of_not_contains hb bs

/-- A byte that is in no encoding at its front stands alone. -/
theorem illFormed_leads_of_followers {b : UInt8} (h : followers b = none) (bs : Bytes) :
    (Segment.illFormed [b]).Leads (b :: bs) := by
  have hnone : ∀ {v : Bytes} {c : Char}, v ≠ [] → v <+: b :: bs →
      ¬ v <+: String.utf8EncodeChar c := by
    intro v c hne hv hc
    obtain ⟨x, v, rfl⟩ := List.exists_cons_of_ne_nil hne
    obtain rfl := (List.cons_prefix_cons.mp hv).1
    obtain ⟨rs, hrs⟩ := exists_followers_of_prefix_encodeChar hc
    rw [h] at hrs
    cases hrs
  refine ⟨fun c hc => ?_, Or.inr ⟨⟨b, rfl, bs, rfl⟩, ?_⟩⟩
  · exact hnone (encodeChar_ne_nil c) hc List.prefix_rfl
  · rintro v ⟨hne, c, hc, -⟩ hv
    exact hnone hne hv hc

/-- **The first segment is the piece in front**, and the others are those of what is behind it. -/
theorem exists_leads_segments_cons (b : UInt8) (bs : Bytes) :
    ∃ s rest, b :: bs = s.bytes ++ rest ∧ s.Leads (b :: bs)
      ∧ segments (b :: bs) = s :: segments rest := by
  cases hb : followers b with
  | none =>
    refine ⟨.illFormed [b], bs, rfl, illFormed_leads_of_followers hb bs, ?_⟩
    rw [segments, segmentsFrom, advance, begin, hb]
    rfl
  | some rs =>
    cases rs with
    | nil =>
      have hw : WellFormed [b] := ⟨[], hb, .nil⟩
      have hbytes := encodeChar_scalarValue hw
      refine ⟨.scalar (Char.ofNat (scalarValue [b])), bs, ?_, ?_, ?_⟩
      · rw [Segment.bytes, hbytes]
        rfl
      · rw [Segment.Leads, hbytes]
        exact ⟨bs, rfl⟩
      · rw [segments, segmentsFrom, advance, begin, hb]
        rfl
    | cons r rs =>
      have hstarted : (⟨[b], r, rs⟩ : Pending).Started := ⟨b, [], [], rfl, hb, .nil⟩
      have hread : segments (b :: bs) = segmentsFrom (some ⟨[b], r, rs⟩) bs := by
        rw [segments, segmentsFrom, advance, begin, hb]
        rfl
      rw [hread]
      exact exists_leads_of_pending bs hstarted

/-- **The reader cuts.** -/
theorem isCut_segments (bs : Bytes) : IsCut bs (segments bs) := by
  induction hn : bs.length using Nat.strongRecOn generalizing bs with
  | ind n ih =>
    cases bs with
    | nil => rfl
    | cons b bs =>
      obtain ⟨s, rest, hsplit, hleads, hsegments⟩ := exists_leads_segments_cons b bs
      have hshorter : rest.length < n := by
        have hlength := congrArg List.length hsplit
        have hpos := List.length_pos_iff.mpr hleads.bytes_ne_nil
        rw [List.length_append] at hlength
        omega
      rw [hsegments]
      exact ⟨hleads, rest, hsplit, ih _ hshorter rest rfl⟩

theorem isCut_iff {bs : Bytes} {ss : List Segment} : IsCut bs ss ↔ ss = segments bs :=
  ⟨fun h => h.unique (isCut_segments bs), fun h => h ▸ isCut_segments bs⟩

/-! ### Parts that are cut one by one -/

/-- **A character boundary is a cut**: what comes behind it does not touch what is in front. -/
theorem segmentsFrom_append {b : Bytes} (hb : ∀ x ∈ b.head?, ¬ continuation.contains x = true)
    (a : Bytes) : ∀ {st : Option Pending}, Sound st →
      segmentsFrom st (a ++ b) = segmentsFrom st a ++ segments b := by
  induction a with
  | nil =>
    intro st hst
    cases st with
    | none => rfl
    | some p =>
      -- at the end a pending character is given up, as it is before a byte that it does not expect
      cases b with
      | nil => rfl
      | cons x b =>
        have hx : ¬ p.next.contains x = true := fun h => hb x rfl (hst.continuation_of_contains h)
        exact segmentsFrom_cons_of_not_contains hx b
  | cons x a ih =>
    intro st hst
    obtain ⟨-, hsound⟩ := advance_sound hst x
    rw [List.cons_append, segmentsFrom, segmentsFrom, ih hsound, List.append_assoc]

theorem segments_append {a b : Bytes} (hb : ∀ x ∈ b.head?, ¬ continuation.contains x = true) :
    segments (a ++ b) = segments a ++ segments b :=
  segmentsFrom_append hb a trivial

theorem segments_encode_append (t : Text) (b : Bytes) :
    segments (encode t ++ b) = segments (encode t) ++ segments b := by
  induction t with
  | nil => rfl
  | cons c t ih =>
    rw [encode_cons, List.append_assoc, segments_encodeChar_append, segments_encodeChar_append, ih,
      List.cons_append]

end Salutation.Utf8
