import TsnRefSw.Opcua.RoundTrip.Coherence

/-!
# Completeness at shutdown

On links that keep everything in order, the samples A has published are, one after the other,
on the lines it has written and in the places on the way there. A line is missing in the end
when A's return subscriber leaves while samples are on their way: the flag it looks at is
cleared by A's publisher with the last sample it sends.
-/

namespace TsnRefSw

open Core

namespace Opcua

namespace Server

/-- The sample a line is about, by its number and its time. -/
def lineSample : SubReturnLine → Option (UInt64 × UInt64)
  | .data r => some (r.seqA, r.txPubA)
  | _       => none

/-- The sample a message of A or B is about. -/
def sampleOf (v : Variant) : Option (UInt64 × UInt64) :=
  match v.data with
  | some (seqA :: txPubA :: _) => if IsMarker seqA then none else some (seqA, txPubA)
  | _ => none

/-- The sample in the queue, or none where the queue was found empty. -/
def queueSample (m : MsgqBuf) : Option (UInt64 × UInt64) :=
  if m = noMessage then none else some (m.rxSequence, m.txTime)

/-- The messages in the queue, oldest first. -/
def queued {cap : Nat} (s : Server cap) : List MsgqBuf := (s.msgq.map Fifo.items).getD []

variable {cap : Nat} {s : Server cap}

lemma queued_of_eq {q : Fifo MsgqBuf cap} (hq : s.msgq = some q) : s.queued = q.items := by
  rw [queued, hq]
  rfl

lemma sampleOf_sample {p : UInt64 × UInt64} (hp : ¬ IsMarker p.1) :
    sampleOf (sample p) = some p := if_neg hp

lemma sampleOf_reply {m : MsgqBuf} (hm : ¬ IsMarker m.rxSequence) (seqB t : UInt64) :
    sampleOf (reply m seqB t) = some (m.rxSequence, m.txTime) := if_neg hm

lemma sampleOf_marker {v : Verdict} {e : UInt64} (hv : v.marker = some e) (seqB t : UInt64) :
    sampleOf (reply ⟨e, e, e⟩ seqB t) = none := if_pos (v.isMarker hv)

lemma queueSample_of_ne {m : MsgqBuf} (hm : m ≠ noMessage) :
    queueSample m = some (m.rxSequence, m.txTime) := if_neg hm

/-- A line is about the same sample as its message. -/
lemma lineSample_returnLine (id : Int32) (m : MsgqBuf) (seqB t now : UInt64) :
    lineSample (returnLine id m.rxSequence m.txTime m.rxTime seqB t now) =
      sampleOf (reply m seqB t) := by
  by_cases hm : IsMarker m.rxSequence
  · rw [show sampleOf (reply m seqB t) = none from if_pos hm]
    rcases hm with hm | hm | hm
    · rw [hm]
      rfl
    · rw [hm]
      rfl
    · rw [hm]
      rfl
  · rw [sampleOf_reply hm, returnLine_of_not_isMarker hm]
    rfl

end Server

namespace RoundTrip

open Server

variable {c : Config} {tr : List (RoundTrip c.cap × Action)} {s s' : RoundTrip c.cap}

/-! ### Where the samples are -/

/-- The samples that came back to A. -/
def returnedToA (s : RoundTrip c.cap) : List (UInt64 × UInt64) :=
  s.a.subReturnOut.filterMap lineSample

/-- The samples B has sent back, those that arrived included. -/
def sentByB (s : RoundTrip c.cap) : List (UInt64 × UInt64) :=
  returnedToA s ++ s.ba.filterMap sampleOf ++ s.bPub.emitting.filterMap sampleOf

/-- The samples in B's queue or just taken from it. -/
def waiting (s : RoundTrip c.cap) : List (UInt64 × UInt64) :=
  s.bPub.forwarding.filterMap queueSample ++ s.b.queued.filterMap queueSample

/-- The samples on their way to B's queue. -/
def outbound (s : RoundTrip c.cap) : List (UInt64 × UInt64) :=
  s.bSub.storing.filterMap sampleOf ++ s.ab.filterMap sampleOf ++
    s.aPub.emitting.filterMap sampleOf

/-- The messages stored in a step find room in the queue. -/
def FindsRoom (s : RoundTrip c.cap) (a : Action) : Prop :=
  storedAt s a ≠ [] → s.b.queued.length < c.cap

instance (s : RoundTrip c.cap) (a : Action) : Decidable (FindsRoom s a) :=
  inferInstanceAs (Decidable (_ → _))

/-- When A's return subscriber finds the flag cleared, it has closed its output itself, with the
last sample. -/
def LeavesClosed (s : RoundTrip c.cap) (a : Action) : Prop :=
  a = .test .aSub → s.a.gRunning = false → s.a.fpSubscriberOutput = false

instance (s : RoundTrip c.cap) (a : Action) : Decidable (LeavesClosed s a) :=
  inferInstanceAs (Decidable (_ → _ → _))

/-- What is stored in a step is not what B takes for a missing message or sample. -/
def Unmarked (s : RoundTrip c.cap) (a : Action) : Prop :=
  ∀ m ∈ storedAt s a, m ≠ noMessage ∧ m ≠ noSample

instance (s : RoundTrip c.cap) (a : Action) : Decidable (Unmarked s a) :=
  inferInstanceAs (Decidable (∀ m ∈ _, _))

/-- No sample is dropped, and A does not stop before the last one is back. -/
def Orderly (s : RoundTrip c.cap) (a : Action) : Prop :=
  Unmarked s a ∧ FindsRoom s a ∧ LeavesClosed s a

instance (s : RoundTrip c.cap) (a : Action) : Decidable (Orderly s a) :=
  inferInstanceAs (Decidable (_ ∧ _ ∧ _))

/-- The samples published are all in their places, and B's return publisher and A's output know
about the last ones that passed. -/
structure InPlace (P : List (UInt64 × UInt64)) (s : RoundTrip c.cap) : Prop where
  places : P = sentByB s ++ waiting s ++ outbound s
  prev : s.b.prevRxSequence = ((sentByB s).getLast?.map Prod.fst).getD 999
  closed : s.a.fpSubscriberOutput = false → ∃ p ∈ returnedToA s, p.1 = c.packetCount.val

variable {P : List (UInt64 × UInt64)}

lemma inPlace_start : InPlace [] (start c) := by
  obtain ⟨hout, hfp⟩ := setUp_output (c := c) (.initial c.idA) c.setupReads
  have hreturned : returnedToA (start c) = [] := by
    rw [returnedToA, start, hout]
    rfl
  constructor
  · rw [sentByB, hreturned]
    rfl
  · rw [sentByB, hreturned]
    rfl
  · intro hclosed
    rw [start, hfp] at hclosed
    cases hclosed

lemma InPlace.of_rests (h : InPlace P s) {a : Action} (hr : Rests s a s') : InPlace P s' := by
  have hsent : sentByB s' = sentByB s := by
    rw [sentByB, sentByB, returnedToA, returnedToA, hr.a, hr.ba, hr.emittingReturn]
  constructor
  · rw [hsent, waiting, outbound, queued, hr.forwarding, hr.msgq, hr.storing, hr.ab, hr.emitting]
    exact h.places
  · rw [hsent, hr.prevRxSequence]
    exact h.prev
  · rw [returnedToA, hr.a]
    exact h.closed

/-- A piece that moves a sample on its way to B's return publisher, or from there to the link. -/
lemma InPlace.of_move (h : InPlace P s) (ha : s'.a = s.a)
    (hprev : s'.b.prevRxSequence = s.b.prevRxSequence) (hsent : sentByB s' = sentByB s)
    (hrest : waiting s' ++ outbound s' = waiting s ++ outbound s) : InPlace P s' := by
  constructor
  · rw [hsent, List.append_assoc, hrest, ← List.append_assoc]
    exact h.places
  · rw [hsent, hprev]
    exact h.prev
  · rw [returnedToA, ha]
    exact h.closed

lemma InPlace.publish (h : InPlace P s) {now : UInt64} (hpc : s.aPub = .send)
    (hp : ¬ IsMarker (s.a.txSequence + 1).toUInt64) :
    InPlace (P ++ [((s.a.txSequence + 1).toUInt64, now)]) { s with
      a := (s.a.pubGetDataToTransmit c.packetCount now).1
      aPub := .emit (s.a.pubGetDataToTransmit c.packetCount now).2 } := by
  have hsample : sampleOf (s.a.pubGetDataToTransmit c.packetCount now).2 =
      some ((s.a.txSequence + 1).toUInt64, now) := sampleOf_sample (p := (_, now)) hp
  constructor
  · rw [h.places]
    simp [sentByB, waiting, outbound, returnedToA, hpc, hsample]
    rfl
  · exact h.prev
  · exact h.closed

lemma InPlace.emit (h : InPlace P s) {v : Variant} (hpc : s.aPub = .emit v) :
    InPlace P { s with ab := s.ab ++ [v], aPub := .test } := by
  refine h.of_move rfl rfl rfl ?_
  simp [waiting, outbound, hpc]

lemma InPlace.receive (h : InPlace P s) {v : Variant} {ab : List Variant} (hpc : s.bSub = .receive)
    (hab : s.ab = v :: ab) : InPlace P { s with b := s.b.raise, ab := ab, bSub := .store v } := by
  refine h.of_move rfl rfl rfl ?_
  have hqueued : s.b.raise.queued = s.b.queued := rfl
  cases hv : sampleOf v with
  | none => simp [waiting, outbound, hpc, hab, hv, hqueued]
  | some p => simp [waiting, outbound, hpc, hab, hv, hqueued]

lemma InPlace.store (h : InPlace P s) {now : UInt64} {p : UInt64 × UInt64}
    (hpc : s.bSub = .store (sample p)) (hp : ¬ IsMarker p.1)
    (hne : (⟨p.1, p.2, now⟩ : MsgqBuf) ≠ noMessage) {q : Fifo MsgqBuf c.cap}
    (hq : s.b.msgq = some q)
    (hroom : q.items.length < c.cap) :
    InPlace P { s with b := s.b.store ⟨p.1, p.2, now⟩, bSub := .finish p.1 } := by
  refine h.of_move rfl rfl rfl ?_
  have hqueued : (s.b.store ⟨p.1, p.2, now⟩).queued = s.b.queued ++ [⟨p.1, p.2, now⟩] := by
    obtain ⟨q', hq', hsend | ⟨hfull, -⟩⟩ := s.b.msgq_store ⟨p.1, p.2, now⟩ hq
    · rw [queued_of_eq hq, queued_of_eq hq', hsend]
    · omega
  simp [waiting, outbound, hpc, hqueued, queueSample_of_ne hne, sampleOf_sample hp]

lemma InPlace.fetch (h : InPlace P s) (hpc : s.bPub = .send) {q : Fifo MsgqBuf c.cap}
    (hq : s.b.msgq = some q) :
    InPlace P { s with b := s.b.msgrcv.2, bPub := .forward s.b.msgrcv.1 } := by
  refine h.of_move rfl s.b.msgrcv_frame.2 ?_ ?_
  · simp [sentByB, returnedToA, hpc]
  · rcases s.b.msgrcv_cases hq with ⟨hitems, hrcv⟩ | ⟨m, q', hcons, hrcv⟩
    · simp [waiting, outbound, hpc, hrcv, queueSample]
    · rw [hrcv]
      have hqueued : s.b.queued = m :: q'.items := by rw [queued_of_eq hq, hcons]
      have hqueued' : ({ s.b with msgq := some q' } : Server c.cap).queued = q'.items := rfl
      cases hm : queueSample m with
      | none => simp [waiting, outbound, hpc, hqueued, hqueued', hm]
      | some p => simp [waiting, outbound, hpc, hqueued, hqueued', hm]

lemma InPlace.emitReturn (h : InPlace P s) {v : Variant} (hpc : s.bPub = .emit v) :
    InPlace P { s with ba := s.ba ++ [v], bPub := .test } := by
  refine h.of_move rfl rfl ?_ ?_
  · simp [sentByB, returnedToA, hpc]
  · simp [waiting, outbound, hpc]

lemma InPlace.forward (h : InPlace P s) {m : MsgqBuf} (hpc : s.bPub = .forward m)
    (hm : m = noMessage ∨ m ≠ noSample ∧ ¬ IsMarker m.rxSequence ∧
      m.rxSequence ≠ s.b.prevRxSequence) (now : UInt64) :
    InPlace P { s with
      b := (s.b.forward c.packetCount m now).1
      bPub := .emit (s.b.forward c.packetCount m now).2.2 } := by
  have hqueued : (s.b.forward c.packetCount m now).1.queued = s.b.queued := rfl
  rcases marker_cases s.b.prevRxSequence m with hv | ⟨e, hv, hcause⟩
  · obtain ⟨hr, hprev⟩ := forward_of_plain c.packetCount hv now
    have hne : m ≠ noMessage := by
      rintro rfl
      rw [verdict_noMessage] at hv
      cases hv
    have hmark := (hm.resolve_left hne).2.1
    have hsent : sentByB { s with
        b := (s.b.forward c.packetCount m now).1
        bPub := .emit (s.b.forward c.packetCount m now).2.2 } =
        sentByB s ++ [(m.rxSequence, m.txTime)] := by
      rw [hr]
      simp [sentByB, returnedToA, hpc, sampleOf_reply hmark]
    constructor
    · rw [hsent, h.places]
      simp [waiting, outbound, hpc, hqueued, queueSample_of_ne hne]
    · rw [hsent, List.getLast?_concat]
      exact hprev hmark
    · exact h.closed
  · obtain ⟨hr, -, hprev⟩ := forward_of_marker c.packetCount hv now
    have hempty : m = noMessage := by
      rcases hm with hm | ⟨hsample, _, hnew⟩
      · exact hm
      · rcases hcause with hcause | hcause | hcause
        · exact hcause
        · exact absurd hcause hsample
        · exact absurd hcause.1 hnew
    refine h.of_move rfl hprev ?_ ?_
    · rw [hr]
      simp [sentByB, returnedToA, hpc, sampleOf_marker hv]
    · have hnone : queueSample m = none := if_pos hempty
      simp [waiting, outbound, hpc, hqueued, hnone]

/-- The sample about to be forwarded is not the one forwarded before it. -/
lemma InPlace.fresh (h : InPlace (published tr) s) (hnum : Numbered tr s)
    (hpos : 1 ≤ c.setupReads) (hne : c.setupReads ≠ 1000) {m : MsgqBuf}
    (hpc : s.bPub = .forward m) (hm : m ≠ noMessage) : m.rxSequence ≠ s.b.prevRxSequence := by
  have hplaces : published tr = sentByB s ++ (m.rxSequence, m.txTime) ::
      (s.b.queued.filterMap queueSample ++ outbound s) := by
    rw [h.places]
    simp [waiting, hpc, queueSample_of_ne hm]
  obtain ⟨hm, -⟩ := hnum.toNat_of_append hpos hplaces
  rw [h.prev]
  rcases List.eq_nil_or_concat' (sentByB s) with hnil | ⟨l, p, hlast⟩
  · rw [hnil] at hm ⊢
    intro he
    have h999 : m.rxSequence.toNat = 999 := congrArg UInt64.toNat he
    simp only [List.length_nil] at hm
    omega
  · rw [hlast] at hplaces hm ⊢
    rw [List.append_assoc] at hplaces
    obtain ⟨hp, -⟩ := hnum.toNat_of_append hpos hplaces
    rw [List.getLast?_concat]
    intro he
    have hsame : m.rxSequence.toNat = p.1.toNat := congrArg UInt64.toNat he
    simp only [List.length_append, List.length_singleton] at hm
    omega

/-- Nothing is published after the number `packet_count`. -/
lemma Numbered.last (hnum : Numbered tr s) (hpos : 1 ≤ c.setupReads)
    {l r : List (UInt64 × UInt64)} {p : UInt64 × UInt64} (hl : p ∈ l)
    (hp : p.1 = c.packetCount.val) (htr : published tr = l ++ r) : r = [] := by
  obtain ⟨l₁, l₂, rfl⟩ := List.append_of_mem hl
  rw [List.append_assoc, List.cons_append] at htr
  obtain ⟨hcount, hroom⟩ := hnum.toNat_of_append hpos htr
  rw [hp] at hcount
  rw [List.length_append] at hroom
  apply List.eq_nil_of_length_eq_zero
  omega

/-- The arrival of a marker. -/
lemma InPlace.receiveMarker (h : InPlace P s) {now seqB t : UInt64} {m : MsgqBuf}
    {ba : List Variant} {a : Server c.cap} (hba : s.ba = reply m seqB t :: ba)
    (hm : IsMarker m.rxSequence)
    (ha : s.a.subReturnStoreDataReceived c.packetCount (some (reply m seqB t)) now = some a) :
    InPlace P { s with a := a, ba := ba } := by
  obtain ⟨hout, hfp⟩ := subReturnStoreDataReceived_reply _ _ ha
  have hsample : sampleOf (reply m seqB t) = none := if_pos hm
  have hreturned : returnedToA { s with a := a, ba := ba } = returnedToA s := by
    simp only [returnedToA, hout]
    split_ifs
    · rw [List.filterMap_append, List.filterMap_cons, lineSample_returnLine, hsample,
        List.filterMap_nil, List.append_nil]
    · rfl
  have hsent : sentByB { s with a := a, ba := ba } = sentByB s := by
    rw [sentByB, sentByB, hreturned, hba, List.filterMap_cons, hsample]
  constructor
  · rw [hsent]
    exact h.places
  · rw [hsent]
    exact h.prev
  · rw [hreturned]
    intro hclosed
    have hnot : ¬ Final c.packetCount m.rxSequence := by
      rintro ⟨h₁, h₂, h₃, -⟩
      rcases hm with hm | hm | hm
      · exact h₁ hm
      · exact h₂ hm
      · exact h₃ hm
    rw [if_neg hnot] at hfp
    exact h.closed (hfp ▸ hclosed)

/-- The arrival of a sample: the output is still open, and closed if the sample is the last. -/
lemma InPlace.receiveSample (h : InPlace (published tr) s) (hnum : Numbered tr s)
    (hpos : 1 ≤ c.setupReads) {now seqB t : UInt64} {m : MsgqBuf} {ba : List Variant}
    {a : Server c.cap} (hba : s.ba = reply m seqB t :: ba) (hm : ¬ IsMarker m.rxSequence)
    (ha : s.a.subReturnStoreDataReceived c.packetCount (some (reply m seqB t)) now = some a) :
    InPlace (published tr) { s with a := a, ba := ba } := by
  obtain ⟨hout, hfp⟩ := subReturnStoreDataReceived_reply _ _ ha
  have hsample := sampleOf_reply hm seqB t
  have hplaces : published tr = returnedToA s ++ (m.rxSequence, m.txTime) ::
      (ba.filterMap sampleOf ++ s.bPub.emitting.filterMap sampleOf ++ waiting s ++
        outbound s) := by
    rw [h.places, sentByB, hba, List.filterMap_cons, hsample]
    simp
  have hopen : s.a.fpSubscriberOutput = true := by
    by_contra hclosed
    obtain ⟨p, hp, hlast⟩ := h.closed (Bool.eq_false_iff.mpr hclosed)
    exact List.cons_ne_nil _ _ (hnum.last hpos hp hlast hplaces)
  have hreturned : returnedToA { s with a := a, ba := ba } =
      returnedToA s ++ [(m.rxSequence, m.txTime)] := by
    simp only [returnedToA, hout, if_pos hopen]
    rw [List.filterMap_append, List.filterMap_cons, lineSample_returnLine, hsample]
    rfl
  have hsent : sentByB { s with a := a, ba := ba } = sentByB s := by
    rw [sentByB, sentByB, hreturned, hba, List.filterMap_cons, hsample]
    simp
  constructor
  · rw [hsent]
    exact h.places
  · rw [hsent]
    exact h.prev
  · rw [hreturned]
    intro hclosed
    have hfinal : Final c.packetCount m.rxSequence := by
      by_contra hnot
      rw [if_neg hnot, hopen] at hfp
      simp [hfp] at hclosed
    refine ⟨_, List.mem_append_right _ (List.mem_singleton_self _), ?_⟩
    obtain ⟨hcount, hroom⟩ := hnum.toNat_of_append hpos hplaces
    have hge := UInt64.le_iff_toNat_le.mp hfinal.2.2.2
    apply UInt64.toNat_inj.mp
    simp only at hcount ⊢
    omega

/-! ### The whole run -/

theorem inPlace (hlink : c.link = .ordered) (hc : c.Publishes) (hpos : 1 ≤ c.setupReads)
    (hne : c.setupReads ≠ 1000) (h : (roundTripLts c).Run tr s)
    (hC : ∀ x ∈ tr, Orderly x.1 x.2) : InPlace (published tr) s := by
  refine h.induct_of (P := fun tr s => InPlace (published tr) s) ?_ ?_ hC
  · rintro _ rfl
    exact inPlace_start
  · intro tr s a s' hrun hC ih hc' hs
    have hout := outward hrun
    have hnum := numbered hc hrun
    obtain ⟨q, hq, hitems⟩ := hout.queue
    rw [published_append]
    cases step_spec hs with
    | publish now hpc =>
      refine ih.publish hpc ?_
      have hmem : ((s.a.txSequence + 1).toUInt64, now) ∈ published (tr ++ [(s, .publish now)]) := by
        simp [publishedAt]
      exact not_isMarker_of_published (hrun.step hs) hmem
    | emit v hpc =>
      rw [publishedAt, List.append_nil]
      · exact ih.emit hpc
      · simp
    | receive j v ab hpc hv =>
      rw [publishedAt, List.append_nil]
      · rw [hlink] at hv
        exact ih.receive hpc (LinkKind.eq_of_take hv)
      · simp
    | store now v m hpc hm =>
      rw [publishedAt, List.append_nil]
      · obtain ⟨p, hp, rfl⟩ := hout.link v (by simp [hpc])
        cases hm
        refine ih.store hpc (not_isMarker_of_published hrun hp) ?_ hq ?_
        · exact (hc'.1 _ (by simp [storedAt, hpc])).1
        · rw [← queued_of_eq hq]
          exact hc'.2.1 (by simp [storedAt, hpc])
      · simp
    | fetch hpc =>
      rw [publishedAt, List.append_nil]
      · exact ih.fetch hpc hq
      · simp
    | forward now m hpc =>
      rw [publishedAt, List.append_nil]
      · refine ih.forward hpc ?_ now
        refine (hout.forwarding m (by simp [hpc])).imp_right fun hm => ?_
        obtain ⟨x, hx, hat⟩ := List.mem_flatMap.mp hm
        obtain ⟨hempty, hsample⟩ := (hC x hx).1 m hat
        exact ⟨hsample, not_isMarker_of_published hrun (hout.stored m hm),
          ih.fresh hnum hpos hne hpc hempty⟩
      · simp
    | emitReturn v hpc =>
      rw [publishedAt, List.append_nil]
      · exact ih.emitReturn hpc
      · simp
    | receiveReturn j now v ba a hpc hv ha =>
      rw [publishedAt, List.append_nil]
      · rw [hlink] at hv
        have hba := LinkKind.eq_of_take hv
        have hhome := homeward hrun
        obtain ⟨x, hx, rfl⟩ := hhome.link v (by simp [hba])
        obtain ⟨m, seqB, t, he⟩ := (hhome.made x hx).reply
        rw [he] at hba ha
        by_cases hm : IsMarker m.rxSequence
        · exact ih.receiveMarker hba hm ha
        · exact ih.receiveSample hnum hpos hba hm ha
      · simp
    | _ =>
      have hr := rests hs trivial
      rw [hr.published, List.append_nil]
      exact ih.of_rests hr

/-- The output of a return subscriber that has left is closed. -/
lemma closed_of_left (h : (roundTripLts c).Run tr s) (hC : ∀ x ∈ tr, LeavesClosed x.1 x.2) :
    s.aSub = .left → s.a.fpSubscriberOutput = false := by
  refine h.invariant_of (I := fun s => s.aSub = .left → s.a.fpSubscriberOutput = false) ?_ ?_ hC
  · rintro _ rfl hleft
    cases hleft
  · intro s a s' ih hc hs hleft
    cases step_spec hs with
    | testASub hpc =>
      by_cases hrun : s.a.gRunning
      · rw [if_pos hrun] at hleft
        cases hleft
      · exact hc rfl (Bool.eq_false_iff.mpr hrun)
    | receiveReturn j now v ba a hpc hv ha =>
      rw [hpc] at hleft
      cases hleft
    | idleA hpc => cases hleft
    | _ => exact ih hleft

/-- All four threads have left their loops. -/
def Finished (s : RoundTrip c.cap) : Prop :=
  s.aPub = .left ∧ s.bSub = .left ∧ s.bPub = .left ∧ s.aSub = .left

instance (s : RoundTrip c.cap) : Decidable (Finished s) :=
  inferInstanceAs (Decidable (_ ∧ _ ∧ _ ∧ _))

/-- A has a line for each sample it has published, the one numbered `packet_count` included. -/
def Complete (tr : List (RoundTrip c.cap × Action)) (s : RoundTrip c.cap) : Prop :=
  (∀ p ∈ published tr, ∃ r, .data r ∈ s.a.subReturnOut ∧ r.seqA = p.1 ∧ r.txPubA = p.2) ∧
    ∃ p ∈ published tr, p.1 = c.packetCount.val

end RoundTrip

open RoundTrip in
/-- Completeness at shutdown, for runs without a dropped sample in which A's return subscriber
leaves its loop after the last sample. -/
theorem return_complete {c : Config} {tr : List (RoundTrip c.cap × Action)} {s : RoundTrip c.cap}
    (hlink : c.link = .ordered) (hc : c.Publishes) (hpos : 1 ≤ c.setupReads)
    (hne : c.setupReads ≠ 1000) (h : (roundTripLts c).Run tr s)
    (hC : ∀ x ∈ tr, Orderly x.1 x.2) (hfin : Finished s) : Complete tr s := by
  have hplace := inPlace hlink hc hpos hne h hC
  have hclosed := closed_of_left h (fun x hx => (hC x hx).2.2) hfin.2.2.2
  obtain ⟨p, hp, hlast⟩ := hplace.closed hclosed
  have hplaces : published tr = returnedToA s ++ (s.ba.filterMap Server.sampleOf ++
      s.bPub.emitting.filterMap Server.sampleOf ++ waiting s ++ outbound s) := by
    rw [hplace.places, sentByB]
    simp
  -- the last sample is back, so all are
  rw [(numbered hc h).last hpos hp hlast hplaces, List.append_nil] at hplaces
  rw [Complete, hplaces]
  refine ⟨fun p hp => ?_, p, hp, hlast⟩
  obtain ⟨l, hl, he⟩ := List.mem_filterMap.mp hp
  cases l with
  | data r =>
    cases he
    exact ⟨r, hl, rfl, rfl⟩
  | _ => cases he

section TwoSamples

open RoundTrip

private def orderedPair : Config where
  packetCount := ⟨2, by decide, by decide⟩
  cap := 1
  link := .ordered
  setupReads := 2
  idA := 0
  idB := 1

/-- A publishes its two samples and its publisher leaves. -/
private def publishTwo : List Action :=
  [.test .aPub, .gateA, .publish 1000, .emit, .test .aPub, .gateA, .publish 2000, .emit,
    .test .aPub]

/-- B stores a sample. -/
private def storeNext (now : UInt64) : List Action := [.receive 0, .store now, .finish]

/-- B's return publisher, past the head of its loop, sends a sample. -/
private def returnNext (now : UInt64) : List Action := [.gateB, .fetch, .forward now, .emitReturn]

private def leaveB : List Action := [.test .bPub, .idleB, .test .bSub]

/-- The samples go round one after the other, and A waits for both. -/
private def twoReturned : List Action :=
  [.test .aSub, .test .bSub, .test .bPub] ++ publishTwo ++ storeNext 2200 ++ returnNext 2300 ++
    [.test .bPub] ++ storeNext 2400 ++ returnNext 2500 ++ leaveB ++
    [.receiveReturn 0 2600, .receiveReturn 0 2700, .idleA, .test .aSub]

/-- The same, but A's return subscriber looks at the flag when A has published. -/
private def twoLost : List Action :=
  [.test .aSub, .test .bSub, .test .bPub] ++ publishTwo ++ [.idleA, .test .aSub] ++
    storeNext 2200 ++ returnNext 2300 ++ [.test .bPub] ++ storeNext 2400 ++ returnNext 2500 ++
    leaveB

theorem return_complete_two_samples :
    ∃ tr s, (roundTripLts orderedPair).Run tr s ∧ Finished s ∧
      published tr = [(1, 1000), (2, 2000)] ∧ Complete tr s := by
  have hrun : ((roundTripLts orderedPair).replay (start orderedPair) twoReturned).map (fun r =>
      decide ((∀ x ∈ r.1, Orderly x.1 x.2) ∧ Finished r.2 ∧
        published r.1 = [(1, 1000), (2, 2000)])) = some true := by decide +kernel
  obtain ⟨⟨tr, s⟩, hr, hC⟩ := Option.map_eq_some_iff.mp hrun
  obtain ⟨horder, hfin, hpub⟩ := of_decide_eq_true hC
  have hrun := Lts.Run.of_replay (A := roundTripLts orderedPair) rfl hr
  exact ⟨tr, s, hrun, hfin, hpub,
    return_complete rfl (by decide) (by decide) (by decide) hrun horder hfin⟩

/-- Nothing is dropped, and yet no sample has a line when all threads have left. -/
theorem not_return_complete :
    ¬ ∀ (c : Config) (tr : List (RoundTrip c.cap × Action)) (s : RoundTrip c.cap),
      c.link = .ordered → c.Publishes → (roundTripLts c).Run tr s →
      (∀ x ∈ tr, Unmarked x.1 x.2 ∧ FindsRoom x.1 x.2) → Finished s → Complete tr s := by
  intro h
  have hrun : ((roundTripLts orderedPair).replay (start orderedPair) twoLost).map (fun r =>
      decide ((∀ x ∈ r.1, Unmarked x.1 x.2 ∧ FindsRoom x.1 x.2) ∧ Finished r.2 ∧
        published r.1 = [(1, 1000), (2, 2000)] ∧ r.2.a.subReturnOut = [])) = some true := by
    decide +kernel
  obtain ⟨⟨tr, s⟩, hr, hC⟩ := Option.map_eq_some_iff.mp hrun
  obtain ⟨hkept, hfin, hpub, hout⟩ := of_decide_eq_true hC
  have hrun := Lts.Run.of_replay (A := roundTripLts orderedPair) rfl hr
  obtain ⟨hlines, -⟩ := h orderedPair tr s rfl (by decide) hrun hkept hfin
  obtain ⟨r, hr, -⟩ := hlines (1, 1000) (by rw [hpub]; decide)
  rw [hout] at hr
  cases hr

end TwoSamples

end Opcua

end TsnRefSw
