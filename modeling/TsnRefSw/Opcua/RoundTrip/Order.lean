import TsnRefSw.Opcua.RoundTrip.Shutdown

/-!
# The order of the returned samples

On links that keep everything in order nothing is overtaken, whatever the queue drops: the samples
B has sent back, those in its queue and those on the way to it are part of those that A has
published, in their order. A writes its lines in the order of B's messages, and B's numbers on
them count from -1.
-/

namespace TsnRefSw

open Core

namespace Opcua

namespace RoundTrip

open Server

variable {c : Config} {tr : List (RoundTrip c.cap × Action)} {s s' : RoundTrip c.cap}

/-! ### From A to B -/

/-- The samples B has sent back, those on their way included. -/
def sent (R : List (Verdict × Variant)) : List (UInt64 × UInt64) :=
  R.filterMap fun x => sampleOf x.2

/-- Nothing is overtaken. -/
def Conveyed (P : List (UInt64 × UInt64)) (R : List (Verdict × Variant)) (s : RoundTrip c.cap) :
    Prop :=
  (sent R ++ waiting s ++ outbound s).Sublist P

variable {P : List (UInt64 × UInt64)} {R : List (Verdict × Variant)}

lemma conveyed_start : Conveyed [] [] (start c) := List.Sublist.refl _

/-- Samples are moved on, or some are dropped. -/
lemma Conveyed.of_sublist (h : Conveyed P R s)
    (hplaces : (waiting s' ++ outbound s').Sublist (waiting s ++ outbound s)) :
    Conveyed P R s' := by
  rw [Conveyed, List.append_assoc] at h ⊢
  exact ((List.Sublist.refl _).append hplaces).trans h

lemma Conveyed.of_rests (h : Conveyed P R s) {a : Action} (hr : Rests s a s') :
    Conveyed P R s' := by
  refine h.of_sublist ?_
  have hqueued : s'.b.queued = s.b.queued := by rw [queued, queued, hr.msgq]
  rw [waiting, waiting, outbound, outbound, hr.forwarding, hqueued, hr.storing, hr.ab, hr.emitting]

lemma Conveyed.publish (h : Conveyed P R s) {now : UInt64} (hpc : s.aPub = .send)
    (hp : ¬ IsMarker (s.a.txSequence + 1).toUInt64) :
    Conveyed (P ++ [((s.a.txSequence + 1).toUInt64, now)]) R { s with
      a := (s.a.pubGetDataToTransmit c.packetCount now).1
      aPub := .emit (s.a.pubGetDataToTransmit c.packetCount now).2 } := by
  have hsample : sampleOf (s.a.pubGetDataToTransmit c.packetCount now).2 =
      some ((s.a.txSequence + 1).toUInt64, now) := sampleOf_sample (p := (_, now)) hp
  have hgrown := List.Sublist.append h (List.Sublist.refl [((s.a.txSequence + 1).toUInt64, now)])
  simpa [Conveyed, waiting, outbound, hpc, hsample] using hgrown

lemma Conveyed.emit (h : Conveyed P R s) {v : Variant} (hpc : s.aPub = .emit v) :
    Conveyed P R { s with ab := s.ab ++ [v], aPub := .test } := by
  refine h.of_sublist ?_
  simp [waiting, outbound, hpc]

lemma Conveyed.receive (h : Conveyed P R s) {v : Variant} {ab : List Variant}
    (hpc : s.bSub = .receive) (hab : s.ab = v :: ab) :
    Conveyed P R { s with b := s.b.raise, ab := ab, bSub := .store v } := by
  refine h.of_sublist ?_
  have hqueued : s.b.raise.queued = s.b.queued := rfl
  cases hv : sampleOf v with
  | none => simp [waiting, outbound, hpc, hab, hv, hqueued]
  | some p => simp [waiting, outbound, hpc, hab, hv, hqueued]

/-- What is stored comes behind what is in the queue, or is dropped. -/
lemma Conveyed.store (h : Conveyed P R s) {now : UInt64} {p : UInt64 × UInt64}
    (hpc : s.bSub = .store (sample p)) (hp : ¬ IsMarker p.1) {q : Fifo MsgqBuf c.cap}
    (hq : s.b.msgq = some q) :
    Conveyed P R { s with b := s.b.store ⟨p.1, p.2, now⟩, bSub := .finish p.1 } := by
  refine h.of_sublist ?_
  have hqueued : (s.b.store ⟨p.1, p.2, now⟩).queued = s.b.queued ++ [⟨p.1, p.2, now⟩] ∨
      (s.b.store ⟨p.1, p.2, now⟩).queued = s.b.queued := by
    obtain ⟨q', hq', hsend | ⟨-, rfl⟩⟩ := s.b.msgq_store ⟨p.1, p.2, now⟩ hq
    · exact .inl (by rw [queued_of_eq hq, queued_of_eq hq', hsend])
    · exact .inr (by rw [queued_of_eq hq, queued_of_eq hq'])
  rcases hqueued with hqueued | hqueued
  · cases hm : queueSample ⟨p.1, p.2, now⟩ with
    | none => simp [waiting, outbound, hpc, hqueued, hm, sampleOf_sample hp]
    | some r =>
      obtain rfl := Option.some.inj (Option.ite_none_left_eq_some.mp hm).2
      simp [waiting, outbound, hpc, hqueued, hm, sampleOf_sample hp]
  · simp [waiting, outbound, hpc, hqueued, sampleOf_sample hp]

lemma Conveyed.fetch (h : Conveyed P R s) (hpc : s.bPub = .send) {q : Fifo MsgqBuf c.cap}
    (hq : s.b.msgq = some q) :
    Conveyed P R { s with b := s.b.msgrcv.2, bPub := .forward s.b.msgrcv.1 } := by
  refine h.of_sublist ?_
  rcases s.b.msgrcv_cases hq with ⟨hitems, hrcv⟩ | ⟨m, q', hcons, hrcv⟩
  · simp [waiting, outbound, hpc, hrcv, queueSample]
  · rw [hrcv]
    have hqueued : s.b.queued = m :: q'.items := by rw [queued_of_eq hq, hcons]
    have hqueued' : ({ s.b with msgq := some q' } : Server c.cap).queued = q'.items := rfl
    cases hm : queueSample m with
    | none => simp [waiting, outbound, hpc, hqueued, hqueued', hm]
    | some p => simp [waiting, outbound, hpc, hqueued, hqueued', hm]

/-- What B makes a message of is the sample it took from the queue, or no sample. -/
lemma sampleOf_forward (b : Server c.cap) (m : MsgqBuf) (now : UInt64) :
    (sampleOf (b.forward c.packetCount m now).2.2).toList.Sublist (queueSample m).toList := by
  rcases marker_cases b.prevRxSequence m with hv | ⟨e, hv, -⟩
  · rw [(forward_of_plain c.packetCount hv now).1]
    have hne : m ≠ noMessage := by
      rintro rfl
      rw [verdict_noMessage] at hv
      cases hv
    rw [queueSample_of_ne hne]
    by_cases hm : IsMarker m.rxSequence
    · rw [show sampleOf (reply m _ now) = none from if_pos hm]
      exact List.nil_sublist _
    · rw [sampleOf_reply hm]
  · rw [(forward_of_marker c.packetCount hv now).1, sampleOf_marker hv]
    exact List.nil_sublist _

lemma Conveyed.forward (h : Conveyed P R s) {m : MsgqBuf} (hpc : s.bPub = .forward m)
    (now : UInt64) :
    Conveyed P (R ++ [(s.b.forward c.packetCount m now).2]) { s with
      b := (s.b.forward c.packetCount m now).1
      bPub := .emit (s.b.forward c.packetCount m now).2.2 } := by
  have hqueued : (s.b.forward c.packetCount m now).1.queued = s.b.queued := rfl
  have hsent : sent (R ++ [(s.b.forward c.packetCount m now).2]) =
      sent R ++ (sampleOf (s.b.forward c.packetCount m now).2.2).toList := by
    rw [sent, List.filterMap_append]
    cases hsample : sampleOf (s.b.forward c.packetCount m now).2.2 with
    | none => simp [sent, hsample]
    | some p => simp [sent, hsample]
  have hwaiting : waiting s = (queueSample m).toList ++ s.b.queued.filterMap queueSample := by
    cases hm : queueSample m with
    | none => simp [waiting, hpc, hm]
    | some p => simp [waiting, hpc, hm]
  refine List.Sublist.trans ?_ h
  rw [hsent, hwaiting, ← List.append_assoc (sent R)]
  refine (List.Sublist.append ?_ (List.Sublist.refl _)).append (List.Sublist.refl _)
  exact (List.Sublist.refl _).append (sampleOf_forward s.b m now)

theorem conveyed (hlink : c.link = .ordered) (h : (roundTripLts c).Run tr s) :
    Conveyed (published tr) (returned tr) s := by
  refine h.induct (P := fun tr s => Conveyed (published tr) (returned tr) s) ?_ ?_
  · rintro _ rfl
    exact conveyed_start
  · intro tr s a s' hrun ih hs
    have hout := outward hrun
    obtain ⟨q, hq, -⟩ := hout.queue
    rw [published_append, returned_append]
    cases step_spec hs with
    | publish now hpc =>
      have hmem : ((s.a.txSequence + 1).toUInt64, now) ∈ published (tr ++ [(s, .publish now)]) := by
        simp [publishedAt]
      rw [returnedAt, List.append_nil]
      · exact ih.publish hpc (not_isMarker_of_published (hrun.step hs) hmem)
      · simp
    | emit v hpc =>
      simp only [publishedAt, returnedAt, List.append_nil]
      exact ih.emit hpc
    | receive j v ab hpc hv =>
      simp only [publishedAt, returnedAt, List.append_nil]
      rw [hlink] at hv
      exact ih.receive hpc (LinkKind.eq_of_take hv)
    | store now v m hpc hm =>
      simp only [publishedAt, returnedAt, List.append_nil]
      obtain ⟨p, hp, rfl⟩ := hout.link v (by simp [hpc])
      cases hm
      exact ih.store hpc (not_isMarker_of_published hrun hp) hq
    | fetch hpc =>
      simp only [publishedAt, returnedAt, List.append_nil]
      exact ih.fetch hpc hq
    | forward now m hpc =>
      have hat : returnedAt s (.forward now) = [(s.b.forward c.packetCount m now).2] := by
        simp [returnedAt, hpc]
      rw [hat, publishedAt, List.append_nil]
      · exact ih.forward hpc now
      · simp
    | emitReturn v hpc =>
      simp only [publishedAt, returnedAt, List.append_nil]
      refine ih.of_sublist ?_
      simp [waiting, outbound, hpc]
    | receiveReturn j now v ba a hpc hv ha =>
      simp only [publishedAt, returnedAt, List.append_nil]
      exact ih
    | _ =>
      have hr := rests hs trivial
      rw [hr.published, hr.returned, List.append_nil, List.append_nil]
      exact ih.of_rests hr

/-! ### From B to A -/

/-- A was handed the first of B's messages; while its output is open, the others are on their
way. -/
def Passed (D : List (Variant × UInt64)) (R : List (Verdict × Variant)) (s : RoundTrip c.cap) :
    Prop :=
  D.map Prod.fst <+: R.map Prod.snd ∧ (s.a.fpSubscriberOutput = true →
    R.map Prod.snd = D.map Prod.fst ++ (s.ba ++ s.bPub.emitting))

variable {D : List (Variant × UInt64)}

lemma Passed.of_move (h : Passed D R s) (ha : s'.a.fpSubscriberOutput = s.a.fpSubscriberOutput)
    (hway : s'.ba ++ s'.bPub.emitting = s.ba ++ s.bPub.emitting) : Passed D R s' := by
  refine ⟨h.1, fun hopen => ?_⟩
  rw [hway]
  exact h.2 (ha ▸ hopen)

lemma Passed.forward (h : Passed D R s) {m : MsgqBuf} (hpc : s.bPub = .forward m)
    {x : Verdict × Variant} (b : Server c.cap) :
    Passed D (R ++ [x]) { s with b := b, bPub := .emit x.2 } := by
  rw [Passed, List.map_append]
  refine ⟨h.1.trans (List.prefix_append _ _), fun hopen => ?_⟩
  rw [h.2 hopen, hpc]
  simp

lemma Passed.receiveReturn (h : Passed D R s) (hlink : c.link = .ordered) {j : Nat} {now : UInt64}
    {v : Variant} {ba : List Variant} {a : Server c.cap}
    (hv : c.link.take s.ba j = some (v, ba))
    (ha : a.fpSubscriberOutput = true → s.a.fpSubscriberOutput = true) :
    Passed (D ++ deliveredAt s (.receiveReturn j now)) R { s with a := a, ba := ba } := by
  have hba : s.ba = v :: ba := LinkKind.eq_of_take (hlink ▸ hv)
  rw [deliveredAt, hv]
  by_cases hopen : s.a.fpSubscriberOutput = true
  · have hway := h.2 hopen
    rw [hba] at hway
    rw [if_pos hopen, Passed, List.map_append]
    refine ⟨?_, fun _ => ?_⟩
    · exact ⟨ba ++ s.bPub.emitting, by rw [hway]; simp⟩
    · rw [hway]
      simp
  · rw [if_neg hopen, List.append_nil]
    exact ⟨h.1, fun hopen' => absurd (ha hopen') hopen⟩

theorem passed (hlink : c.link = .ordered) (h : (roundTripLts c).Run tr s) :
    Passed (delivered tr) (returned tr) s := by
  refine h.induct (P := fun tr s => Passed (delivered tr) (returned tr) s) ?_ ?_
  · rintro _ rfl
    exact ⟨List.prefix_rfl, fun _ => rfl⟩
  · intro tr s a s' hrun ih hs
    rw [returned_append, delivered_append]
    cases step_spec hs with
    | forward now m hpc =>
      have hat : returnedAt s (.forward now) = [(s.b.forward c.packetCount m now).2] := by
        simp [returnedAt, hpc]
      rw [hat, deliveredAt, List.append_nil]
      · exact ih.forward hpc _
      · simp
    | emitReturn v hpc =>
      simp only [returnedAt, deliveredAt, List.append_nil]
      exact ih.of_move rfl (by simp [hpc])
    | receiveReturn j now v ba a hpc hv ha =>
      rw [returnedAt, List.append_nil]
      · refine ih.receiveReturn hlink hv fun hopen => ?_
        obtain ⟨hmem, -⟩ := LinkKind.mem_of_take hv
        obtain ⟨x, hx, rfl⟩ := (homeward hrun).link v (List.mem_append_right _ hmem)
        obtain ⟨m, seqB, t, he⟩ := ((homeward hrun).made x hx).reply
        rw [he] at ha
        rw [(subReturnStoreDataReceived_reply _ _ ha).2] at hopen
        split_ifs at hopen
        exact hopen
      · simp
    | fetch hpc =>
      simp only [returnedAt, deliveredAt, List.append_nil]
      exact ih.of_move rfl (by simp [hpc])
    | publish | emit | receive | store =>
      simp only [returnedAt, deliveredAt, List.append_nil]
      exact ih.of_move rfl rfl
    | _ =>
      have hr := rests hs trivial
      rw [hr.returned, hr.delivered, List.append_nil, List.append_nil]
      refine ih.of_move (by rw [hr.a]) (by rw [hr.ba, hr.emittingReturn])

/-! ### The lines -/

/-- B's number on a line. -/
def lineSeqB : SubReturnLine → Option UInt64
  | .data r => some r.seqB
  | _       => none

/-- The lines are about the first of B's messages. -/
lemma lines_of_passed (hlink : c.link = .ordered) (h : (roundTripLts c).Run tr s) :
    ∃ R', R' <+: returned tr ∧
      List.Forall₂ (fun x l => sampleOf x.2 = lineSample l ∧ seqB x = lineSeqB l) R'
        s.a.subReturnOut := by
  have hhome := homeward h
  obtain ⟨hfirst, -⟩ := passed hlink h
  have hR' : ((returned tr).take (delivered tr).length).map Prod.snd =
      (delivered tr).map Prod.fst := by
    rw [List.map_take]
    have hlength : (delivered tr).length = ((delivered tr).map Prod.fst).length := by simp
    rw [hlength]
    exact (List.prefix_iff_eq_take.mp hfirst).symm
  refine ⟨_, List.take_prefix (delivered tr).length _, ?_⟩
  have hlines : List.Forall₂ (fun v l => ∃ id m n t now, v = reply m n t ∧
      l = returnLine id m.rxSequence m.txTime m.rxTime n t now) ((delivered tr).map Prod.fst)
        s.a.subReturnOut := by
    rw [List.forall₂_map_left_iff]
    refine hhome.lines.imp fun d l hl => ?_
    obtain ⟨x, -, -, id, m, n, t, hd, rfl⟩ := hl
    exact ⟨id, m, n, t, d.2, hd, rfl⟩
  rw [← hR', List.forall₂_map_left_iff] at hlines
  have hmade := (List.forall₂_and_left _ _).mpr
    ⟨fun x hx => hhome.made x (List.mem_of_mem_take hx), hlines⟩
  refine hmade.imp fun x l hl => ?_
  obtain ⟨hmade, id, m, n, t, now, hx, rfl⟩ := hl
  refine ⟨by rw [hx, lineSample_returnLine], ?_⟩
  rcases hmade with ⟨e, n', t', hmarker, he⟩ | ⟨hplain, m', hm', n', t', he⟩
  · obtain ⟨rfl, -, -⟩ := reply_inj.mp (hx.symm.trans he)
    have hline := lineMarker_returnLine hmarker id e e n t now
    rw [seqB, if_neg (by simp [hmarker])]
    cases hdata : returnLine id e e e n t now with
    | data r =>
      rw [hdata] at hline
      cases hline
    | _ => rfl
  · obtain ⟨rfl, -, -⟩ := reply_inj.mp (hx.symm.trans he)
    have hne := not_isMarker_of_published h ((outward h).stored m hm')
    rw [returnLine_of_not_isMarker hne, seqB, if_pos hplain, hx]
    rfl

lemma filterMap_eq_of_forall₂ {α β γ : Type*} {f : α → Option γ} {g : β → Option γ} {l : List α}
    {l' : List β} (h : List.Forall₂ (fun a b => f a = g b) l l') :
    l.filterMap f = l'.filterMap g := by
  induction h with
  | nil => rfl
  | cons hab _ ih => rw [List.filterMap_cons, List.filterMap_cons, hab, ih]

lemma length_published_le (h : (roundTripLts c).Run tr s) :
    (published tr).length ≤ c.packetCount.val.toNat + 2 := by
  by_cases hc : c.Publishes
  · have hnum := numbered hc h
    have hcount := hnum.count
    have hle := hnum.le
    omega
  · rw [published_eq_nil hc h]
    exact Nat.zero_le _

/-- Numbers that count from -1. -/
lemma Counted.toInt_getElem {L : List UInt64} {n : Int64} (h : Counted L n) {i : Nat}
    (hi : i < L.length) (hsmall : i < 2 ^ 62) : L[i].toInt64.toInt = i - 1 := by
  induction i with
  | zero =>
    rw [h.head _ (by rw [List.head?_eq_getElem?, List.getElem?_eq_getElem hi]; rfl)]
    decide
  | succ i ih =>
    have hprev := ih (Nat.lt_of_succ_lt hi) (Nat.lt_of_succ_lt hsmall)
    rw [List.isChain_iff_getElem.mp h.chain i hi, Int64.toInt_add, hprev,
      show (1 : Int64).toInt = 1 by decide, Int.bmod_eq_of_le (by omega) (by omega)]
    omega

lemma length_lineSeqB (out : List SubReturnLine) :
    (out.filterMap lineSeqB).length = (out.filterMap lineSample).length := by
  rw [List.length_filterMap_eq_countP, List.length_filterMap_eq_countP]
  refine congrArg (out.countP ·) (funext fun l => ?_)
  cases l with
  | _ => rfl

/-- The samples A has written lines about are part of those it has published, in their order, and
B's numbers on the lines count from -1. -/
theorem lines_in_order (hlink : c.link = .ordered) (h : (roundTripLts c).Run tr s)
    (hreal : ∀ x ∈ tr, RealTimes x.1 x.2) :
    (returnedToA s).Sublist (published tr) ∧
      (s.a.subReturnOut.filterMap lineSeqB).map (fun n => n.toInt64.toInt) =
        (List.range (returnedToA s).length).map fun i : Nat => (i : Int) - 1 := by
  obtain ⟨R', hfirst, hlines⟩ := lines_of_passed hlink h
  have hsamples : R'.filterMap (fun x => sampleOf x.2) = returnedToA s :=
    filterMap_eq_of_forall₂ (hlines.imp fun _ _ hl => hl.1)
  have hnumbers : R'.filterMap seqB = s.a.subReturnOut.filterMap lineSeqB :=
    filterMap_eq_of_forall₂ (hlines.imp fun _ _ hl => hl.2)
  have hsub : (returnedToA s).Sublist (published tr) := by
    rw [← hsamples]
    refine ((hfirst.filterMap _).sublist.trans ?_).trans (conveyed hlink h)
    rw [List.append_assoc]
    exact List.sublist_append_left _ _
  refine ⟨hsub, List.ext_getElem ?_ fun i hi hi' => ?_⟩
  · rw [List.length_map, List.length_map, List.length_range, length_lineSeqB, returnedToA]
  · have hle := hsub.length_le.trans (length_published_le h)
    have hpc := c.packetCount.toNat_le
    rw [List.length_map] at hi
    rw [List.length_map, List.length_range] at hi'
    have hpre : s.a.subReturnOut.filterMap lineSeqB <+: (returned tr).filterMap seqB := by
      rw [← hnumbers]
      exact hfirst.filterMap _
    rw [List.getElem_map, List.getElem_map, List.getElem_range, hpre.getElem hi,
      (counted h hreal).toInt_getElem _ (by omega)]

end RoundTrip

end Opcua

end TsnRefSw
