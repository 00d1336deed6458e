import Mathlib.Data.List.Chain
import Mathlib.Data.List.Forall2
import TsnRefSw.Opcua.RoundTrip.Numbers

/-!
# Coherence of the returned samples

Over links that lose and repeat messages, and a queue that drops them when it is full, what A
writes about a sample is still true of that sample: the numbers and times on a line were taken
together at each of the four places, and a line reports an error exactly if B sent the marker
for it.
-/

namespace TsnRefSw

open Core

namespace Opcua

namespace Server

lemma Verdict.isMarker {v : Verdict} {e : UInt64} (h : v.marker = some e) : IsMarker e := by
  cases v with
  | nothingToForward =>
    cases h
    exact .inr (.inr rfl)
  | msgqCopy =>
    cases h
    exact .inr (.inl rfl)
  | duplicate =>
    cases h
    exact .inl rfl
  | _ => cases h

lemma not_isMarker_of_bounded {k : Int} (hge : -1 ≤ k) (hle : k ≤ 10000000) :
    ¬ IsMarker (Int64.ofInt k).toUInt64 := by
  have hk : (Int64.ofInt k).toInt = k := by
    rw [Int64.toInt_ofInt]
    exact Int.bmod_eq_of_le (by simp; omega) (by simp; omega)
  have hne : ∀ e : UInt64, 10000000 < e.toInt64.toInt → (Int64.ofInt k).toUInt64 ≠ e := by
    rintro e he rfl
    rw [Int64.toInt64_toUInt64, hk] at he
    omega
  rintro (h | h | h)
  · exact hne errorDuplicate (by decide) h
  · exact hne errorMsgqCopy (by decide) h
  · exact hne errorNothingToForward (by decide) h

/-- The marker a line reports, if it reports an error. -/
def lineMarker : SubReturnLine → Option UInt64
  | .duplicate        => some errorDuplicate
  | .msgqCopy         => some errorMsgqCopy
  | .nothingToForward => some errorNothingToForward
  | .data _           => none

lemma lineMarker_returnLine {v : Verdict} {e : UInt64} (h : v.marker = some e) (id : Int32)
    (t t' s t'' n : UInt64) : lineMarker (returnLine id e t t' s t'' n) = some e := by
  rcases v.isMarker h with rfl | rfl | rfl
  · rfl
  · rfl
  · rfl

lemma returnLine_of_not_isMarker {seqA : UInt64} (h : ¬ IsMarker seqA) (id : Int32)
    (txPubA rxSubB seqB txPubB rxSubA : UInt64) :
    returnLine id seqA txPubA rxSubB seqB txPubB rxSubA = .data {
      a2bLatency := (rxSubB - txPubA).toInt64
      seqA := seqA
      id := id
      txPubA := txPubA
      rxHwTS := 0
      rxSubB := rxSubB
      processingLatency := (txPubB - rxSubB).toInt64
      b2aLatency := (rxSubA - txPubB).toInt64
      seqB := seqB
      txPubB := txPubB
      rxSubA := rxSubA
      returnLatency := (rxSubA - txPubA).toInt64 } := by
  simp only [IsMarker, not_or] at h
  rw [returnLine, if_neg h.1, if_neg h.2.1, if_neg h.2.2]

/-- Going out, staying and coming back add up, whatever wraps around. -/
lemma latency_sum (txPubA rxSubB txPubB rxSubA : UInt64) :
    (rxSubA - txPubA).toInt64 =
      (rxSubB - txPubA).toInt64 + (txPubB - rxSubB).toInt64 + (rxSubA - txPubB).toInt64 := by
  have hsum : rxSubA - txPubA = rxSubB - txPubA + (txPubB - rxSubB) + (rxSubA - txPubB) := by
    grind
  rw [hsum, UInt64.toInt64_add, UInt64.toInt64_add]

/-! ### What the return publisher makes of the queue -/

variable {cap : Nat} (packetCount : PacketCount) {s : Server cap}

/-- A message that is replaced leaves the counters alone. -/
lemma forward_of_marker {m : MsgqBuf} {e : UInt64}
    (he : (verdict s.prevRxSequence m).marker = some e) (now : UInt64) :
    (s.forward packetCount m now).2 =
      (verdict s.prevRxSequence m, reply ⟨e, e, e⟩ s.txSequence.toUInt64 now) ∧
    (s.forward packetCount m now).1.txSequence = s.txSequence ∧
    (s.forward packetCount m now).1.prevRxSequence = s.prevRxSequence := by
  have hgood : verdict s.prevRxSequence m ≠ .good := by
    intro hgood
    rw [hgood] at he
    cases he
  have hmarker := (verdict s.prevRxSequence m).isMarker he
  refine ⟨?_, ?_, ?_⟩
  · simp [forward, forwarded, he, hgood, reply]
  · simp [forward, hgood]
  · rcases hmarker with rfl | rfl | rfl
    · simp [forward, forwarded, he]
    · simp [forward, forwarded, he]
    · simp [forward, forwarded, he]

/-- A message that is not replaced is sent as it is. -/
lemma forward_of_plain {m : MsgqBuf} (hm : (verdict s.prevRxSequence m).marker = none)
    (now : UInt64) :
    (s.forward packetCount m now).2 = (verdict s.prevRxSequence m,
      reply m (s.forward packetCount m now).1.txSequence.toUInt64 now) ∧
    (¬ IsMarker m.rxSequence →
      (s.forward packetCount m now).1.prevRxSequence = m.rxSequence) := by
  constructor
  · simp [forward, forwarded, hm, reply]
  · intro hne
    simp only [IsMarker, not_or] at hne
    simp [forward, forwarded, hm, hne]

end Server

namespace RoundTrip

open Server

variable {c : Config} {tr : List (RoundTrip c.cap × Action)} {s s' : RoundTrip c.cap}

/-! ### From A to B -/

/-- Whatever is on its way to B is one of the samples `P` of A, and whatever is in B is one of
the samples `M` that B stored. -/
structure Outward (P : List (UInt64 × UInt64)) (M : List MsgqBuf) (s : RoundTrip c.cap) :
    Prop where
  link : ∀ v ∈ s.aPub.emitting ++ s.ab ++ s.bSub.storing, ∃ p ∈ P, v = sample p
  stored : ∀ m ∈ M, (m.rxSequence, m.txTime) ∈ P
  queue : ∃ q, s.b.msgq = some q ∧ ∀ m ∈ q.items, m ∈ M
  forwarding : ∀ m ∈ s.bPub.forwarding, m = noMessage ∨ m ∈ M

lemma outward_start : Outward [] [] (start c) := by
  constructor
  · nofun
  · nofun
  · exact ⟨.empty, rfl, nofun⟩
  · nofun

/-- The pieces that move a sample along to the next place, or move none. -/
lemma Outward.of_sub {P : List (UInt64 × UInt64)} {M : List MsgqBuf} (h : Outward P M s)
    (hlink : ∀ v ∈ s'.aPub.emitting ++ s'.ab ++ s'.bSub.storing,
      v ∈ s.aPub.emitting ++ s.ab ++ s.bSub.storing)
    (hq : s'.b.msgq = s.b.msgq) (hf : ∀ m ∈ s'.bPub.forwarding, m ∈ s.bPub.forwarding) :
    Outward P M s' := by
  constructor
  · exact fun v hv => h.link v (hlink v hv)
  · exact h.stored
  · rw [hq]
    exact h.queue
  · exact fun m hm => h.forwarding m (hf m hm)

lemma Outward.of_rests {P : List (UInt64 × UInt64)} {M : List MsgqBuf} {a : Action}
    (h : Outward P M s) (hr : Rests s a s') :
    Outward (P ++ publishedAt s a) (M ++ storedAt s a) s' := by
  rw [hr.published, hr.stored, List.append_nil, List.append_nil]
  refine h.of_sub ?_ hr.msgq ?_
  · rw [hr.emitting, hr.ab, hr.storing]
    exact fun v hv => hv
  · rw [hr.forwarding]
    exact fun m hm => hm

lemma Outward.publish {P : List (UInt64 × UInt64)} {M : List MsgqBuf} (h : Outward P M s)
    (now : UInt64) (hpc : s.aPub = .send) :
    Outward (P ++ [((s.a.txSequence + 1).toUInt64, now)]) M { s with
      a := (s.a.pubGetDataToTransmit c.packetCount now).1
      aPub := .emit (s.a.pubGetDataToTransmit c.packetCount now).2 } := by
  obtain ⟨hlink, hstored, hqueue, hforwarding⟩ := h
  constructor
  · intro v hv
    rcases List.mem_cons.mp hv with rfl | hv
    · exact ⟨_, List.mem_append_right _ (List.mem_singleton_self _), rfl⟩
    · obtain ⟨p, hp, rfl⟩ := hlink v (by simpa [hpc] using hv)
      exact ⟨p, List.mem_append_left _ hp, rfl⟩
  · exact fun m hm => List.mem_append_left _ (hstored m hm)
  · exact hqueue
  · exact hforwarding

lemma Outward.store {P : List (UInt64 × UInt64)} {M : List MsgqBuf} (h : Outward P M s)
    {now : UInt64} {v : Variant} {m : MsgqBuf} (hpc : s.bSub = .store v)
    (hm : decode v now = some m) :
    Outward P (M ++ [m]) { s with b := s.b.store m, bSub := .finish m.rxSequence } := by
  obtain ⟨hlink, hstored, ⟨q, hq, hitems⟩, hforwarding⟩ := h
  constructor
  · intro w hw
    apply hlink w
    simp only [SubPc.storing, List.append_nil] at hw
    exact List.mem_append_left _ hw
  · intro m' hm'
    rcases List.mem_append.mp hm' with hm' | hm'
    · exact hstored m' hm'
    · cases List.mem_singleton.mp hm'
      obtain ⟨p, hp, rfl⟩ := hlink v (by simp [hpc])
      cases hm
      exact hp
  · obtain ⟨q', hq', hsend⟩ := s.b.msgq_store m hq
    refine ⟨q', hq', fun m' hm' => ?_⟩
    rcases hsend with hsend | ⟨-, rfl⟩
    · rw [hsend] at hm'
      rcases List.mem_append.mp hm' with hm' | hm'
      · exact List.mem_append_left _ (hitems m' hm')
      · exact List.mem_append_right _ hm'
    · exact List.mem_append_left _ (hitems m' hm')
  · intro m' hm'
    exact (hforwarding m' hm').imp_right fun h => List.mem_append_left _ h

lemma Outward.fetch {P : List (UInt64 × UInt64)} {M : List MsgqBuf} (h : Outward P M s) :
    Outward P M { s with b := s.b.msgrcv.2, bPub := .forward s.b.msgrcv.1 } := by
  obtain ⟨hlink, hstored, ⟨q, hq, hitems⟩, hforwarding⟩ := h
  rcases s.b.msgrcv_cases hq with ⟨-, hrcv⟩ | ⟨m, q', hcons, hrcv⟩
  · rw [hrcv]
    refine ⟨hlink, hstored, ⟨q, hq, hitems⟩, fun m hm => ?_⟩
    exact .inl (List.mem_singleton.mp hm)
  · rw [hrcv]
    rw [hcons] at hitems
    refine ⟨hlink, hstored, ⟨q', rfl, fun m' hm' => ?_⟩, fun m' hm' => ?_⟩
    · exact hitems m' (List.mem_cons_of_mem _ hm')
    · cases List.mem_singleton.mp hm'
      exact .inr (hitems m (List.mem_cons_self ..))

theorem outward (h : (roundTripLts c).Run tr s) : Outward (published tr) (stored tr) s := by
  refine h.induct (P := fun tr s => Outward (published tr) (stored tr) s) ?_ ?_
  · rintro _ rfl
    exact outward_start
  · intro tr s a s' _ ih hs
    rw [published_append, stored_append]
    cases step_spec hs with
    | publish now hpc => simpa [publishedAt, storedAt] using ih.publish now hpc
    | store now v m hpc hm =>
      have hat : storedAt s (.store now) = [m] := by simp [storedAt, hpc, hm]
      rw [hat]
      simpa [publishedAt] using ih.store hpc hm
    | fetch hpc => simpa [publishedAt, storedAt] using ih.fetch
    | receive j v ab hpc hv =>
      simp only [publishedAt, storedAt, List.append_nil]
      obtain ⟨hmem, hsub⟩ := LinkKind.mem_of_take hv
      refine ih.of_sub ?_ rfl fun m hm => hm
      intro w hw
      simp only [SubPc.storing, List.mem_append, List.mem_singleton] at hw ⊢
      rcases hw with (hw | hw) | rfl
      · exact .inl (.inl hw)
      · exact .inl (.inr (hsub w hw))
      · exact .inl (.inr hmem)
    | emit v hpc =>
      simp only [publishedAt, storedAt, List.append_nil]
      refine ih.of_sub ?_ rfl fun m hm => hm
      simp [hpc, or_left_comm]
    | forward now m hpc =>
      simp only [publishedAt, storedAt, List.append_nil]
      exact ih.of_sub (fun v hv => hv) rfl (by simp)
    | emitReturn v hpc =>
      simp only [publishedAt, storedAt, List.append_nil]
      exact ih.of_sub (fun v hv => hv) rfl (by simp)
    | receiveReturn j now v ba a hpc hv ha =>
      simp only [publishedAt, storedAt, List.append_nil]
      exact ih.of_sub (fun v hv => hv) rfl fun m hm => hm
    | _ => exact ih.of_rests (rests hs trivial)

/-! ### From B to A -/

/-- A message of B is a marker, or a sample it stored. -/
def Made (M : List MsgqBuf) (x : Verdict × Variant) : Prop :=
  (∃ e seqB t, x.1.marker = some e ∧ x.2 = reply ⟨e, e, e⟩ seqB t) ∨
    x.1.marker = none ∧ ∃ m ∈ M, ∃ seqB t, x.2 = reply m seqB t

lemma Made.mono {M M' : List MsgqBuf} {x : Verdict × Variant} (h : Made M x)
    (hM : ∀ m ∈ M, m ∈ M') : Made M' x := by
  rcases h with h | ⟨hv, m, hm, h⟩
  · exact .inl h
  · exact .inr ⟨hv, m, hM m hm, h⟩

lemma Made.reply {M : List MsgqBuf} {x : Verdict × Variant} (h : Made M x) :
    ∃ m seqB t, x.2 = reply m seqB t := by
  rcases h with ⟨e, seqB, t, -, h⟩ | ⟨-, m, -, seqB, t, h⟩
  · exact ⟨_, seqB, t, h⟩
  · exact ⟨m, seqB, t, h⟩

/-- The line `l` is written for the message `d`, one of those that B sent. -/
def WrittenFor (R : List (Verdict × Variant)) (d : Variant × UInt64) (l : SubReturnLine) : Prop :=
  ∃ x ∈ R, x.2 = d.1 ∧ ∃ id m seqB t, d.1 = reply m seqB t ∧
    l = returnLine id m.rxSequence m.txTime m.rxTime seqB t d.2

/-- Whatever is on its way to A is one of the messages `R` of B, and A has written a line for
each message in `D`. -/
structure Homeward (M : List MsgqBuf) (R : List (Verdict × Variant)) (D : List (Variant × UInt64))
    (s : RoundTrip c.cap) : Prop where
  made : ∀ x ∈ R, Made M x
  link : ∀ v ∈ s.bPub.emitting ++ s.ba, ∃ x ∈ R, x.2 = v
  lines : List.Forall₂ (WrittenFor R) D s.a.subReturnOut

variable {M : List MsgqBuf} {R : List (Verdict × Variant)} {D : List (Variant × UInt64)}

/-- The set-up leaves the output alone. -/
lemma setUp_output (t : Server c.cap) (k : Nat) :
    (setUp c t k).subReturnOut = t.subReturnOut ∧
      (setUp c t k).fpSubscriberOutput = t.fpSubscriberOutput := by
  induction k with
  | zero => exact ⟨rfl, rfl⟩
  | succ k ih => exact ih

lemma homeward_start : Homeward [] [] [] (start c) := by
  constructor
  · nofun
  · nofun
  · rw [start, (setUp_output _ _).1]
    exact .nil

lemma Homeward.of_sub (h : Homeward M R D s)
    (hlink : ∀ v ∈ s'.bPub.emitting ++ s'.ba, v ∈ s.bPub.emitting ++ s.ba)
    (hout : s'.a.subReturnOut = s.a.subReturnOut) : Homeward M R D s' := by
  constructor
  · exact h.made
  · exact fun v hv => h.link v (hlink v hv)
  · rw [hout]
    exact h.lines

lemma Homeward.forward (h : Homeward M R D s) {m : MsgqBuf} (hpc : s.bPub = .forward m)
    (hm : m = noMessage ∨ m ∈ M) (now : UInt64) :
    Homeward M (R ++ [(s.b.forward c.packetCount m now).2]) D { s with
      b := (s.b.forward c.packetCount m now).1
      bPub := .emit (s.b.forward c.packetCount m now).2.2 } := by
  constructor
  · intro x hx
    rcases List.mem_append.mp hx with hx | hx
    · exact h.made x hx
    · cases List.mem_singleton.mp hx
      rcases marker_cases s.b.prevRxSequence m with hv | ⟨e, hv, -⟩
      · rw [(forward_of_plain c.packetCount hv now).1]
        rcases hm with rfl | hm
        · rw [verdict_noMessage] at hv
          cases hv
        · exact .inr ⟨hv, m, hm, _, now, rfl⟩
      · rw [(forward_of_marker c.packetCount hv now).1]
        exact .inl ⟨e, _, now, hv, rfl⟩
  · intro v hv
    rcases List.mem_cons.mp hv with rfl | hv
    · exact ⟨_, List.mem_append_right _ (List.mem_singleton_self _), rfl⟩
    · obtain ⟨x, hx, he⟩ := h.link v (by simpa [hpc] using hv)
      exact ⟨x, List.mem_append_left _ hx, he⟩
  · refine h.lines.imp fun d l ⟨x, hx, hl⟩ => ⟨x, List.mem_append_left _ hx, hl⟩

lemma Homeward.receiveReturn (h : Homeward M R D s) {j : Nat} {now : UInt64} {v : Variant}
    {ba : List Variant} {a : Server c.cap} (hv : c.link.take s.ba j = some (v, ba))
    (ha : s.a.subReturnStoreDataReceived c.packetCount (some v) now = some a) :
    Homeward M R (D ++ deliveredAt s (.receiveReturn j now)) { s with a := a, ba := ba } := by
  obtain ⟨hmem, hsub⟩ := LinkKind.mem_of_take hv
  obtain ⟨x, hx, rfl⟩ := h.link v (List.mem_append_right _ hmem)
  obtain ⟨m, seqB, t, he⟩ := (h.made x hx).reply
  constructor
  · exact h.made
  · intro w hw
    apply h.link w
    rcases List.mem_append.mp hw with hw | hw
    · exact List.mem_append_left _ hw
    · exact List.mem_append_right _ (hsub w hw)
  · rw [he] at ha
    show List.Forall₂ _ _ a.subReturnOut
    rw [(subReturnStoreDataReceived_reply _ _ ha).1, deliveredAt, hv]
    by_cases hopen : s.a.fpSubscriberOutput
    · rw [if_pos hopen, if_pos hopen]
      refine List.rel_append h.lines (.cons ?_ .nil)
      exact ⟨x, hx, rfl, s.a.id, m, seqB, t, he, rfl⟩
    · rw [if_neg hopen, if_neg hopen, List.append_nil]
      exact h.lines

theorem homeward (h : (roundTripLts c).Run tr s) :
    Homeward (stored tr) (returned tr) (delivered tr) s := by
  refine h.induct (P := fun tr s => Homeward (stored tr) (returned tr) (delivered tr) s) ?_ ?_
  · rintro _ rfl
    exact homeward_start
  · intro tr s a s' hrun ih hs
    rw [stored_append, returned_append, delivered_append]
    cases step_spec hs with
    | store now v m hpc hm =>
      simp only [returnedAt, deliveredAt, List.append_nil]
      constructor
      · exact fun x hx => (ih.made x hx).mono fun m hm => List.mem_append_left _ hm
      · exact ih.link
      · exact ih.lines
    | forward now m hpc =>
      have hm := (outward hrun).forwarding m (by simp [hpc])
      simpa [storedAt, returnedAt, deliveredAt, hpc] using ih.forward hpc hm now
    | emitReturn v hpc =>
      simp only [storedAt, returnedAt, deliveredAt, List.append_nil]
      refine ih.of_sub ?_ rfl
      simp [hpc, or_comm]
    | receiveReturn j now v ba a hpc hv ha =>
      simp only [storedAt, returnedAt, List.append_nil]
      exact ih.receiveReturn hv ha
    | fetch hpc =>
      simp only [storedAt, returnedAt, deliveredAt, List.append_nil]
      refine ih.of_sub ?_ rfl
      simp [hpc]
    | publish | emit | receive =>
      simp only [storedAt, returnedAt, deliveredAt, List.append_nil]
      exact ih.of_sub (fun v hv => hv) rfl
    | _ =>
      have hr := rests hs trivial
      rw [hr.stored, hr.returned, hr.delivered, List.append_nil, List.append_nil,
        List.append_nil]
      refine ih.of_sub ?_ (by rw [hr.a])
      rw [hr.emittingReturn, hr.ba]
      exact fun v hv => hv

/-! ### The numbers of B's messages -/

/-- B's number in a message that is not a marker. -/
def seqB (x : Verdict × Variant) : Option UInt64 :=
  if x.1.marker = none then x.2.data.bind (·[3]?) else none

/-- The numbers `L` count from -1 and have come to `n`. -/
structure Counted (L : List UInt64) (n : Int64) : Prop where
  head : ∀ k ∈ L.head?, k.toInt64 = -1
  chain : L.IsChain fun k k' => k'.toInt64 = k.toInt64 + 1
  first : L = [] → n = -2
  last : ∀ k ∈ L.getLast?, k.toInt64 = n

lemma counted_nil : Counted [] (-2) := ⟨nofun, .nil, fun _ => rfl, nofun⟩

lemma Counted.push {L : List UInt64} {n : Int64} (h : Counted L n) :
    Counted (L ++ [(n + 1).toUInt64]) (n + 1) := by
  constructor
  · intro k hk
    cases L with
    | nil =>
      cases hk
      rw [h.first rfl]
      decide
    | cons k' L => exact h.head k hk
  · refine List.isChain_append.mpr ⟨h.chain, .singleton _, ?_⟩
    intro k hk k' hk'
    cases hk'
    rw [h.last k hk, Int64.toInt64_toUInt64]
  · simp
  · intro k hk
    rw [List.getLast?_append_of_ne_nil _ (List.cons_ne_nil _ _)] at hk
    cases hk
    exact Int64.toInt64_toUInt64 _

/-- The samples stored in a step have real times. -/
def RealTimes (s : RoundTrip c.cap) (a : Action) : Prop := ∀ m ∈ storedAt s a, m.Real

instance (s : RoundTrip c.cap) (a : Action) : Decidable (RealTimes s a) :=
  inferInstanceAs (Decidable (∀ m ∈ _, _))

theorem counted (h : (roundTripLts c).Run tr s) (hreal : ∀ x ∈ tr, RealTimes x.1 x.2) :
    Counted ((returned tr).filterMap seqB) s.b.txSequence := by
  refine h.induct_of (P := fun tr s => Counted ((returned tr).filterMap seqB) s.b.txSequence)
    ?_ ?_ hreal
  · rintro _ rfl
    exact counted_nil
  · intro tr s a s' hrun hreal ih _ hs
    rw [returned_append, List.filterMap_append]
    cases step_spec hs with
    | forward now m hpc =>
      have hat : returnedAt s (.forward now) = [(s.b.forward c.packetCount m now).2] := by
        simp [returnedAt, hpc]
      rw [hat]
      rcases marker_cases s.b.prevRxSequence m with hv | ⟨e, hv, -⟩
      · -- with real times, whatever is not replaced is counted
        have hgood : verdict s.b.prevRxSequence m = .good := by
          rcases (outward hrun).forwarding m (by simp [hpc]) with rfl | hm
          · rw [verdict_noMessage] at hv
            cases hv
          · obtain ⟨x, hx, hm⟩ := List.mem_flatMap.mp hm
            rw [verdict_of_real (hreal x hx m hm)] at hv ⊢
            split_ifs at hv ⊢ with hdup
            · cases hv
            · rfl
        have htx : (s.b.forward c.packetCount m now).1.txSequence = s.b.txSequence + 1 :=
          if_pos hgood
        have hseqB : seqB (s.b.forward c.packetCount m now).2 =
            some (s.b.txSequence + 1).toUInt64 := by
          rw [(forward_of_plain c.packetCount hv now).1, htx, seqB, if_pos hv]
          rfl
        simp only [List.filterMap_cons, hseqB, List.filterMap_nil, htx]
        exact ih.push
      · obtain ⟨hr, htx, -⟩ := forward_of_marker c.packetCount hv now
        rw [hr]
        simp only [List.filterMap_cons, seqB, hv]
        simpa [htx] using ih
    | fetch hpc =>
      simp only [returnedAt, List.filterMap_nil, List.append_nil, s.b.msgrcv_frame.1]
      exact ih
    | publish | emit | receive | store | emitReturn | receiveReturn =>
      simp only [returnedAt, List.filterMap_nil, List.append_nil]
      exact ih
    | _ =>
      have hr := rests hs trivial
      rw [hr.returned, hr.txSequence, List.filterMap_nil, List.append_nil]
      exact ih

/-! ### Coherence -/

/-- No sample has the number of a marker. -/
lemma not_isMarker_of_published (h : (roundTripLts c).Run tr s) {p : UInt64 × UInt64}
    (hp : p ∈ published tr) : ¬ IsMarker p.1 := by
  obtain ⟨k, hge, hle, he⟩ := published_bounded h hp
  have hpc := c.packetCount.toNat_le
  rw [he]
  exact not_isMarker_of_bounded hge (by omega)

/-- The line for a message that B made of a sample shows that sample, the line for a marker
that marker. -/
lemma WrittenFor.lineMarker (h : (roundTripLts c).Run tr s) {d : Variant × UInt64}
    {l : SubReturnLine} (hl : WrittenFor (returned tr) d l) {v : Verdict}
    (hv : (v, d.1) ∈ returned tr) : lineMarker l = v.marker := by
  obtain ⟨x, hx, -, id, m, n, t, hd, rfl⟩ := hl
  rcases (homeward h).made _ hv with ⟨e, n', t', hmarker, he⟩ | ⟨hplain, m', hm', n', t', he⟩
  · obtain ⟨rfl, -, -⟩ := reply_inj.mp (hd.symm.trans he)
    rw [hmarker]
    exact lineMarker_returnLine hmarker ..
  · obtain ⟨rfl, -, -⟩ := reply_inj.mp (hd.symm.trans he)
    have hne := not_isMarker_of_published h ((outward h).stored m hm')
    rw [hplain, returnLine_of_not_isMarker hne]
    rfl

/-- A line that is not an error comes from a sample that B sent back as it had stored it. -/
lemma WrittenFor.data (h : (roundTripLts c).Run tr s) {d : Variant × UInt64} {r : ReturnTimes}
    (hr : WrittenFor (returned tr) d (.data r)) :
    (⟨r.seqA, r.txPubA, r.rxSubB⟩ : MsgqBuf) ∈ stored tr ∧
      (∃ v : Verdict, v.marker = none ∧
        (v, reply ⟨r.seqA, r.txPubA, r.rxSubB⟩ r.seqB r.txPubB) ∈ returned tr) ∧
      r.returnLatency = r.a2bLatency + r.processingLatency + r.b2aLatency := by
  have hline := hr
  obtain ⟨x, hx, hxd, id, m, n, t, hd, hr⟩ := hr
  rcases (homeward h).made x hx with ⟨e, n', t', hmarker, -⟩ | ⟨hplain, m', hm', n', t', he⟩
  · -- the line of a marker is an error
    have herr := hline.lineMarker h (v := x.1) (by rwa [← hxd])
    rw [hmarker] at herr
    cases herr
  · obtain ⟨rfl, rfl, rfl⟩ := reply_inj.mp ((hd.symm.trans hxd.symm).trans he)
    rw [returnLine_of_not_isMarker (not_isMarker_of_published h ((outward h).stored m hm'))] at hr
    cases hr
    exact ⟨hm', ⟨x.1, hplain, by rwa [← hd, ← hxd]⟩, latency_sum ..⟩

end RoundTrip

open Server RoundTrip in
/-- Return-trip coherence: the times on a line belong to one sample, the latencies add up, each
message delivered gets one line and an error exactly for a marker, and B's numbers count on. -/
theorem return_coherent {c : Config} {tr : List (RoundTrip c.cap × Action)} {s : RoundTrip c.cap}
    (h : (roundTripLts c).Run tr s) (hreal : ∀ x ∈ tr, RealTimes x.1 x.2) :
    (∀ r, .data r ∈ s.a.subReturnOut →
      (r.seqA, r.txPubA) ∈ published tr ∧
      (⟨r.seqA, r.txPubA, r.rxSubB⟩ : MsgqBuf) ∈ stored tr ∧
      (∃ v : Verdict, v.marker = none ∧
        (v, reply ⟨r.seqA, r.txPubA, r.rxSubB⟩ r.seqB r.txPubB) ∈ returned tr) ∧
      r.returnLatency = r.a2bLatency + r.processingLatency + r.b2aLatency) ∧
    List.Forall₂ (fun d l => (∃ v, (v, d.1) ∈ returned tr) ∧
      ∀ v, (v, d.1) ∈ returned tr → lineMarker l = v.marker) (delivered tr) s.a.subReturnOut ∧
    ((returned tr).filterMap seqB).IsChain (fun n n' => n'.toInt64 = n.toInt64 + 1) ∧
    ∀ n ∈ ((returned tr).filterMap seqB).head?, n.toInt64 = -1 := by
  have hlines := (homeward h).lines
  have hcount := counted h hreal
  refine ⟨?_, ?_, hcount.chain, hcount.head⟩
  · intro r hr
    obtain ⟨i, hi, he⟩ := List.mem_iff_getElem.mp hr
    have hwritten := hlines.get (hlines.length_eq ▸ hi) hi
    simp only [List.get_eq_getElem, he] at hwritten
    obtain ⟨hstored, hreturned, hsum⟩ := hwritten.data h
    exact ⟨(outward h).stored _ hstored, hstored, hreturned, hsum⟩
  · refine hlines.imp fun d l hl => ⟨?_, fun v hv => hl.lineMarker h hv⟩
    obtain ⟨x, hx, hd, -⟩ := hl
    exact ⟨x.1, hd ▸ hx⟩

section OneSample

open Server RoundTrip

private def lossyPair : Config where
  packetCount := ⟨5, by decide, by decide⟩
  cap := 1
  link := .lossy
  setupReads := 2
  idA := 0
  idB := 1

/-- One sample goes to B and back. Then B finds its queue empty, A receives the sample again and
at last the marker. -/
private def oneSample : List Action :=
  [.test .aPub, .test .bSub, .test .aSub, .gateA, .publish 1000, .emit, .receive 0, .store 1200,
    .finish, .test .bPub, .gateB, .fetch, .forward 1500, .emitReturn, .test .bPub, .gateB, .fetch,
    .forward 1600, .emitReturn, .receiveReturn 0 1900, .receiveReturn 0 2000,
    .receiveReturn 1 2100]

/-- The lines for it; B numbers it -1. -/
private def oneSampleLines : List SubReturnLine :=
  [.data ⟨200, 1, 0, 1000, 0, 1200, 300, 400, (-1 : Int64).toUInt64, 1500, 1900, 900⟩,
    .data ⟨200, 1, 0, 1000, 0, 1200, 300, 500, (-1 : Int64).toUInt64, 1500, 2000, 1000⟩,
    .msgqCopy]

theorem return_coherent_one_sample :
    ∃ tr s, (roundTripLts lossyPair).Run tr s ∧ s.a.subReturnOut = oneSampleLines ∧
      List.Forall₂ (fun d l => (∃ v, (v, d.1) ∈ returned tr) ∧
        ∀ v, (v, d.1) ∈ returned tr → lineMarker l = v.marker) (delivered tr) s.a.subReturnOut := by
  have hrun : ((roundTripLts lossyPair).replay (start lossyPair) oneSample).map (fun r =>
      decide ((∀ x ∈ r.1, RealTimes x.1 x.2) ∧ r.2.a.subReturnOut = oneSampleLines)) =
      some true := by decide +kernel
  obtain ⟨⟨tr, s⟩, hr, hC⟩ := Option.map_eq_some_iff.mp hrun
  obtain ⟨hreal, hout⟩ := of_decide_eq_true hC
  have hrun := Lts.Run.of_replay (A := roundTripLts lossyPair) rfl hr
  exact ⟨tr, s, hrun, hout, (return_coherent hrun hreal).2.1⟩

end OneSample

end Opcua

end TsnRefSw
