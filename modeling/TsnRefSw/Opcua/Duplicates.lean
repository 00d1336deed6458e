import TsnRefSw.Core.Lts
import TsnRefSw.Opcua.DataSource

/-!
# What the return publisher reports as a duplicate

`pubReturnGetDataToTransmit()` compares the number of the sample it takes off the queue with
`prev_rx_sequence`, which is 999 at first and afterwards the number of the last sample, unless
that number is one of the error markers. Small numbers and the arrival time 999 are exempt from
the comparison.
-/

namespace TsnRefSw

open Core

namespace Opcua

inductive ForwardAct (cap : Nat) where
  /-- The queue comes to hold these messages. -/
  | queue (q : Fifo MsgqBuf cap)
  /-- A call of `pubReturnGetDataToTransmit()`; `now` is the time in nanoseconds. -/
  | call (now : UInt64)

/-- The queue gets any contents with real times, and the return publisher calls. -/
def forwardLts (packetCount : PacketCount) (cap : Nat) : Lts (Server cap) (ForwardAct cap) where
  init s := ∃ id, s = .initialReturn id
  step s
    | .queue q  => if ∀ m ∈ q.items, m.Real then some { s with msgq := some q } else none
    | .call now => some (s.pubReturnGetDataToTransmit packetCount now).1

namespace Server

variable {cap : Nat} {packetCount : PacketCount}

/-- The sample a call takes off the queue, if there is one. -/
def oldest (s : Server cap) : Option MsgqBuf := (s.msgq.bind Fifo.receive).map Prod.fst

/-- The samples taken off the queue in a run. -/
def dequeued (tr : List (Server cap × ForwardAct cap)) : List MsgqBuf :=
  tr.filterMap fun x => match x.2 with
    | .queue _ => none
    | .call _  => x.1.oldest

/-- The last number among those of the samples that is not an error marker. -/
def lastNumber (ms : List MsgqBuf) : Option UInt64 :=
  ((ms.map MsgqBuf.rxSequence).filter fun n => ¬ IsMarker n).getLast?

lemma lastNumber_concat (ms : List MsgqBuf) (m : MsgqBuf) : lastNumber (ms ++ [m]) =
    if IsMarker m.rxSequence then lastNumber ms else some m.rxSequence := by
  unfold lastNumber
  by_cases hm : IsMarker m.rxSequence
  · simp [hm]
  · simp [hm]

/-- No call takes a marker for the number of a sample. -/
lemma not_isMarker_lastNumber {ms : List MsgqBuf} {n : UInt64} (h : lastNumber ms = some n) :
    ¬ IsMarker n := by
  have hmem := List.mem_of_getLast? h
  simpa using (List.mem_filter.mp hmem).2

/-- The call compares the sample's number with the one remembered. -/
def Repeats (prev : UInt64) (m : MsgqBuf) : Prop :=
  m.rxSequence = prev ∧ 10 < m.rxSequence ∧ m.rxTime ≠ 999

instance (prev : UInt64) (m : MsgqBuf) : Decidable (Repeats prev m) :=
  inferInstanceAs (Decidable (_ ∧ _ ∧ _))

lemma verdict_eq_of_real {m : MsgqBuf} (hm : m.Real) (prev : UInt64) :
    verdict prev m = if Repeats prev m then .duplicate else .good :=
  verdict_of_real hm prev

/-- A repeated number is reported and remembered as it was. -/
lemma forward_of_repeats {s : Server cap} {m : MsgqBuf} (hm : m.Real)
    (h : Repeats s.prevRxSequence m) (now : UInt64) :
    (s.forward packetCount m now).1.prevRxSequence = s.prevRxSequence ∧
      (s.forward packetCount m now).2 = (.duplicate,
        reply ⟨errorDuplicate, errorDuplicate, errorDuplicate⟩ s.txSequence.toUInt64 now) := by
  have hv : verdict s.prevRxSequence m = .duplicate := by
    rw [verdict_eq_of_real hm, if_pos h]
  constructor
  · simp [forward, hv, forwarded, Verdict.marker]
  · simp [forward, hv, forwarded, Verdict.marker, reply]

/-- Any other sample is passed on, and its number remembered unless it is a marker. -/
lemma forward_of_not_repeats {s : Server cap} {m : MsgqBuf} (hm : m.Real)
    (h : ¬ Repeats s.prevRxSequence m) (now : UInt64) :
    (s.forward packetCount m now).1.prevRxSequence =
        (if IsMarker m.rxSequence then s.prevRxSequence else m.rxSequence) ∧
      (s.forward packetCount m now).2 = (.good, reply m (s.txSequence + 1).toUInt64 now) := by
  have hv : verdict s.prevRxSequence m = .good := by
    rw [verdict_eq_of_real hm, if_neg h]
  constructor
  · by_cases hmark : IsMarker m.rxSequence
    · rw [if_pos hmark]
      rcases hmark with hmark | hmark | hmark
      · simp [forward, hv, forwarded, Verdict.marker, hmark]
      · simp [forward, hv, forwarded, Verdict.marker, hmark]
      · simp [forward, hv, forwarded, Verdict.marker, hmark]
    · rw [if_neg hmark]
      simp only [IsMarker, not_or] at hmark
      simp [forward, hv, forwarded, Verdict.marker, hmark]
  · simp [forward, hv, forwarded, Verdict.marker, reply]

lemma prevRxSequence_forward {s : Server cap} {m : MsgqBuf} (hm : m.Real)
    (hprev : ¬ IsMarker s.prevRxSequence) (now : UInt64) :
    (s.forward packetCount m now).1.prevRxSequence =
      if IsMarker m.rxSequence then s.prevRxSequence else m.rxSequence := by
  by_cases hrep : Repeats s.prevRxSequence m
  · rw [(forward_of_repeats hm hrep now).1, hrep.1, if_neg hprev]
  · exact (forward_of_not_repeats hm hrep now).1

/-- `prev_rx_sequence` is the last number of the run. -/
structure Remembers (ms : List MsgqBuf) (s : Server cap) : Prop where
  prev : s.prevRxSequence = (lastNumber ms).getD 999
  real : ∀ q, s.msgq = some q → ∀ m ∈ q.items, m.Real

lemma Remembers.not_isMarker {ms : List MsgqBuf} {s : Server cap} (h : Remembers ms s) :
    ¬ IsMarker s.prevRxSequence := by
  rw [h.prev]
  cases hlast : lastNumber ms with
  | none => decide
  | some n => exact not_isMarker_lastNumber hlast

lemma oldest_eq_some {s : Server cap} {m : MsgqBuf} (h : s.oldest = some m) :
    ∃ q q', s.msgq = some q ∧ q.items = m :: q'.items ∧
      s.msgrcv = (m, { s with msgq := some q' }) := by
  obtain ⟨⟨m', q'⟩, hr, rfl⟩ := Option.map_eq_some_iff.mp h
  obtain ⟨q, hq, hqr⟩ := Option.bind_eq_some_iff.mp hr
  exact ⟨q, q', hq, Fifo.items_of_receive hqr, by simp [msgrcv, hq, hqr]⟩

lemma Remembers.real_oldest {ms : List MsgqBuf} {s : Server cap} (h : Remembers ms s)
    {m : MsgqBuf} (hm : s.oldest = some m) : m.Real := by
  obtain ⟨q, q', hq, hitems, -⟩ := oldest_eq_some hm
  apply h.real q hq
  rw [hitems]
  exact List.mem_cons_self ..

/-- A call that finds no sample forgets nothing. -/
lemma forward_noMessage (s : Server cap) (now : UInt64) :
    (s.forward packetCount noMessage now).1.prevRxSequence = s.prevRxSequence ∧
      (s.forward packetCount noMessage now).2 = (.msgqCopy,
        reply ⟨errorMsgqCopy, errorMsgqCopy, errorMsgqCopy⟩ s.txSequence.toUInt64 now) := by
  constructor
  · simp [forward, forwarded, Verdict.marker]
  · simp [forward, forwarded, Verdict.marker, reply]

lemma msgrcv_of_oldest_eq_none {s : Server cap} (h : s.oldest = none) :
    s.msgrcv = (noMessage, s) := by
  have hnone : s.msgq.bind Fifo.receive = none := Option.map_eq_none_iff.mp h
  rw [msgrcv, hnone]

lemma Remembers.call {ms : List MsgqBuf} {s : Server cap} (h : Remembers ms s) (now : UInt64) :
    Remembers (ms ++ s.oldest.toList) (s.pubReturnGetDataToTransmit packetCount now).1 := by
  unfold pubReturnGetDataToTransmit
  cases hm : s.oldest with
  | none =>
    rw [msgrcv_of_oldest_eq_none hm, Option.toList_none, List.append_nil]
    exact ⟨(forward_noMessage s now).1.trans h.prev, h.real⟩
  | some m =>
    obtain ⟨q, q', hq, hitems, hr⟩ := oldest_eq_some hm
    have hreal := h.real_oldest hm
    rw [hr, Option.toList_some]
    refine ⟨?_, ?_⟩
    · rw [lastNumber_concat]
      have hmarker := h.not_isMarker
      apply (prevRxSequence_forward (s := { s with msgq := some q' }) hreal hmarker now).trans
      by_cases hmark : IsMarker m.rxSequence
      · rw [if_pos hmark, if_pos hmark]
        exact h.prev
      · rw [if_neg hmark, if_neg hmark]
        rfl
    · intro q₁ hq₁ m₁ hm₁
      have hq₁ : q' = q₁ := Option.some.inj hq₁
      apply h.real q hq
      rw [hitems, hq₁]
      exact List.mem_cons_of_mem _ hm₁

theorem remembers {tr : List (Server cap × ForwardAct cap)} {s : Server cap}
    (h : (forwardLts packetCount cap).Run tr s) : Remembers (dequeued tr) s := by
  induction h with
  | init h =>
    obtain ⟨id, rfl⟩ := h
    refine ⟨rfl, fun q hq m hm => ?_⟩
    cases hq
    cases hm
  | @step tr s s' a h hs ih =>
    cases a with
    | queue q =>
      obtain ⟨hreal, rfl⟩ := of_guard hs
      refine ⟨?_, fun q' hq' => ?_⟩
      · simpa [dequeued] using ih.prev
      · cases hq'
        exact hreal
    | call now =>
      cases hs
      have hdeq : dequeued (tr ++ [(s, .call now)]) = dequeued tr ++ s.oldest.toList := by
        cases ho : s.oldest <;> simp [dequeued, ho]
      rw [hdeq]
      exact ih.call now

end Server

/-- A sample that is taken off the queue is replaced by the duplicate marker exactly if its number
is above 10, it did not arrive at the time 999, and the last number of the run that is not an
error marker is the same. Otherwise it is passed on unchanged. What happens to a sample that is
numbered 999 before there is a last number is left open. -/
theorem duplicate_iff {packetCount : PacketCount} {cap : Nat}
    {tr : List (Server cap × ForwardAct cap)} {s : Server cap}
    (h : (forwardLts packetCount cap).Run tr s) {m : MsgqBuf} (hm : s.oldest = some m)
    (hfirst : Server.lastNumber (Server.dequeued tr) = none → m.rxSequence ≠ 999)
    (now : UInt64) :
    ∃ seqB, (s.pubReturnGetDataToTransmit packetCount now).2 =
      if Server.lastNumber (Server.dequeued tr) = some m.rxSequence ∧ 10 < m.rxSequence ∧
          m.rxTime ≠ 999 then
        (.duplicate, Server.reply ⟨errorDuplicate, errorDuplicate, errorDuplicate⟩ seqB now)
      else (.good, Server.reply m seqB now) := by
  have hI := Server.remembers h
  have hreal := hI.real_oldest hm
  obtain ⟨q, q', hq, -, hr⟩ := Server.oldest_eq_some hm
  have hlast : Server.lastNumber (Server.dequeued tr) = some m.rxSequence ↔
      m.rxSequence = s.prevRxSequence := by
    rw [hI.prev]
    cases hl : Server.lastNumber (Server.dequeued tr) with
    | none => simpa using hfirst hl
    | some n => simp [eq_comm]
  simp only [hlast, Server.pubReturnGetDataToTransmit, hr]
  by_cases hrep : Server.Repeats s.prevRxSequence m
  · refine ⟨s.txSequence.toUInt64, ?_⟩
    exact (Server.forward_of_repeats (s := { s with msgq := some q' }) hreal hrep now).2.trans
      (if_pos hrep).symm
  · refine ⟨(s.txSequence + 1).toUInt64, ?_⟩
    exact (Server.forward_of_not_repeats (s := { s with msgq := some q' }) hreal hrep now).2.trans
      (if_neg hrep).symm

section Samples

/-- A queue with one message. -/
private def oneMessage (m : MsgqBuf) : Fifo MsgqBuf 120 := ⟨[m], by simp⟩

private def initialB : Server 120 := .initialReturn 0

private lemma step_queue {s : Server 120} {m : MsgqBuf} (hm : m.Real) :
    (forwardLts .thousand 120).step s (.queue (oneMessage m)) =
      some { s with msgq := some (oneMessage m) } :=
  if_pos (by simpa [oneMessage] using hm)

/-- One sample is dequeued, and then another one is in the queue. -/
private lemma run_twice (m m' : MsgqBuf) (hm : m.Real) (hm' : m'.Real) :
    ∃ tr, (forwardLts .thousand 120).Run tr { ({ initialB with msgq := some (oneMessage m) } :
        Server 120).pubReturnGetDataToTransmit .thousand 0 |>.1 with
      msgq := some (oneMessage m') } ∧ Server.dequeued tr = [m] := by
  have h₀ : (forwardLts .thousand 120).Run [] initialB := .init ⟨0, rfl⟩
  have h₁ := h₀.step (step_queue hm)
  have h₂ := h₁.step (a := .call 0) rfl
  have h₃ := h₂.step (step_queue hm')
  exact ⟨_, h₃, rfl⟩

/-- Number 11 comes twice and is reported. -/
theorem duplicate_iff_eleven :
    ∃ tr s seqB, (forwardLts .thousand 120).Run tr s ∧ Server.dequeued tr = [⟨11, 5, 6⟩] ∧
      s.oldest = some ⟨11, 7, 8⟩ ∧ (s.pubReturnGetDataToTransmit .thousand 9).2 =
        (.duplicate, Server.reply ⟨errorDuplicate, errorDuplicate, errorDuplicate⟩ seqB 9) := by
  obtain ⟨tr, h, hdeq⟩ := run_twice ⟨11, 5, 6⟩ ⟨11, 7, 8⟩ (by decide) (by decide)
  obtain ⟨seqB, hout⟩ := duplicate_iff h (m := ⟨11, 7, 8⟩) rfl
    (by rw [hdeq]; decide) 9
  rw [if_pos (by rw [hdeq]; decide)] at hout
  exact ⟨_, _, seqB, h, hdeq, rfl, hout⟩

/-- The verdict on a sample that follows another one is not that it is a duplicate. -/
private def Passes (m m' : MsgqBuf) : Prop :=
  ∃ tr s, (forwardLts .thousand 120).Run tr s ∧ Server.dequeued tr = [m] ∧
    s.oldest = some m' ∧ (s.pubReturnGetDataToTransmit .thousand 9).2.1 = .good

/-- Number 5 is passed on twice, so is number 11 that arrives at the time 999 the second time,
and so is the number that is the duplicate marker; but number 999 is reported the first time it
comes. -/
theorem not_duplicate_iff :
    Passes ⟨5, 5, 6⟩ ⟨5, 7, 8⟩ ∧ Passes ⟨11, 5, 6⟩ ⟨11, 7, 999⟩ ∧
    Passes ⟨errorDuplicate, 5, 6⟩ ⟨errorDuplicate, 7, 8⟩ ∧
    ∃ s, (forwardLts .thousand 120).Run [(initialB, .queue (oneMessage ⟨999, 5, 6⟩))] s ∧
      (s.pubReturnGetDataToTransmit .thousand 9).2.1 = .duplicate := by
  refine ⟨?_, ?_, ?_, ?_⟩
  · obtain ⟨tr, h, hdeq⟩ := run_twice ⟨5, 5, 6⟩ ⟨5, 7, 8⟩ (by decide) (by decide)
    exact ⟨tr, _, h, hdeq, rfl, by decide⟩
  · obtain ⟨tr, h, hdeq⟩ := run_twice ⟨11, 5, 6⟩ ⟨11, 7, 999⟩ (by decide) (by decide)
    exact ⟨tr, _, h, hdeq, rfl, by decide⟩
  · obtain ⟨tr, h, hdeq⟩ := run_twice ⟨errorDuplicate, 5, 6⟩ ⟨errorDuplicate, 7, 8⟩
      (by decide) (by decide)
    exact ⟨tr, _, h, hdeq, rfl, by decide⟩
  · have h₀ : (forwardLts .thousand 120).Run [] initialB := .init ⟨0, rfl⟩
    have h₁ := h₀.step (step_queue (m := ⟨999, 5, 6⟩) (by decide))
    exact ⟨_, h₁, by decide⟩

end Samples

end Opcua

end TsnRefSw
