import TsnRefSw.Tsq.Framing.Soundness

/-!
# When no sample is lost

A read brings 255 bytes of a message of 256. Where reads bring all that is pending, the one
byte left over takes a read of its own, after which the next message is met at its first byte.
That read has to come before the next message does: else it swallows the beginning of that
message, and from there on the listener is out of step.
-/

namespace TsnRefSw

open Core
open scoped List

namespace Listener

/-- The sample a read of `bytes` presents to slot `i`: the one that is accepted, or, where the
slot is being kept, the one that is dropped for that reason only. -/
def presentedBy (st : Listener) (i : Slot) (bytes : List UInt8) : List Payload :=
  if st.Keeping i ∧ st.Presents bytes then [window bytes] else st.acceptedBy i bytes

lemma presentedBy_of_presents {st : Listener} {bytes : List UInt8} (h : st.Presents bytes)
    (i : Slot) : st.presentedBy i bytes = [window bytes] := by
  by_cases hk : st.Keeping i
  · simp [presentedBy, hk, h]
  · simp [presentedBy, acceptedBy, hk, h]

lemma presentedBy_of_not_presents {st : Listener} {bytes : List UInt8} (h : ¬ st.Presents bytes)
    (i : Slot) : st.presentedBy i bytes = [] := by
  simp [presentedBy, acceptedBy, h]

/-- A read that ends before the seconds do presents nothing. -/
lemma not_presents_of_short {st : Listener} {bytes : List UInt8} (h : bytes.length ≤ 8) :
    ¬ st.Presents bytes := by
  rintro ⟨-, hv⟩
  have hread : (Memory.zeroFill bytes).readLe 8 8 = (Memory.zeroFill []).readLe 8 8 := by
    apply Memory.readLe_congr
    intro i _
    rw [Memory.zeroFill_of_le (by omega), Memory.zeroFill_of_le (by simp)]
  have hsecs : (window bytes).secs = 0 := by
    simp only [window, Payload.ofBytes, hread]
    decide
  simp [validatePayload, hsecs] at hv

/-- A complete sample of the client of connection `i` passes `validate_payload()`. -/
lemma presents_of_window {st : Listener} {bytes : List UInt8} {i : Slot} (hb : bytes ≠ [])
    (huid : (window bytes).uid = st.cliIds i) (hid : st.cliIds i ≠ 0)
    (hsecs : (window bytes).secs ≠ 0) (hnsecs : (window bytes).nsecs ≠ 0) :
    st.Presents bytes := by
  refine ⟨hb, ?_⟩
  simp only [validatePayload, huid, Bool.and_eq_true, bne_iff_ne, List.any_eq_true, beq_iff_eq]
  exact ⟨⟨⟨hid, hsecs⟩, hnsecs⟩, i, List.mem_finRange i, rfl⟩

lemma iterate_cliIds {st st' : Listener} {io : Io} (h : st.iterate io = .ok st') :
    st'.cliIds = st.cliIds := by
  obtain ⟨st₁, hr, rfl⟩ := iterate_eq_ok.mp h
  rw [← (reads_frame hr).1]
  cases hready : dataReady st₁.plValidFlag with
  | false => rw [compare_of_not_ready hready]
  | true =>
    rw [compare_of_ready hready]
    obtain ⟨-, hs⟩ | ⟨-, hs⟩ | ⟨-, hs⟩ | ⟨-, -, -, hs⟩ := st₁.switch_cases <;> rw [hs] <;> rfl

lemma run_cliIds {cliIds : Slot → Int32} {tr : List (Listener × Io)} {st : Listener}
    (h : (listenerLts cliIds).Run tr st) : st.cliIds = cliIds := by
  apply h.invariant (I := fun st => st.cliIds = cliIds)
  · rintro _ rfl
    rfl
  · intro st io st' hI hs
    rw [iterate_cliIds (listenerLts_step.mp hs), hI]

end Listener

namespace Tsq

variable {uids : Slot → TalkerUid}

/-- The listener takes the talker's identifier from the greeting. -/
lemma atoi_greeting (uid : TalkerUid) :
    atoi ((Talker.greeting uid).take (bufferSize - 1)) = uid.toInt32 := by
  have hlen := Talker.length_decimal_le uid
  have hsplit : (Talker.greeting uid).take (bufferSize - 1) = Talker.decimal uid.val ++ 10 ::
      (List.replicate (bufferSize - (Talker.decimal uid.val ++ [10]).length) 0).take
        (bufferSize - 1 - (Talker.decimal uid.val ++ [10]).length) := by
    rw [Talker.greeting, Talker.sendBuff, List.take_append, List.take_of_length_le,
      List.append_assoc, List.singleton_append]
    simp only [List.length_append, List.length_singleton, bufferSize]
    omega
  rw [hsplit, atoi_decimal (by have := uid.ge; omega)]
  rfl

/-! ### Reads that bring all that is pending -/

/-- Every read of a step returns everything pending, up to the limit of 255 bytes. -/
def ReadsPending (s : State) : Action → Prop
  | .talk _ _       => True
  | .listen _ avail => ∀ i, ∀ k ∈ avail i, k = (s.conn i).pending

/-- Where a read meets the last byte of a message, the next message has not been written. -/
def ReadsInStep (s : State) : Action → Prop
  | .talk _ _       => True
  | .listen _ avail => ∀ i, avail i ≠ none →
      (s.conn i).pos % bufferSize = bufferSize - 1 → (s.conn i).pending = 1

instance (s : State) : (a : Action) → Decidable (ReadsPending s a)
  | .talk _ _       => inferInstanceAs (Decidable True)
  | .listen _ avail => inferInstanceAs (Decidable (∀ i, ∀ k ∈ avail i, k = (s.conn i).pending))

instance (s : State) : (a : Action) → Decidable (ReadsInStep s a)
  | .talk _ _       => inferInstanceAs (Decidable True)
  | .listen _ avail => inferInstanceAs (Decidable (∀ i, avail i ≠ none → _ → _))

/-- The sample a step presents to slot `i`, if any. -/
def presentedAt (i : Slot) (s : State) : Action → List Payload
  | .talk _ _       => []
  | .listen _ avail =>
    match avail i with
    | none   => []
    | some k => s.listener.presentedBy i ((s.conn i).received k)

/-- The samples presented to slot `i` in the course of a run. -/
def presented (i : Slot) (tr : List (State × Action)) : List Payload :=
  tr.flatMap fun x => presentedAt i x.1 x.2

@[simp] lemma presented_append (i : Slot) (tr : List (State × Action)) (s : State)
    (a : Action) : presented i (tr ++ [(s, a)]) = presented i tr ++ presentedAt i s a := by
  simp [presented]

/-- What a talker writes is a complete sample with its identifier. -/
lemma written_valid {first : Slot → Nat} {tr : List (State × Action)} {s : State}
    (h : (tsqLts uids first).Run tr s) (i : Slot) :
    ∀ p ∈ written uids i tr, p.uid = (uids i).toInt32 ∧ p.secs ≠ 0 ∧ p.nsecs ≠ 0 := by
  refine h.induct (P := fun tr _ => ∀ p ∈ written uids i tr,
    p.uid = (uids i).toInt32 ∧ p.secs ≠ 0 ∧ p.nsecs ≠ 0) ?_ ?_
  · intro _ _ p hp
    simp [written] at hp
  · intro tr s a s' _ ih hs p hp
    rw [tsqLts_step] at hs
    rw [written_append, List.mem_append] at hp
    rcases hp with hp | hp
    · exact ih p hp
    · cases a with
      | listen activity avail => simp [writtenAt] at hp
      | talk j io =>
        obtain ⟨-, ⟨-, hw⟩ | ⟨q, hq, -, hw⟩⟩ := step_talk hs
        · simp [hw] at hp
        · rw [hw] at hp
          split_ifs at hp with hij
          · subst hij
            rw [List.mem_singleton.mp hp]
            exact hq
          · simp at hp

/-- A connection that is being read in step: the next read starts at a message or at the last
byte of one, and the messages begun are those whose sample was presented. -/
structure InStep (uids : Slot → TalkerUid) (i : Slot) (tr : List (State × Action)) (s : State) :
    Prop where
  pos : (s.conn i).pos % bufferSize = 0 ∨ (s.conn i).pos % bufferSize = bufferSize - 1
  presented : Tsq.presented i tr = (written uids i tr).take (s.conn i).begun

/-- Writing a message leaves what was read and presented alone. -/
lemma InStep.talk {i j : Slot} {tr : List (State × Action)} {s s' : State} {io : Talker.Io}
    (h : InStep uids i tr s) (hF : Framed uids tr s)
    (hs : step uids s (.talk j io) = some s') : InStep uids i (tr ++ [(s, .talk j io)]) s' := by
  have hpos : (s'.conn i).pos = (s.conn i).pos := by
    obtain ⟨-, ⟨hconn, -⟩ | ⟨p, -, hconn, -⟩⟩ := step_talk hs
    · rw [hconn]
    · rcases eq_or_ne i j with rfl | hij
      · simp [hconn, State.write]
      · simp [hconn, State.write, hij]
  constructor
  · rw [hpos]
    exact h.pos
  · have hbegun : (s.conn i).begun ≤ (written uids i tr).length := by
      have hle := hF.pos_le i
      rw [hF.length_stream] at hle
      simp only [Conn.begun, bufferSize] at hle ⊢
      omega
    have hsame : (s'.conn i).begun = (s.conn i).begun := by rw [Conn.begun, hpos, Conn.begun]
    rw [presented_append, written_append, presentedAt, List.append_nil, h.presented, hsame,
      List.take_append_of_le_length hbegun]

/-- A read in step presents the sample of the message it begins, if it begins one. -/
lemma InStep.read {i : Slot} {k : Nat} {tr : List (State × Action)} {s : State}
    (h : InStep uids i tr s) (hrun : (tsqLts uids fun _ => bufferSize - 1).Run tr s)
    (hk : 0 < k ∧ k ≤ (s.conn i).pending) (hall : k = (s.conn i).pending)
    (hstep : (s.conn i).pos % bufferSize = bufferSize - 1 → (s.conn i).pending = 1) :
    (((s.conn i).advance k).pos % bufferSize = 0 ∨
        ((s.conn i).advance k).pos % bufferSize = bufferSize - 1) ∧
      Tsq.presented i tr ++ s.listener.presentedBy i ((s.conn i).received k)
        = (written uids i tr).take ((s.conn i).advance k).begun := by
  have hF := framed hrun
  rcases h.pos with hpos | hpos
  · -- the read starts at a message, and leaves its last byte behind
    have hfull : bufferSize ≤ k := by
      have hlen := hF.length_stream i
      have hle := hF.pos_le i
      simp only [Conn.pending, bufferSize] at hlen hpos hk hall ⊢
      omega
    obtain ⟨hq, hw⟩ := window_received hF hk hpos fun j hj hn => by
      simp only [Payload.size, bufferSize] at hj hn hfull
      omega
    obtain ⟨-, hb⟩ := Conn.begun_of_aligned (hF.pos_pos i) hk.1 hk.2 hpos
    obtain ⟨huid, hsecs, hnsecs⟩ := written_valid hrun i _ (List.getElem_mem hq)
    have hid : s.listener.cliIds i = (uids i).toInt32 :=
      (congrFun (Listener.run_cliIds (run_listener hrun)) i).trans (atoi_greeting (uids i))
    have hpresents : s.listener.Presents ((s.conn i).received k) := by
      apply Listener.presents_of_window (i := i)
      · apply List.ne_nil_of_length_pos
        rw [Conn.length_received hk.2]
        simp only [bufferSize]
        omega
      · rw [hw, hid, huid]
      · rw [hid]
        exact (uids i).toInt32_ne_zero
      · rw [hw]
        exact hsecs
      · rw [hw]
        exact hnsecs
    constructor
    · right
      simp only [Conn.advance, Conn.length_received hk.2, bufferSize] at hpos hfull ⊢
      omega
    · rw [Listener.presentedBy_of_presents hpresents, hw, hb, h.presented,
        List.take_append_getElem hq]
  · -- the read brings the last byte of a message, and no more
    have hone := hstep hpos
    have hlen : ((s.conn i).received k).length = 1 := by
      rw [Conn.length_received hk.2, hall, hone]
      rfl
    have hnot : ¬ s.listener.Presents ((s.conn i).received k) :=
      Listener.not_presents_of_short (by omega)
    constructor
    · left
      simp only [Conn.advance, hlen, bufferSize] at hpos ⊢
      omega
    · rw [Listener.presentedBy_of_not_presents hnot, List.append_nil, h.presented]
      congr 1
      simp only [Conn.begun, Conn.advance, hlen, bufferSize] at hpos ⊢
      omega

lemma inStep {tr : List (State × Action)} {s : State}
    (h : (tsqLts uids fun _ => bufferSize - 1).Run tr s)
    (hC : ∀ x ∈ tr, ReadsPending x.1 x.2 ∧ ReadsInStep x.1 x.2) (i : Slot) :
    InStep uids i tr s := by
  refine h.induct_of (P := InStep uids i) (C := fun s a => ReadsPending s a ∧ ReadsInStep s a)
    ?_ ?_ hC
  · rintro _ ⟨-, rfl⟩
    exact ⟨.inr rfl, by simp [presented, written]⟩
  · intro tr s a s' hrun _ ih hc hs
    rw [tsqLts_step] at hs
    cases a with
    | talk j io => exact ih.talk (framed hrun) hs
    | listen activity avail =>
      obtain ⟨he, hconn, -, -⟩ := step_listen hs
      constructor
      · rw [hconn, State.advance]
        cases ha : avail i with
        | none => exact ih.pos
        | some k => exact (ih.read hrun (he i k ha) (hc.1 i k ha) (hc.2 i (by simp [ha]))).1
      · rw [presented_append, written_append, presentedAt, writtenAt, List.append_nil, hconn,
          State.advance]
        cases ha : avail i with
        | none => simpa using ih.presented
        | some k => exact (ih.read hrun (he i k ha) (hc.1 i k ha) (hc.2 i (by simp [ha]))).2

end Tsq

/-- Where reads bring all that is pending, and the last byte of each message is read before the
next message is written, the samples presented to a slot are those whose message the listener
has begun to read, each once and in order: all of them, as soon as nothing is pending. -/
theorem presented_eq_written {uids : Slot → TalkerUid} {tr : List (Tsq.State × Tsq.Action)}
    {s : Tsq.State} (h : (tsqLts uids fun _ => bufferSize - 1).Run tr s)
    (hall : ∀ x ∈ tr, Tsq.ReadsPending x.1 x.2) (hC : ∀ x ∈ tr, Tsq.ReadsInStep x.1 x.2)
    (i : Slot) :
    Tsq.presented i tr = (Tsq.written uids i tr).take (s.conn i).begun ∧
      ((s.conn i).pending = 0 → Tsq.presented i tr = Tsq.written uids i tr) := by
  have hI := Tsq.inStep h (fun x hx => ⟨hall x hx, hC x hx⟩) i
  refine ⟨hI.presented, fun hempty => ?_⟩
  have hlen := (Tsq.framed h).length_stream i
  rw [hI.presented, List.take_of_length_le]
  simp only [Tsq.Conn.begun, Tsq.Conn.pending, bufferSize] at hlen hempty ⊢
  omega

/-! ### A message that comes too early -/

section Backlog

open Tsq

private def clients : Slot → TalkerUid := talkers

/-- Talker 0 sends one sample, at 5 s and 700 ns. -/
private def pulse : Action := .talk 0 ⟨.ok (some (5, 700)), false, false⟩

/-- The last byte of the greeting is read before the sample is sent. -/
theorem presented_eq_written_in_step :
    ∃ tr s, (tsqLts clients fun _ => bufferSize - 1).Run tr s ∧
      written clients 0 tr = [⟨1000, 0, 5, 700⟩] ∧ presented 0 tr = written clients 0 tr := by
  have hrun : ((tsqLts clients fun _ => bufferSize - 1).replay
      (Tsq.start clients fun _ => bufferSize - 1)
      [.listen .ready ![some 1, none], pulse, .listen .ready ![some 256, none],
        .listen .ready ![some 1, none]]).map (fun r => decide (
          (∀ x ∈ r.1, ReadsPending x.1 x.2) ∧ (∀ x ∈ r.1, ReadsInStep x.1 x.2) ∧
          (r.2.conn 0).pending = 0 ∧ written clients 0 r.1 = [⟨1000, 0, 5, 700⟩]))
      = some true := by decide +kernel
  obtain ⟨⟨tr, s⟩, hr, hC⟩ := Option.map_eq_some_iff.mp hrun
  obtain ⟨hall, hstep, hempty, hw⟩ := of_decide_eq_true hC
  have hrun := Lts.Run.of_replay (A := tsqLts clients fun _ => bufferSize - 1)
    ⟨by decide, rfl⟩ hr
  exact ⟨tr, s, hrun, hw, (presented_eq_written hrun hall hstep 0).2 hempty⟩

/-- The sample is sent first: the read that drains the greeting swallows its beginning. -/
theorem not_presented_eq_written :
    ¬ ∀ (uids : Slot → TalkerUid) (tr : List (Tsq.State × Tsq.Action)) (s : Tsq.State),
      (tsqLts uids fun _ => bufferSize - 1).Run tr s →
      (∀ x ∈ tr, Tsq.ReadsPending x.1 x.2) →
      ∀ i, (s.conn i).pending = 0 → Tsq.presented i tr = Tsq.written uids i tr := by
  intro h
  have hrun : ((tsqLts clients fun _ => bufferSize - 1).replay
      (Tsq.start clients fun _ => bufferSize - 1)
      [pulse, .listen .ready ![some 257, none], .listen .ready ![some 2, none]]).map
        (fun r => decide ((∀ x ∈ r.1, ReadsPending x.1 x.2) ∧ (r.2.conn 0).pending = 0 ∧
          presented 0 r.1 ≠ written clients 0 r.1)) = some true := by decide +kernel
  obtain ⟨⟨tr, s⟩, hr, hC⟩ := Option.map_eq_some_iff.mp hrun
  obtain ⟨hall, hempty, hne⟩ := of_decide_eq_true hC
  have hrun := Lts.Run.of_replay (A := tsqLts clients fun _ => bufferSize - 1)
    ⟨by decide, rfl⟩ hr
  exact hne (h _ _ _ hrun hall 0 hempty)

end Backlog

end TsnRefSw
