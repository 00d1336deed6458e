import Mathlib.Data.Fin.VecNotation
import TsnRefSw.Tsq.Framing.Basic

/-!
# When the accepted samples are samples a talker wrote

The listener decodes whatever one read brought. As long as each read it accepts a sample from
starts at a message and brings all of the sample that is not zero, the samples accepted on a
connection are samples its talker wrote, unaltered and in order. A read that was cut short
inside a number is accepted as well, and brings a sample nobody wrote.
-/

namespace TsnRefSw

open Core
open scoped List

namespace Tsq

/-! ### Decoding at a position of the stream -/

/-- Bytes that are zero need not be read: the receive buffer was zeroed. -/
lemma window_take {l : List UInt8} {n : Nat}
    (h : ∀ j < Payload.size, n ≤ j → l.getD j 0 = 0) :
    Listener.window (l.take n) = Listener.window l := by
  apply Payload.ofBytes_congr
  intro j hj
  rcases Nat.lt_or_ge j n with hn | hn
  · exact Memory.zeroFill_take hn
  · rw [Memory.zeroFill_of_le ((List.length_take_le n l).trans hn)]
    exact (h j hj hn).symm

lemma window_message (p : Payload) (l : List UInt8) :
    Listener.window (Talker.message p ++ l) = p := by
  rw [Listener.window, Talker.message, Talker.sendBuff, List.append_assoc]
  exact Payload.ofBytes_toBytes p _

namespace Conn

/-- The messages behind the greeting of which the listener has read the first byte. -/
def begun (c : Conn) : Nat := (c.pos - 1) / bufferSize

lemma begun_le_advance (c : Conn) (k : Nat) : c.begun ≤ (c.advance k).begun :=
  Nat.div_le_div_right (by simp only [advance]; omega)

/-- A read at the start of a message begins that message and no other. -/
lemma begun_of_aligned {c : Conn} {k : Nat} (hpos : 0 < c.pos) (hk : 0 < k)
    (hkp : k ≤ c.pending) (h : c.pos % bufferSize = 0) :
    c.pos = bufferSize * (c.begun + 1) ∧ (c.advance k).begun = c.begun + 1 := by
  simp only [begun, advance, length_received hkp, bufferSize] at *
  omega

end Conn

namespace Framed

variable {uids : Slot → TalkerUid} {tr : List (State × Action)} {s : State}

lemma length_stream (h : Framed uids tr s) (i : Slot) :
    (s.conn i).stream.length = bufferSize * ((written uids i tr).length + 1) := by
  rw [h.stream, (uniform_messages _ _).length_flatten, List.length_cons, List.length_map]

/-- Where message `q` begins, the stream continues with that message. -/
lemma drop_stream (h : Framed uids tr s) (i : Slot) {q : Nat}
    (hq : q < (written uids i tr).length) :
    ∃ l, (s.conn i).stream.drop (bufferSize * (q + 1)) =
      Talker.message (written uids i tr)[q] ++ l := by
  refine ⟨(((written uids i tr).drop (q + 1)).map Talker.message).flatten, ?_⟩
  rw [h.stream, (uniform_messages _ _).drop_flatten, List.drop_succ_cons, ← List.map_drop,
    List.drop_eq_getElem_cons hq, List.map_cons, List.flatten_cons]

end Framed

/-! ### Reads that bring a whole sample -/

/-- If the listener accepts a sample from a read of `k` bytes on connection `i`, the read starts
at the first byte of a message, and the bytes of the sample it does not bring are zero. -/
def State.ReadsWhole (s : State) (i : Slot) (k : Nat) : Prop :=
  ¬ s.listener.Keeping i → s.listener.Presents ((s.conn i).received k) →
    (s.conn i).pos % bufferSize = 0 ∧ ∀ j < Payload.size, min k (bufferSize - 1) ≤ j →
      (s.conn i).stream.getD ((s.conn i).pos + j) 0 = 0

instance (s : State) (i : Slot) (k : Nat) : Decidable (s.ReadsWhole i k) :=
  inferInstanceAs (Decidable (_ → _ → _ ∧ _))

/-- All reads of a step do so. -/
def ReadsWhole (s : State) : Action → Prop
  | .talk _ _       => True
  | .listen _ avail => ∀ i, ∀ k ∈ avail i, s.ReadsWhole i k

instance (s : State) : (a : Action) → Decidable (ReadsWhole s a)
  | .talk _ _       => inferInstanceAs (Decidable True)
  | .listen _ avail => inferInstanceAs (Decidable (∀ i, ∀ k ∈ avail i, s.ReadsWhole i k))

variable {uids : Slot → TalkerUid} {first : Slot → Nat}

/-- Such a read brings the sample whose message begins there. -/
lemma window_received {tr : List (State × Action)} {s : State} (hF : Framed uids tr s)
    {i : Slot} {k : Nat} (hk : 0 < k ∧ k ≤ (s.conn i).pending)
    (hpos : (s.conn i).pos % bufferSize = 0) (hzero : ∀ j < Payload.size,
      min k (bufferSize - 1) ≤ j → (s.conn i).stream.getD ((s.conn i).pos + j) 0 = 0) :
    ∃ hq : (s.conn i).begun < (written uids i tr).length,
      Listener.window ((s.conn i).received k) = (written uids i tr)[(s.conn i).begun] := by
  obtain ⟨hat, -⟩ := Conn.begun_of_aligned (hF.pos_pos i) hk.1 hk.2 hpos
  have hq : (s.conn i).begun < (written uids i tr).length := by
    have hlen := hF.length_stream i
    have hpend := hk.1.trans_le hk.2
    simp only [Conn.pending, bufferSize] at hlen hat hpend
    omega
  obtain ⟨l, hl⟩ := hF.drop_stream i hq
  refine ⟨hq, ?_⟩
  rw [Conn.received, window_take, hat, hl, window_message]
  intro j hj hn
  have hj := hzero j hj hn
  rw [List.getD_eq_getElem?_getD] at hj
  rwa [List.getD_eq_getElem?_getD, List.getElem?_drop]

/-- The accepted samples stay among those whose message has been begun. -/
lemma accepted_sublist {tr : List (State × Action)} {s : State}
    (h : (tsqLts uids first).Run tr s) (hC : ∀ x ∈ tr, ReadsWhole x.1 x.2) (i : Slot) :
    accepted i tr <+ (written uids i tr).take (s.conn i).begun := by
  refine h.induct_of (P := fun tr s => accepted i tr <+ (written uids i tr).take (s.conn i).begun)
    ?_ ?_ hC
  · intro s _
    exact List.nil_sublist _
  · intro tr s a s' hrun _ ih hc hs
    rw [tsqLts_step] at hs
    cases a with
    | talk j io =>
      -- more is written, and nothing is read
      have hbegun : (s'.conn i).begun = (s.conn i).begun := by
        obtain ⟨-, ⟨hconn, -⟩ | ⟨p, -, hconn, -⟩⟩ := step_talk hs
        · rw [hconn]
        · rcases eq_or_ne i j with rfl | hij
          · simp [hconn, State.write, Conn.begun]
          · simp [hconn, State.write, hij]
      rw [accepted_talk, written_append, hbegun, List.take_append]
      exact ih.trans (List.sublist_append_left _ _)
    | listen activity avail =>
      obtain ⟨he, hconn, -, -⟩ := step_listen hs
      rw [accepted_listen, written_append, writtenAt, List.append_nil, hconn, State.advance]
      cases ha : avail i with
      | none => simpa using ih
      | some k =>
        have hk := he i k ha
        simp only [Listener.acceptedBy]
        split_ifs with hacc
        · obtain ⟨hpos, hzero⟩ := hc i k ha hacc.1 hacc.2
          obtain ⟨hq, hw⟩ := window_received (framed hrun) hk hpos hzero
          obtain ⟨-, hb⟩ := Conn.begun_of_aligned ((framed hrun).pos_pos i) hk.1 hk.2 hpos
          rw [hb, hw, ← List.take_append_getElem hq]
          exact ih.append (List.Sublist.refl _)
        · rw [List.append_nil]
          exact ih.trans (List.take_sublist_take_left (Conn.begun_le_advance _ k))

end Tsq

/-- In a run in which every read the listener accepts a sample from brings a whole sample, the
samples accepted on a connection are, unaltered and in order, among those its talker wrote. -/
theorem accepted_sublist_written {uids : Slot → TalkerUid} {first : Slot → Nat}
    {tr : List (Tsq.State × Tsq.Action)} {s : Tsq.State} (h : (tsqLts uids first).Run tr s)
    (hC : ∀ x ∈ tr, Tsq.ReadsWhole x.1 x.2) (i : Slot) :
    Tsq.accepted i tr <+ Tsq.written uids i tr :=
  (Tsq.accepted_sublist h hC i).trans (List.take_sublist _ _)

/-! ### A read that is cut short -/

section ShortRead

open Tsq

/-- Talkers 1000 and 1001. -/
def talkers : Slot → TalkerUid
  | 0 => ⟨1000, by decide, by decide⟩
  | 1 => ⟨1001, by decide, by decide⟩

private def uids : Slot → TalkerUid := talkers

/-- Talker 0 reports a pulse at 5 s and 2^24 + 1 ns, after its greeting was read to the end;
the next read brings `k` bytes. -/
private def pulseThenRead (k : Nat) : List Action :=
  [.listen .ready ![some 1, none],
    .talk 0 ⟨.ok (some (5, 16777217)), false, false⟩,
    .listen .ready ![some k, none]]

/-- Read whole, the sample is accepted and is the one that was written. -/
theorem accepted_sublist_written_whole :
    ∃ tr s, (tsqLts uids fun _ => 255).Run tr s ∧
      accepted 0 tr = [⟨1000, 0, 5, 16777217⟩] ∧ accepted 0 tr <+ written uids 0 tr := by
  have hrun : ((tsqLts uids fun _ => 255).replay (Tsq.start uids fun _ => 255)
      (pulseThenRead 256)).map (fun r =>
        decide ((∀ x ∈ r.1, ReadsWhole x.1 x.2) ∧ accepted 0 r.1 = [⟨1000, 0, 5, 16777217⟩]))
      = some true := by decide +kernel
  obtain ⟨⟨tr, s⟩, hr, hC⟩ := Option.map_eq_some_iff.mp hrun
  obtain ⟨hwhole, hacc⟩ := of_decide_eq_true hC
  have hrun := Lts.Run.of_replay (A := tsqLts uids fun _ => 255) ⟨by decide, rfl⟩ hr
  exact ⟨tr, s, hrun, hacc, accepted_sublist_written hrun hwhole 0⟩

/-- Cut off after 17 bytes, it is accepted as a sample at 5 s and 1 ns. -/
theorem not_accepted_sublist_written :
    ¬ ∀ (uids : Slot → TalkerUid) (first : Slot → Nat) (tr : List (Tsq.State × Tsq.Action))
      (s : Tsq.State), (tsqLts uids first).Run tr s →
      ∀ i, Tsq.accepted i tr <+ Tsq.written uids i tr := by
  intro h
  have hrun : ((tsqLts uids fun _ => 255).replay (Tsq.start uids fun _ => 255)
      (pulseThenRead 17)).map (fun r => decide (accepted 0 r.1 <+ written uids 0 r.1))
      = some false := by decide +kernel
  obtain ⟨⟨tr, s⟩, hr, hC⟩ := Option.map_eq_some_iff.mp hrun
  have hrun := Lts.Run.of_replay (A := tsqLts uids fun _ => 255) ⟨by decide, rfl⟩ hr
  exact of_decide_eq_false hC (h _ _ _ _ hrun 0)

end ShortRead

end TsnRefSw
