import TsnRefSw.Core.Blocks
import TsnRefSw.Tsq.Listener.History
import TsnRefSw.Tsq.Talker

/-!
# Two talkers and the listener, joined by TCP

A connection is the bytes its talker has written and the position the listener has read up
to. A talker writes messages of 256 bytes; a read hands out some of the pending bytes, at most
255. The listener takes what one read brought for one sample.
-/

namespace TsnRefSw

open Core
open scoped List

namespace Tsq

/-- One direction of a TCP connection. -/
structure Conn where
  stream : List UInt8
  pos : Nat

namespace Conn

/-- The number of bytes written and not yet read. -/
def pending (c : Conn) : Nat := c.stream.length - c.pos

/-- What `read(connfd, recv_buff, sizeof(recv_buff) - 1)` brings when TCP has `k` bytes
ready. -/
def received (c : Conn) (k : Nat) : List UInt8 :=
  (c.stream.drop c.pos).take (min k (bufferSize - 1))

lemma length_received_le (c : Conn) (k : Nat) : (c.received k).length ≤ bufferSize - 1 := by
  simp only [received, List.length_take]
  omega

/-- The connection after that read. -/
def advance (c : Conn) (k : Nat) : Conn := { c with pos := c.pos + (c.received k).length }

lemma length_received {c : Conn} {k : Nat} (h : k ≤ c.pending) :
    (c.received k).length = min k (bufferSize - 1) := by
  simp only [received, pending, List.length_take, List.length_drop] at h ⊢
  omega

end Conn

/-- The talkers' running numbers, the connections and the listener. -/
structure State where
  seq : Slot → Int32
  conn : Slot → Conn
  listener : Listener

/-- The transmit and receive loops are about to start: of each greeting the listener has read
`first i` bytes, from which it has taken the identifier. -/
def start (uids : Slot → TalkerUid) (first : Slot → Nat) : State where
  seq := fun _ => 0
  conn := fun i => ⟨Talker.greeting (uids i), first i⟩
  listener := .start fun i => atoi ((Talker.greeting (uids i)).take (first i))

/-- A talker or the listener runs through one iteration of its loop. The connections the
listener finds ready are those with `avail i = some k`, where TCP has `k` bytes to hand out.
What a talker writes between the two reads of an iteration is seen by the later read only,
so that the write may as well come before the iteration, or behind it. -/
inductive Action where
  | talk (i : Slot) (io : Talker.Io)
  | listen (activity : Listener.Activity) (avail : Slot → Option Nat)

namespace State

/-- A ready connection has something to read, and TCP hands out no more than that. -/
def Enabled (s : State) (avail : Slot → Option Nat) : Prop :=
  ∀ i, ∀ k ∈ avail i, 0 < k ∧ k ≤ (s.conn i).pending

instance (s : State) (avail : Slot → Option Nat) : Decidable (s.Enabled avail) :=
  inferInstanceAs (Decidable (∀ i, ∀ k ∈ avail i, 0 < k ∧ k ≤ (s.conn i).pending))

/-- What the listener's system calls report. -/
def listenerIo (s : State) (activity : Listener.Activity) (avail : Slot → Option Nat) :
    Listener.Io where
  activity := activity
  slots := fun i =>
    match avail i with
    | none   => .notReady
    | some k => .got ((s.conn i).received k) ((s.conn i).length_received_le k)

/-- The connections after the reads of an iteration. -/
def advance (s : State) (avail : Slot → Option Nat) (i : Slot) : Conn :=
  match avail i with
  | none   => s.conn i
  | some k => (s.conn i).advance k

/-- Talker `i` has written `p`. -/
def write (s : State) (i : Slot) (p : Payload) : Slot → Conn :=
  Function.update s.conn i
    { s.conn i with stream := (s.conn i).stream ++ Talker.message p }

end State

/-- One step of the system. -/
def step (uids : Slot → TalkerUid) (s : State) : Action → Option State
  | .talk i io =>
    match Talker.iterate (uids i).toInt32 (s.seq i) io with
    | .error _         => none
    | .ok (none, seq)  => some { s with seq := Function.update s.seq i seq }
    | .ok (some p, seq) => some { s with
        seq := Function.update s.seq i seq
        conn := s.write i p }
  | .listen activity avail =>
    if s.Enabled avail then
      match s.listener.iterate (s.listenerIo activity avail) with
      | .error _ => none
      | .ok st   => some { s with conn := s.advance avail, listener := st }
    else none

end Tsq

/-- The talkers and the listener, `first i` bytes of each greeting having been read when the
connection was accepted. -/
def tsqLts (uids : Slot → TalkerUid) (first : Slot → Nat) : Lts Tsq.State Tsq.Action where
  init s := (∀ i, 0 < first i ∧ first i ≤ bufferSize - 1) ∧ s = Tsq.start uids first
  step := Tsq.step uids

namespace Tsq

/-! ### Histories -/

/-- The sample talker `i` writes in a step, if any. -/
def writtenAt (uids : Slot → TalkerUid) (i : Slot) (s : State) : Action → List Payload
  | .talk j io =>
    match Talker.iterate (uids j).toInt32 (s.seq j) io with
    | .ok (some p, _) => if j = i then [p] else []
    | _               => []
  | .listen _ _ => []

/-- The samples talker `i` wrote in the course of a run. -/
def written (uids : Slot → TalkerUid) (i : Slot) (tr : List (State × Action)) : List Payload :=
  tr.flatMap fun x => writtenAt uids i x.1 x.2

/-- What a step is for the listener, if it is one of its iterations. -/
def listenerAt (s : State) : Action → List (Listener × Listener.Io)
  | .talk _ _              => []
  | .listen activity avail => [(s.listener, s.listenerIo activity avail)]

/-- The listener's part of a run. -/
def listenerTrace (tr : List (State × Action)) : List (Listener × Listener.Io) :=
  tr.flatMap fun x => listenerAt x.1 x.2

/-- The samples the listener accepted on connection `i` in the course of a run. -/
def accepted (i : Slot) (tr : List (State × Action)) : List Payload :=
  Listener.accepted i (listenerTrace tr)

section
variable (uids : Slot → TalkerUid) (i : Slot) (tr : List (State × Action)) (s : State)
  (a : Action)

@[simp] lemma written_append :
    written uids i (tr ++ [(s, a)]) = written uids i tr ++ writtenAt uids i s a := by
  simp [written]

@[simp] lemma listenerTrace_append :
    listenerTrace (tr ++ [(s, a)]) = listenerTrace tr ++ listenerAt s a := by
  simp [listenerTrace]

end

@[simp] lemma accepted_talk (i j : Slot) (tr : List (State × Action)) (s : State)
    (io : Talker.Io) : accepted i (tr ++ [(s, .talk j io)]) = accepted i tr := by
  simp [accepted, listenerAt]

lemma accepted_listen (i : Slot) (tr : List (State × Action)) (s : State)
    (activity : Listener.Activity) (avail : Slot → Option Nat) :
    accepted i (tr ++ [(s, .listen activity avail)]) = accepted i tr ++
      match avail i with
      | none   => []
      | some k => s.listener.acceptedBy i ((s.conn i).received k) := by
  cases h : avail i <;>
    simp [accepted, listenerAt, Listener.acceptedAt, State.listenerIo, h]

/-! ### What one step can do -/

variable {uids : Slot → TalkerUid} {first : Slot → Nat}

lemma tsqLts_step (s : State) (a : Action) : (tsqLts uids first).step s a = step uids s a := rfl

/-- A talker's step sends a sample or nothing, and leaves the listener alone. -/
lemma step_talk {s s' : State} {i : Slot} {io : Talker.Io}
    (h : step uids s (.talk i io) = some s') :
    s'.listener = s.listener ∧
      ((s'.conn = s.conn ∧ ∀ j, writtenAt uids j s (.talk i io) = []) ∨
        ∃ p : Payload, (p.uid = (uids i).toInt32 ∧ p.secs ≠ 0 ∧ p.nsecs ≠ 0) ∧
          s'.conn = s.write i p ∧
          ∀ j, writtenAt uids j s (.talk i io) = if i = j then [p] else []) := by
  cases ht : Talker.iterate (uids i).toInt32 (s.seq i) io with
  | error e => simp [step, ht] at h
  | ok r =>
    obtain ⟨_ | p, seq⟩ := r
    · simp only [step, ht, Option.some.injEq] at h
      subst h
      exact ⟨rfl, .inl ⟨rfl, fun j => by simp [writtenAt, ht]⟩⟩
    · simp only [step, ht, Option.some.injEq] at h
      subst h
      obtain ⟨huid, -, hsecs, hnsecs, -⟩ := Talker.iterate_eq_some ht
      exact ⟨rfl, .inr ⟨p, ⟨huid, hsecs, hnsecs⟩, rfl, fun j => by simp [writtenAt, ht]⟩⟩

/-- A listener's step is an iteration of its loop and advances the connections it read. -/
lemma step_listen {s s' : State} {activity : Listener.Activity} {avail : Slot → Option Nat}
    (h : step uids s (.listen activity avail) = some s') :
    s.Enabled avail ∧ s'.conn = s.advance avail ∧ s'.seq = s.seq ∧
      s.listener.iterate (s.listenerIo activity avail) = .ok s'.listener := by
  simp only [step] at h
  split_ifs at h with he
  cases hi : s.listener.iterate (s.listenerIo activity avail) with
  | error e => simp [hi] at h
  | ok st =>
    simp only [hi, Option.some.injEq] at h
    subst h
    exact ⟨he, rfl, rfl, rfl⟩

/-- The listener's part of a run of the system is a run of the listener. -/
theorem run_listener {tr : List (State × Action)} {s : State}
    (h : (tsqLts uids first).Run tr s) :
    (listenerLts fun i => atoi ((Talker.greeting (uids i)).take (first i))).Run
      (listenerTrace tr) s.listener := by
  refine h.induct (P := fun tr s =>
    (listenerLts fun i => atoi ((Talker.greeting (uids i)).take (first i))).Run
      (listenerTrace tr) s.listener) ?_ ?_
  · rintro _ ⟨-, rfl⟩
    exact .init rfl
  · intro tr s a s' _ ih hs
    rw [tsqLts_step] at hs
    rw [listenerTrace_append]
    cases a with
    | talk i io =>
      rw [(step_talk hs).1, listenerAt, List.append_nil]
      exact ih
    | listen activity avail =>
      obtain ⟨-, -, -, hi⟩ := step_listen hs
      exact ih.step (listenerLts_step.mpr hi)

/-! ### The shape of the streams -/

/-- A connection carries the greeting and the samples written, each in a message of its own,
and the listener is somewhere behind the first byte. -/
structure Framed (uids : Slot → TalkerUid) (tr : List (State × Action)) (s : State) : Prop where
  stream : ∀ i, (s.conn i).stream =
    (Talker.greeting (uids i) :: (written uids i tr).map Talker.message).flatten
  pos_pos : ∀ i, 0 < (s.conn i).pos
  pos_le : ∀ i, (s.conn i).pos ≤ (s.conn i).stream.length

lemma uniform_messages (uid : TalkerUid) (l : List Payload) :
    Uniform bufferSize (Talker.greeting uid :: l.map Talker.message) := by
  intro b hb
  rw [List.mem_cons, List.mem_map] at hb
  rcases hb with rfl | ⟨p, -, rfl⟩
  · exact Talker.length_greeting uid
  · exact Talker.length_message p

lemma framed {tr : List (State × Action)} {s : State} (h : (tsqLts uids first).Run tr s) :
    Framed uids tr s := by
  refine h.induct ?_ ?_
  · rintro _ ⟨hfirst, rfl⟩
    refine ⟨fun i => ?_, fun i => (hfirst i).1, fun i => ?_⟩
    · simp [start, written]
    · exact (hfirst i).2.trans (by simp [start, Talker.length_greeting])
  · intro tr s a s' _ ih hs
    rw [tsqLts_step] at hs
    cases a with
    | talk j io =>
      obtain ⟨-, ⟨hconn, hw⟩ | ⟨p, -, hconn, hw⟩⟩ := step_talk hs
      · constructor
        · simpa [hconn, hw] using ih.stream
        · simpa [hconn] using ih.pos_pos
        · simpa [hconn] using ih.pos_le
      · have hi : ∀ i, s'.conn i = ⟨(s.conn i).stream ++
            ((if j = i then [p] else []).map Talker.message).flatten, (s.conn i).pos⟩ := by
          intro i
          rcases eq_or_ne i j with rfl | hij
          · simp [hconn, State.write]
          · simp [hconn, State.write, hij, hij.symm]
        constructor
        · intro i
          rw [hi, written_append, hw, ih.stream]
          simp
        · intro i
          rw [hi]
          exact ih.pos_pos i
        · intro i
          rw [hi]
          exact (ih.pos_le i).trans (by simp)
    | listen activity avail =>
      obtain ⟨he, hconn, -, -⟩ := step_listen hs
      have hi : ∀ i, (s'.conn i).stream = (s.conn i).stream ∧
          (s.conn i).pos ≤ (s'.conn i).pos ∧ (s'.conn i).pos ≤ (s.conn i).stream.length := by
        intro i
        rw [hconn, State.advance]
        cases ha : avail i with
        | none => exact ⟨rfl, le_rfl, ih.pos_le i⟩
        | some k =>
          have hk := (he i k ha).2
          have hpos := ih.pos_le i
          refine ⟨rfl, Nat.le_add_right _ _, ?_⟩
          simp only [Conn.advance, Conn.length_received hk, Conn.pending] at hk ⊢
          omega
      constructor
      · intro i
        rw [(hi i).1, written_append, writtenAt, List.append_nil]
        exact ih.stream i
      · exact fun i => (ih.pos_pos i).trans_le (hi i).2.1
      · intro i
        rw [(hi i).1]
        exact (hi i).2.2

end Tsq

end TsnRefSw
